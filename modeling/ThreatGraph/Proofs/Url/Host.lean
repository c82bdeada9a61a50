import ThreatGraph.Proofs.Text.Form
import ThreatGraph.Proofs.Url.Address
import ThreatGraph.Proofs.Url.HostName

/-!
# Reading back hosts

The text of a host that was read is read as that host again (`Host.parse_text`), unless it is a name
with a label that is too long (`Host.fits`).  That text is in one of two forms: the characters of a
name, or the same and colons between brackets (`Host.IsRead.hasShape`).

An address of version 4 is read as a name first, and becomes an address since the name ends in a
number.  So the text of such an address has to be a name that stands for itself
(`HostName.read?_of_plain`).
-/

set_option autoImplicit false

namespace ThreatGraph

namespace HostName

/-- A label that does not seem to be punycode stands for itself. -/
theorem Label.read?_of_plain {cs : List Char} (hascii : isAscii cs = true)
    (hmark : afterStart? mark cs = none) : Label.read? cs = some ⟨cs, cs⟩ := by
  rw [Label.read?, if_pos hascii, ofAscii?, hmark]

/-- No ASCII character asks that labels be written one way. -/
theorem needsOneWay_of_isAscii {cs : List Char} (h : isAscii cs = true) :
    Direction.needsOneWay cs = false := by
  refine List.any_eq_false.2 fun c hc => ?_
  have hlt : c.toNat < 0x80 := by simpa using List.all_eq_true.1 h c hc
  rw [Direction.of, if_pos hlt]
  split
  · decide
  split
  · decide
  · decide

/-- The mark of punycode begins with the letter x. -/
theorem afterStart?_mark_of_not_mem {cs : List Char} (h : 'x' ∉ cs) :
    afterStart? Label.mark cs = none := by
  cases cs with
  | nil => rfl
  | cons c cs =>
    rw [List.mem_cons, not_or] at h
    exact if_neg h.1

/-- A name without punycode is read as it stands. -/
theorem read?_of_plain {cs : List Char} (hname : ∀ c ∈ cs, isNameChar c = true)
    (hmark : ∀ piece ∈ splitOn '.' cs, afterStart? Label.mark piece = none) :
    read? cs = some cs := by
  have hascii : ∀ piece ∈ splitOn '.' cs, isAscii piece = true := fun piece hpiece =>
    List.all_eq_true.2 fun c hc => by
      have := hname c ((not_mem_of_mem_splitOn hpiece).2 hc)
      simp only [isNameChar, Bool.and_eq_true] at this
      exact this.1
  let labels : List Label := (splitOn '.' cs).map fun piece => ⟨piece, piece⟩
  have hwritten : labels.map Label.written = splitOn '.' cs := by
    simp [labels, Function.comp_def]
  have hread : (labels.map Label.written).mapM Label.read? = some labels := by
    refine mapM_map_of_forall fun l hl => ?_
    obtain ⟨piece, hpiece, rfl⟩ := List.mem_map.1 hl
    exact Label.read?_of_plain (hascii piece hpiece) (hmark piece hpiece)
  have honeWay : areOneWay labels = true := by
    have hany : labels.any (Direction.needsOneWay ·.chars) = false :=
      List.any_eq_false.2 fun l hl => by
        obtain ⟨piece, hpiece, rfl⟩ := List.mem_map.1 hl
        rw [needsOneWay_of_isAscii (hascii piece hpiece)]
        decide
    rw [areOneWay, hany]
    rfl
  have hlabels : labels? cs = some labels := by
    rw [labels?, ← hwritten, hread]
    exact if_pos honeWay
  rw [read?_of_isNameChar hname, hlabels, Option.map_some, hwritten, joinSep_splitOn]

end HostName

namespace Host

/-! ## Hosts that are read

What holds of a host depends on which of the three kinds it is.  Of a name it is kept from which
text it was read, since this is what makes it be read again. -/

/-- What holds of a host that is read: a name is one that was written, and an address is in
range. -/
inductive IsRead : Host → Prop where
  | name {cs written : List Char} (h : HostName.read? cs = some written) (hne : written ≠ [])
      (hnumber : endsInNumber written = false) : IsRead (.name (String.ofList written))
  | address4 {n : Nat} (h : n < addressCount) : IsRead (.address4 n)
  | address6 {gs : List Nat} (h : Groups gs) : IsRead (.address6 gs)

/-- What stands in brackets is read as an address of version 6. -/
theorem isRead_of_parseBracketed {cs : List Char} {host : Host}
    (h : parseBracketed cs = .ok host) : host.IsRead := by
  rw [parseBracketed] at h
  split at h
  · next gs hparse =>
    cases h
    obtain ⟨_, _, hgs⟩ := Option.bind_eq_some_iff.1 hparse
    exact .address6 (groups_of_parse6? hgs)
  · cases h

/-- The host of a web URL. -/
theorem isRead_of_parse {cs : List Char} {host : Host} (h : parse cs = .ok host) :
    host.IsRead := by
  unfold parse at h
  split at h
  · exact isRead_of_parseBracketed h
  · rw [parseName] at h
    split at h
    · next written hwritten =>
      obtain ⟨text, _, hname⟩ := Option.bind_eq_some_iff.1 hwritten
      dsimp only [bind, Except.bind] at h
      split at h
      · cases h
      · next hne =>
        split at h
        · split at h
          · next n hn =>
            cases h
            exact .address4 (lt_of_parse4? hn)
          · cases h
        · next hnumber =>
          cases h
          exact .name hname (by simpa using hne) (by simpa using hnumber)
    · cases h

/-- Whether the text of a host can be read again. -/
def fits : Host → Bool
  | .name s => HostName.fits s.toList
  | _ => true

/-! ## The characters of a host

The characters of a host matter where it is told from the parts around it: from user information,
from the port and from the path. -/

/-- The text of a name or of an address of version 4 holds characters of a name only, and that of
an address of version 6 does so between its brackets, but for colons. -/
inductive HasShape : List Char → Prop where
  | plain {cs : List Char} (hne : cs ≠ []) (h : ∀ c ∈ cs, HostName.isNameChar c = true) :
    HasShape cs
  | bracketed {cs : List Char} (h : ∀ c ∈ cs, HostName.isNameChar c = true ∨ c = ':') :
      HasShape ('[' :: cs ++ [']'])

theorem HasShape.ne_nil {cs : List Char} (h : HasShape cs) : cs ≠ [] := by
  cases h with
  | plain hne _ => exact hne
  | bracketed _ => exact List.cons_ne_nil _ _

/-- The digits of a numeral in a base up to sixteen are small letters and digits. -/
theorem isNameChar_of_mem_toDigits {base n : Nat} (hbase : 1 < base) (hle : base ≤ 16) {c : Char}
    (h : c ∈ Nat.toDigits base n) : HostName.isNameChar c = true := by
  have hdigit : ∀ d < 16, HostName.isNameChar (Nat.digitChar d) = true := by decide
  obtain ⟨d, hd, rfl⟩ := mem_toDigits hbase h
  exact hdigit d (Nat.lt_of_lt_of_le hd hle)

theorem isNameChar_text4 (n : Nat) : ∀ c ∈ (text4 n).toList, HostName.isNameChar c = true := by
  intro c hc
  rw [toList_text4] at hc
  rcases mem_joinSep hc with rfl | ⟨piece, hpiece, hc⟩
  · decide
  · obtain ⟨k, _, rfl⟩ := List.mem_map.1 hpiece
    exact isNameChar_of_mem_toDigits (by decide) (by decide) hc

theorem mem_joinSep_pieces6 {gs : List Nat} {c : Char} (h : c ∈ joinSep ':' (pieces6 gs)) :
    HostName.isNameChar c = true ∨ c = ':' := by
  rcases mem_joinSep h with rfl | ⟨piece, hpiece, hc⟩
  · exact .inr rfl
  · obtain ⟨k, _, rfl⟩ := List.mem_map.1 hpiece
    exact .inl (isNameChar_of_mem_toDigits (by decide) (by decide) hc)

/-- A run of zeros that is left out leaves two colons. -/
theorem mem_text6 {gs : List Nat} {c : Char} (h : c ∈ (text6 gs).toList) :
    HostName.isNameChar c = true ∨ c = ':' := by
  rcases toList_text6 gs with htext | ⟨left, zeros, right, _, _, htext⟩
  · rw [htext] at h
    exact mem_joinSep_pieces6 h
  · rw [htext, List.mem_append, List.mem_cons, List.mem_cons] at h
    rcases h with h | h | h | h
    · exact mem_joinSep_pieces6 h
    · exact .inr h
    · exact .inr h
    · exact mem_joinSep_pieces6 h

theorem toList_text_address6 (gs : List Nat) :
    (text (.address6 gs)).toList = '[' :: (text6 gs).toList ++ [']'] := by
  rw [text, String.toList_append, String.toList_append]
  rfl

/-- An address of version 4 is written with dots at least. -/
theorem text4_ne_nil (n : Nat) : (text4 n).toList ≠ [] := by
  intro h
  have := endsInNumber_text4 n
  rw [h] at this
  exact absurd this (by decide)

/-- The text of a host that was read. -/
theorem IsRead.hasShape {host : Host} (h : host.IsRead) : HasShape host.text.toList := by
  cases h with
  | @name cs written h hne _ =>
    rw [text, String.toList_ofList]
    exact .plain hne (HostName.isNameChar_of_read? h)
  | @address4 n h => exact .plain (text4_ne_nil n) (isNameChar_text4 n)
  | address6 h =>
    rw [toList_text_address6]
    exact .bracketed fun c hc => mem_text6 hc

/-! ## Reading again

A host is read as an address of version 6 if it begins with a bracket, and else as a name.  Among
the names are the addresses of version 4, and these are told from other names by their last
label. -/

/-- No character of a name is one of those that part a host from what is around it. -/
theorem name_ne_bracket {cs : List Char} (h : ∀ c ∈ cs, HostName.isNameChar c = true) :
    '[' ∉ cs ∧ ']' ∉ cs ∧ ':' ∉ cs ∧ '%' ∉ cs :=
  ⟨fun hc => absurd (h _ hc) (by decide), fun hc => absurd (h _ hc) (by decide),
    fun hc => absurd (h _ hc) (by decide), fun hc => absurd (h _ hc) (by decide)⟩

/-- A text of the characters of a name is read as a name. -/
theorem parse_of_isNameChar {cs : List Char} (h : ∀ c ∈ cs, HostName.isNameChar c = true) :
    parse cs =
      match HostName.read? cs with
      | none => .error .badName
      | some written =>
        if written.isEmpty then .error .emptyHost
        else if endsInNumber written then
          match parse4? written with
          | some n => .ok (.address4 n)
          | none => .error .badAddress4
        else .ok (.name (String.ofList written)) := by
  obtain ⟨hopen, _, _, hpercent⟩ := name_ne_bracket h
  have htext : (decodeStrict? (percentDecode cs)).bind HostName.read? = HostName.read? cs := by
    rw [percentDecode_of_not_mem hpercent, decodeStrict?_utf8Bytes, Option.bind_some]
  unfold parse
  split
  · exact absurd List.mem_cons_self hopen
  · rw [parseName, htext]
    cases HostName.read? cs <;> rfl

/-- **A host again.**  The text of a host is read as the host, unless it is a name that is too
long. -/
theorem parse_text {host : Host} (h : host.IsRead) :
    parse host.text.toList = if host.fits then .ok host else .error .badName := by
  cases h with
  | @name cs written h hne hnumber =>
    rw [text, fits, String.toList_ofList, parse_of_isNameChar (HostName.isNameChar_of_read? h),
      HostName.read?_written h]
    cases HostName.fits written with
    | true => simp [hne, hnumber]
    | false => rfl
  | @address4 n h =>
    have hread : HostName.read? (text4 n).toList = some (text4 n).toList := by
      refine HostName.read?_of_plain (isNameChar_text4 n) fun piece hpiece => ?_
      rw [splitOn_text4] at hpiece
      obtain ⟨k, _, rfl⟩ := List.mem_map.1 hpiece
      exact HostName.afterStart?_mark_of_not_mem (not_mem_toDigits (by decide) (by decide))
    have hne : (text4 n).toList.isEmpty = false := by
      simpa only [List.isEmpty_eq_false_iff] using text4_ne_nil n
    rw [text, parse_of_isNameChar (isNameChar_text4 n), hread]
    dsimp only
    rw [hne, endsInNumber_text4, parse4?_text4 h]
    rfl
  | @address6 gs h =>
    rw [toList_text_address6, List.cons_append]
    rw [parse, parseBracketed, unbracket?, List.getLast?_concat, if_pos rfl, List.dropLast_concat,
      Option.bind_some, parse6?_text6 h]
    rfl

end Host

end ThreatGraph
