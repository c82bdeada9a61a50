import ThreatGraph.Proofs.Text.Numeral
import ThreatGraph.Proofs.Text.Split
import ThreatGraph.Url.Host

/-!
# Reading back addresses

An address of version 4 is read from its four numbers in decimal (`Host.parse4?_text4`), and one of
version 6 from its eight groups in base sixteen, of which the longest run of zeros may be left out
(`Host.parse6?_text6`).  What is read is always in the range of such an address
(`Host.lt_of_parse4?`, `Host.Groups`).
-/

set_option autoImplicit false

namespace ThreatGraph.Host

/-! ## Addresses of version 4

An address of version 4 may be written with fewer than four numbers, and its last number then stands
for all bytes that are left.  It is written with four, so the last one is a byte like the others. -/

/-- The number of addresses of version 4. -/
def addressCount : Nat := 256 ^ 4

/-- The four bytes of an address of version 4. -/
def bytes4 (n : Nat) : List Nat := [0x1000000, 0x10000, 0x100, 1].map fun unit => n / unit % 0x100

/-- Each byte makes the address greater by a factor of 256 at most. -/
theorem foldl_bytes_lt {parts : List Nat} (h : ∀ n ∈ parts, n ≤ 255) (acc count : Nat)
    (hacc : acc < 256 ^ count) :
    parts.foldl (fun acc n => acc * 256 + n) acc < 256 ^ (count + parts.length) := by
  induction parts generalizing acc count with
  | nil => exact hacc
  | cons n parts ih =>
    have hn := h n List.mem_cons_self
    have := ih (fun m hm => h m (List.mem_cons_of_mem _ hm)) (acc * 256 + n) (count + 1)
      (by rw [Nat.pow_succ]; omega)
    rwa [List.length_cons, Nat.add_comm parts.length, ← Nat.add_assoc]

/-- Parts make an address that there is. -/
theorem lt_of_combineParts? {parts : List Nat} {n : Nat} (h : combineParts? parts = some n) :
    n < addressCount := by
  rw [combineParts?] at h
  split at h
  · cases h
  · next last hlast =>
    dsimp only at h
    split at h
    · cases h
    · next hfits =>
      simp only [not_or, Nat.not_lt, List.any_eq_true, decide_eq_true_eq, not_exists, not_and,
        Nat.not_le] at hfits
      obtain ⟨hcount, hfront, hroom⟩ := hfits
      cases h
      have hlen : parts.dropLast.length + (5 - parts.length) = 4 := by
        have : parts ≠ [] := fun hnil => by simp [hnil] at hlast
        have := List.length_pos_iff.2 this
        rw [List.length_dropLast]
        omega
      have hfold := foldl_bytes_lt hfront 0 0 (by decide)
      rw [Nat.zero_add] at hfold
      calc _ < (parts.dropLast.foldl (fun acc n => acc * 256 + n) 0 + 1)
              * 256 ^ (5 - parts.length) := by
            rw [Nat.add_mul, Nat.one_mul]
            exact Nat.add_lt_add_left hroom _
        _ ≤ 256 ^ parts.dropLast.length * 256 ^ (5 - parts.length) :=
            Nat.mul_le_mul_right _ hfold
        _ = addressCount := by rw [← Nat.pow_add, hlen]; rfl

/-- An address that is read is one of those that there are. -/
theorem lt_of_parse4? {cs : List Char} {n : Nat} (h : parse4? cs = some n) : n < addressCount := by
  rw [parse4?] at h
  obtain ⟨parts, _, hparts⟩ := Option.bind_eq_some_iff.1 h
  exact lt_of_combineParts? hparts

/-- The text of an address of version 4 is its bytes in decimal, with dots between them. -/
theorem toList_text4 (n : Nat) :
    (text4 n).toList = joinSep '.' ((bytes4 n).map (Nat.toDigits 10)) := by
  rw [text4, bytes4, String.toList_intercalate, ← intercalate_eq_joinSep]
  simp

/-- A byte in decimal is read as the byte. -/
theorem part?_byte : ∀ k < 256, part? (Nat.toDigits 10 k) = some k := by
  decide +kernel

/-- Numerals hold no character that is not a digit of theirs. -/
theorem not_mem_toDigits {base n : Nat} {c : Char} (hbase : 1 < base)
    (hc : ∀ d < base, c ≠ Nat.digitChar d) : c ∉ Nat.toDigits base n := fun h =>
  have ⟨d, hd, heq⟩ := mem_toDigits hbase h
  hc d hd heq

/-- The dots are found again, since there are none in numerals. -/
theorem splitOn_text4 (n : Nat) :
    splitOn '.' (text4 n).toList = (bytes4 n).map (Nat.toDigits 10) := by
  rw [toList_text4]
  refine splitOn_joinSep (by simp [bytes4]) fun piece hpiece => ?_
  obtain ⟨k, _, rfl⟩ := List.mem_map.1 hpiece
  exact not_mem_toDigits (by decide) (by decide)

/-- The labels of an address are its bytes. -/
theorem labels_text4 (n : Nat) : labels (text4 n).toList = (bytes4 n).map (Nat.toDigits 10) := by
  rw [labels, splitOn_text4]
  exact if_neg fun h => absurd h.2 (by simp [bytes4])

/-- **Addresses of version 4.**  An address is read from its text. -/
theorem parse4?_text4 {n : Nat} (h : n < addressCount) : parse4? (text4 n).toList = some n := by
  have hparts : ((bytes4 n).map (Nat.toDigits 10)).mapM part? = some (bytes4 n) := by
    refine mapM_map_of_forall fun k hk => part?_byte k ?_
    obtain ⟨unit, _, rfl⟩ := List.mem_map.1 hk
    exact Nat.mod_lt _ (by decide)
  have hcombine : combineParts? (bytes4 n) = some n := by
    have : n < 4294967296 := h
    simp [combineParts?, bytes4]
    omega
  rw [parse4?, labels_text4, hparts]
  exact hcombine

/-- The text of an address ends in a number. -/
theorem endsInNumber_text4 (n : Nat) : endsInNumber (text4 n).toList = true := by
  have hdigit : ∀ d < 10, isDigit (Nat.digitChar d) = true := by decide
  have hdigits : ∀ k, (Nat.toDigits 10 k).all isDigit = true := fun k => by
    rw [List.all_eq_true]
    intro c hc
    obtain ⟨d, hd, rfl⟩ := mem_toDigits (by decide) hc
    exact hdigit d hd
  rw [endsInNumber, labels_text4]
  simp [bytes4, hdigits]

/-! ## Addresses of version 6

The groups are numerals in base sixteen.  As all of them are two bytes long, none can be mistaken
for an address of version 4, with which an address of version 6 may end. -/

/-- The groups of an address of version 6: eight of two bytes each. -/
structure Groups (gs : List Nat) : Prop where
  length : gs.length = 8
  bound : ∀ g ∈ gs, g < 0x10000

/-- The groups that are written for some numbers. -/
def pieces6 (gs : List Nat) : List (List Char) := gs.map (Nat.toDigits 16)

theorem toList_joinGroups (gs : List Nat) : (joinGroups gs).toList = joinSep ':' (pieces6 gs) := by
  rw [joinGroups, pieces6, String.toList_intercalate, ← intercalate_eq_joinSep, List.map_map]
  congr 1
  exact List.map_congr_left fun g _ => String.toList_ofList

/-- A group is read from its digits. -/
theorem group?_toDigits {g : Nat} (h : g < 0x10000) : group? (Nat.toDigits 16 g) = some g := by
  rw [group?, if_pos ((Nat.length_toDigits_le_iff (by decide) (by decide)).2 h),
    digitsValueIn?_toDigits]

/-- Groups are read from their digits; none of them looks like an address of version 4. -/
theorem groups?_pieces6 {gs : List Nat} (h : ∀ g ∈ gs, g < 0x10000) (last : Bool) :
    groups? last (pieces6 gs) = some gs := by
  induction gs with
  | nil => rfl
  | cons g gs ih =>
    have hg := group?_toDigits (h g List.mem_cons_self)
    have hgs := ih fun k hk => h k (List.mem_cons_of_mem _ hk)
    cases gs with
    | nil =>
      have hdot : '.' ∉ Nat.toDigits 16 g := not_mem_toDigits (by decide) (by decide)
      simp [pieces6, groups?, hdot, hg]
    | cons g' gs =>
      rw [pieces6, List.map_cons, ← pieces6, groups?, hg, hgs]
      · rfl
      · simp [pieces6]

/-! ### The run of zeros that is left out

The run is marked by two colons, and these occur only once: a group is neither empty nor holds a
colon, so two colons in a row cannot come from the groups on one side. -/

/-- The longest run of zeros is a run of zeros. -/
theorem longestZeros_spec (start : Nat) (gs : List Nat) :
    ∃ left right, gs = left ++ List.replicate (longestZeros start gs).2 0 ++ right ∧
      (longestZeros start gs).1 = start + left.length := by
  induction gs generalizing start with
  | nil => exact ⟨[], [], rfl, rfl⟩
  | cons g gs ih =>
    rw [longestZeros]
    split
    · refine ⟨[], (g :: gs).dropWhile (· = 0), ?_, rfl⟩
      have hzeros : (g :: gs).takeWhile (· = 0) = List.replicate (leadingZeros (g :: gs)) 0 :=
        List.eq_replicate_iff.2 ⟨rfl, fun x hx => by
          simpa using List.all_eq_true.1 List.all_takeWhile x hx⟩
      rw [List.nil_append, ← hzeros, List.takeWhile_append_dropWhile]
    · obtain ⟨left, right, hgs, hstart⟩ := ih (start + 1)
      refine ⟨g :: left, right, ?_, ?_⟩
      · rw [List.cons_append, List.cons_append, ← hgs]
      · rw [hstart, List.length_cons]
        omega

/-- Whether some pieces can stand between colons. -/
def AreGroups (pieces : List (List Char)) : Prop := ∀ piece ∈ pieces, piece ≠ [] ∧ ':' ∉ piece

/-- Numerals can stand between colons. -/
theorem areGroups_pieces6 (gs : List Nat) : AreGroups (pieces6 gs) := by
  intro piece hpiece
  obtain ⟨g, _, rfl⟩ := List.mem_map.1 hpiece
  exact ⟨Nat.toDigits_ne_nil, not_mem_toDigits (by decide) (by decide)⟩

/-- The first character of some groups is no colon. -/
theorem joinSep_eq_cons {piece : List Char} (h : piece ≠ [] ∧ ':' ∉ piece)
    (pieces : List (List Char)) :
    ∃ c cs, joinSep ':' (piece :: pieces) = c :: cs ∧ c ≠ ':' := by
  obtain ⟨hne, hcolon⟩ := h
  cases piece with
  | nil => exact absurd rfl hne
  | cons c cs =>
    have hc : c ≠ ':' := fun heq => hcolon (heq ▸ List.mem_cons_self)
    cases pieces with
    | nil => exact ⟨c, cs, rfl, hc⟩
    | cons next rest => exact ⟨c, _, rfl, hc⟩

/-- Characters that are no colons stand in front of the two colons. -/
theorem splitDoubleColon_append {piece : List Char} (h : ':' ∉ piece) (rest : List Char) :
    splitDoubleColon (piece ++ rest) =
      (piece ++ (splitDoubleColon rest).1, (splitDoubleColon rest).2) := by
  induction piece with
  | nil => rfl
  | cons c piece ih =>
    rw [List.mem_cons, not_or] at h
    rw [List.cons_append, splitDoubleColon, ih h.2]
    · rfl
    · intro _ hc
      exact absurd hc.symm h.1

/-- Groups with colons between them hold no double colon. -/
theorem splitDoubleColon_joinSep {pieces : List (List Char)} (h : AreGroups pieces)
    (rest : List Char) :
    splitDoubleColon (joinSep ':' pieces ++ rest) =
      (joinSep ':' pieces ++ (splitDoubleColon rest).1, (splitDoubleColon rest).2) := by
  induction pieces with
  | nil => rfl
  | cons piece pieces ih =>
    have hpiece := (h piece List.mem_cons_self).2
    have hrest := ih fun p hp => h p (List.mem_cons_of_mem _ hp)
    cases pieces with
    | nil => exact splitDoubleColon_append hpiece rest
    | cons next pieces =>
      rw [joinSep_cons _ (by simp), List.append_assoc, splitDoubleColon_append hpiece,
        List.cons_append, splitDoubleColon, hrest]
      · simp
      · obtain ⟨c, cs, hcs, hc⟩ := joinSep_eq_cons (h next (by simp)) pieces
        intro tail _ hdouble
        rw [hcs, List.cons_append] at hdouble
        exact hc (List.cons.inj hdouble).1

/-- One side of a double colon is read as its groups. -/
theorem sideGroups?_pieces6 {gs : List Nat} (h : ∀ g ∈ gs, g < 0x10000) (last : Bool) :
    sideGroups? last (joinSep ':' (pieces6 gs)) = some gs := by
  cases gs with
  | nil => rfl
  | cons g gs =>
    have hpieces := areGroups_pieces6 (g :: gs)
    obtain ⟨c, cs, hcs, _⟩ := joinSep_eq_cons (hpieces _ List.mem_cons_self) (pieces6 gs)
    have hne : (joinSep ':' (pieces6 (g :: gs))).isEmpty = false := by
      rw [show pieces6 (g :: gs) = Nat.toDigits 16 g :: pieces6 gs from rfl, hcs]
      rfl
    rw [sideGroups?, hne, splitOn_joinSep (by simp [pieces6]) fun p hp => (hpieces p hp).2]
    exact groups?_pieces6 h last

/-- The text of an address of version 6: its groups, or those on both sides of a run of zeros. -/
theorem toList_text6 (gs : List Nat) :
    (text6 gs).toList = joinSep ':' (pieces6 gs) ∨
      ∃ left zeros right, gs = left ++ List.replicate zeros 0 ++ right ∧ 2 ≤ zeros ∧
        (text6 gs).toList =
          joinSep ':' (pieces6 left) ++ ':' :: ':' :: joinSep ':' (pieces6 right) := by
  obtain ⟨left, right, hgs, hstart⟩ := longestZeros_spec 0 gs
  rw [text6]
  cases hrun : longestZeros 0 gs with
  | mk start zeros =>
    rw [hrun] at hgs hstart
    dsimp only at hgs hstart ⊢
    rw [Nat.zero_add] at hstart
    split
    · exact .inl (toList_joinGroups gs)
    · next htwo =>
      refine .inr ⟨left, zeros, right, hgs, Nat.le_of_not_lt htwo, ?_⟩
      have htake : gs.take start = left := by
        rw [hgs, List.append_assoc, hstart, List.take_left]
      have hdrop : gs.drop (start + zeros) = right := by
        rw [hgs]
        exact List.drop_left' (by simp [hstart])
      rw [htake, hdrop, String.toList_append, String.toList_append, toList_joinGroups,
        toList_joinGroups, List.append_assoc]
      rfl

/-- **Addresses of version 6.**  An address is read from its text. -/
theorem parse6?_text6 {gs : List Nat} (h : Groups gs) : parse6? (text6 gs).toList = some gs := by
  rcases toList_text6 gs with htext | ⟨left, zeros, right, hgs, htwo, htext⟩
  · have hsplit := splitDoubleColon_joinSep (areGroups_pieces6 gs) []
    rw [List.append_nil, splitDoubleColon, List.append_nil] at hsplit
    have hne : pieces6 gs ≠ [] := fun hnil => by
      have := h.length
      simp [List.map_eq_nil_iff.1 hnil] at this
    rw [htext, parse6?, hsplit]
    dsimp only
    rw [splitOn_joinSep hne fun p hp => (areGroups_pieces6 gs p hp).2,
      groups?_pieces6 h.bound true]
    exact if_pos h.length
  · have hlength := h.length
    rw [hgs, List.length_append, List.length_append, List.length_replicate] at hlength
    -- The groups on both sides tell how many zeros were left out.
    have hzeros : 8 - left.length - right.length = zeros := by omega
    have hleft : sideGroups? false (joinSep ':' (pieces6 left)) = some left :=
      sideGroups?_pieces6 (fun g hg => h.bound g (by simp [hgs, hg])) false
    have hright : sideGroups? true (joinSep ':' (pieces6 right)) = some right :=
      sideGroups?_pieces6 (fun g hg => h.bound g (by simp [hgs, hg])) true
    rw [htext, parse6?, splitDoubleColon_joinSep (areGroups_pieces6 left), splitDoubleColon,
      List.append_nil]
    dsimp only
    rw [hleft, hright]
    change (if left.length + right.length < 8 then _ else _) = _
    rw [if_pos (by omega), hzeros, ← hgs]

/-! ### What is read is an address

Whatever the text, a group has four digits at most, and a byte of an address of version 4 at the end
is checked when it is read. -/

/-- A group of four digits fits two bytes. -/
theorem lt_of_group? {cs : List Char} {g : Nat} (h : group? cs = some g) : g < 0x10000 := by
  rw [group?] at h
  split at h
  · next hlength =>
    unfold digitsValueIn? at h
    split at h
    · cases h
    · exact Nat.lt_of_lt_of_le (lt_of_digitsFrom? h (k := 0) (by decide))
        (Nat.pow_le_pow_right (by decide) (by omega : 0 + _ ≤ 4))
  · cases h

theorem le_of_byte? {cs : List Char} {n : Nat} (h : byte? cs = some n) : n ≤ 255 := by
  unfold byte? at h
  split at h
  · cases h
  · obtain ⟨m, _, hm⟩ := Option.bind_eq_some_iff.1 h
    split at hm
    · next hle =>
      cases hm
      exact hle
    · cases hm

/-- The two groups of an address of version 4 at the end are two bytes each. -/
theorem lt_of_tailGroups? {cs : List Char} {gs : List Nat} (h : tailGroups? cs = some gs) :
    ∀ g ∈ gs, g < 0x10000 := by
  rw [tailGroups?] at h
  split at h
  · next a b c d hbytes =>
    have hall : ∀ n ∈ [a, b, c, d], n ≤ 255 := fun n hn => by
      obtain ⟨cs, _, hcs⟩ := exists_of_mapM hbytes n hn
      exact le_of_byte? hcs
    simp only [List.mem_cons, List.not_mem_nil, or_false, forall_eq_or_imp, forall_eq] at hall
    cases h
    intro g hg
    simp only [List.mem_cons, List.not_mem_nil, or_false] at hg
    omega
  · cases h

theorem lt_of_groups? {last : Bool} {pieces : List (List Char)} {gs : List Nat}
    (h : groups? last pieces = some gs) : ∀ g ∈ gs, g < 0x10000 := by
  fun_induction groups? last pieces generalizing gs with
  | case1 => cases h; simp
  | case2 => exact lt_of_tailGroups? h
  | case3 =>
    obtain ⟨g, hg, rfl⟩ := Option.map_eq_some_iff.1 h
    simpa using lt_of_group? hg
  | case4 piece pieces _ ih =>
    obtain ⟨g, hg, h⟩ := Option.bind_eq_some_iff.1 h
    obtain ⟨gs', hgs, h⟩ := Option.bind_eq_some_iff.1 h
    cases h
    intro k hk
    rcases List.mem_cons.1 hk with rfl | hk
    · exact lt_of_group? hg
    · exact ih hgs k hk

/-- One side of a double colon holds groups, or nothing. -/
theorem lt_of_sideGroups? {last : Bool} {cs : List Char} {gs : List Nat}
    (h : sideGroups? last cs = some gs) : ∀ g ∈ gs, g < 0x10000 := by
  rw [sideGroups?] at h
  split at h
  · cases h
    simp
  · exact lt_of_groups? h

/-- An address of version 6 that is read has its eight groups. -/
theorem groups_of_parse6? {cs : List Char} {gs : List Nat} (h : parse6? cs = some gs) :
    Groups gs := by
  rw [parse6?] at h
  split at h
  · obtain ⟨all, hall, h⟩ := Option.bind_eq_some_iff.1 h
    split at h
    · next hlength =>
      cases h
      exact ⟨hlength, lt_of_groups? hall⟩
    · cases h
  · obtain ⟨left, hleft, h⟩ := Option.bind_eq_some_iff.1 h
    obtain ⟨right, hright, h⟩ := Option.bind_eq_some_iff.1 h
    split at h
    · next hshort =>
      cases h
      constructor
      · simp only [List.length_append, List.length_replicate]
        omega
      · intro g hg
        simp only [List.mem_append, List.mem_replicate] at hg
        rcases hg with (hg | ⟨_, rfl⟩) | hg
        · exact lt_of_sideGroups? hleft g hg
        · decide
        · exact lt_of_sideGroups? hright g hg
    · cases h

end ThreatGraph.Host
