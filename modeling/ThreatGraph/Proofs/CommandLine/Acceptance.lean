import ThreatGraph.Proofs.CommandLine.Spelling

/-!
# Words that are spelled are read

The other direction of `Proofs.CommandLine.Spelling`: words that some marks spell are read, and what
is read of them is what the marks give, so long as only lists are given more than once.

* `Level.IsClear` says that the options of a level can be told apart.  Without it the statement
  would be false: a word is read as the first option that has its name, and spelled by any.
* `Level.takeShort_of_cluster` and `Level.read_of_options` say that a word of options is read as the
  options that it names.
* `Level.readEnd` reads words and then checks what is left to check.  A value is checked later than
  it is read, and so it is for `Level.readEnd`, and not for `Level.read`, that the time of the check
  makes no difference (`Level.readEnd_of_settle`).
* `Level.readEnd_of_spells` is the result.
-/

set_option autoImplicit false

namespace ThreatGraph.CommandLine

namespace Level

/-- The options of a level are found by their names, and no name can be taken for anything else. -/
structure IsClear (l : Level) : Prop where
  distinct : l.Distinct
  long : ∀ s ∈ l.switches, l.long? s.name = some s ∧ s.name ≠ "" ∧ '=' ∉ s.name.toList
  short : ∀ s ∈ l.switches, s.short.all fun c => l.short? c = some s ∧ c ≠ '-'
  commands : ∀ name ∈ l.commands, name.toList.head? ≠ some '-'
  alone : l.word = none ∨ l.commands = []

/-- The short names of a clear level, one by one. -/
theorem IsClear.short_of_eq {l : Level} (h : l.IsClear) {s : Switch} {c : Char}
    (hmem : s ∈ l.switches) (hname : s.short = some c) : l.short? c = some s ∧ c ≠ '-' := by
  have hall := h.short s hmem
  rw [hname, Option.all_some] at hall
  exact of_decide_eq_true hall

end Level

/-- A mark that is followed by others is new, unless it is one of a list. -/
theorem Once.new {l : Level} {marks more : List Mark} {m : Mark}
    (h : Once l (marks ++ m :: more)) : l.Repeats m.name ∨ m.name ∉ marks.map Mark.name := by
  by_cases hrepeats : l.Repeats m.name
  · exact .inl hrepeats
  · refine .inr fun hmem => ?_
    have hcount := h m.name hrepeats
    rw [List.map_append, List.map_cons, List.count_append, List.count_cons_self] at hcount
    have hpos := List.count_pos_iff.2 hmem
    omega

/-- What is given once is so among the first marks.  The marks still to come are carried along with
those that a reading holds already, so that this can be used at every word. -/
theorem Once.front {l : Level} {marks more : List Mark} (h : Once l (marks ++ more)) :
    Once l marks := by
  intro name hname
  have hcount := h name hname
  rw [List.map_append, List.count_append] at hcount
  exact Nat.le_trans (Nat.le_add_right _ _) hcount

theorem Kind.Takes.takesValue {kind : Kind} {text : String} {values : List String}
    (h : kind.Takes text values) : kind.takesValue = true := by
  cases h <;> rfl

namespace Reading

variable {l : Level} {marks more : List Mark} {r r₁ : Reading}

/-! ## Taking an option

Each way to take an option can fail in two places: a value may not be one that the option takes, and
an option may be given before.  The marks exclude both, the first by how they are admitted and the
second by `Once`. -/

/-- A reading takes the next mark, which it does not hold yet. -/
theorem Holds.add_of_once (h : Holds l marks r) {m : Mark} (hadmits : l.Admits m)
    (honce : Once l (marks ++ m :: more)) : Holds l (marks ++ [m]) (r.add m.name m.values) := by
  refine h.add hadmits (honce.new.imp_right fun hnew => ?_)
  exact Bool.eq_false_iff.2 fun hhas => hnew (h.has_iff.1 hhas)

/-- A value that an option takes is accepted. -/
theorem Holds.accept_of_takes (h : Holds l marks r) (hdistinct : l.Distinct) {s : Switch}
    (hmem : s ∈ l.switches) {text : String} {values : List String}
    (htakes : s.kind.Takes text values) (honce : Once l (marks ++ ⟨s.name, values⟩ :: more)) :
    r.accept s text = .ok (r.add s.name values) := by
  have hnew : (s.kind ≠ .list && r.has s.name) = false := by
    by_cases hlist : s.kind = .list
    · simp [hlist]
    · have hnone := honce.new.resolve_left (hdistinct.not_repeats hmem hlist)
      simp [Bool.eq_false_iff.2 fun hhas => hnone (h.has_iff.1 hhas)]
  rw [Reading.accept, if_neg (by simpa using hnew),
    (Kind.read_eq_ok_iff htakes.takesValue).2 htakes]
  rfl

/-- So is one that is attached to the name of the option. -/
theorem Holds.takeAttached_of_takes (h : Holds l marks r) (hdistinct : l.Distinct) {s : Switch}
    (hmem : s ∈ l.switches) {text : String} {values : List String}
    (htakes : s.kind.Takes text values) (honce : Once l (marks ++ ⟨s.name, values⟩ :: more)) :
    r.takeAttached s text = .ok (r.add s.name values) := by
  rw [Reading.takeAttached, settle_of_settled h.settled]
  exact h.accept_of_takes hdistinct hmem htakes honce

/-- An option without a value is taken.  It is no list, so it must not be given before. -/
theorem Holds.takeFlag_of_once (h : Holds l marks r) (hdistinct : l.Distinct) {s : Switch}
    (hmem : s ∈ l.switches) (hkind : s.kind = .flag)
    (honce : Once l (marks ++ ⟨s.name, []⟩ :: more)) :
    r.takeFlag s = .ok (r.add s.name []) := by
  have hlist : s.kind ≠ .list := by
    rw [hkind]
    exact nofun
  have hnone := honce.new.resolve_left (hdistinct.not_repeats hmem hlist)
  have hnew : r.has s.name = false := Bool.eq_false_iff.2 fun hhas => hnone (h.has_iff.1 hhas)
  rw [Reading.takeFlag, settle_of_settled h.settled, hkind]
  exact if_neg (Bool.eq_false_iff.1 hnew)

/-- The further word of a level is taken, before two dashes and after them. -/
theorem Holds.takeWord_of_once (h : Holds l marks r) (hdistinct : l.Distinct) {name : String}
    (hword : l.word = some name) {text : String} (honce : Once l (marks ++ ⟨name, [text]⟩ :: more))
    (trailing : Bool) : l.takeWord trailing text r = .ok (r.add name [text]) := by
  have hnone := honce.new.resolve_left (hdistinct.not_repeats_word hword)
  have hhas : r.has name = false := Bool.eq_false_iff.2 fun hgiven => hnone (h.has_iff.1 hgiven)
  exact Level.takeWord_eq_ok_iff.2 ⟨name, r, hword, hhas, settle_of_settled h.settled, rfl⟩

/-- An option that awaits its value is taken at once, since there is nothing to check before it. -/
theorem Holds.await_eq (h : Holds l marks r) (s : Switch) :
    r.await s = .ok { r with pending := some (s, none) } := by
  rw [Reading.await, settle_of_settled h.settled]
  rfl

theorem Holds.stands_await (h : Holds l marks r) {s : Switch} (hmem : s ∈ l.switches)
    (hvalue : s.kind.takesValue = true) :
    Stands l marks (some s) { r with pending := some (s, none) } :=
  h.await hmem hvalue (h.await_eq s)

end Reading

namespace Level

open Reading

variable {l : Level} {marks more : List Mark} {r r₁ : Reading}

/-- The text after a short name and an equals sign. -/
theorem attachedText_equals (text : String) :
    String.ofList ((afterStart? ['='] ('=' :: text.toList)).getD ('=' :: text.toList)) = text := by
  show String.ofList text.toList = text
  exact String.ofList_toList

/-- The text after a short name without an equals sign. -/
theorem attachedText_of_head? {text : String} (h : text.toList.head? ≠ some '=') :
    String.ofList ((afterStart? ['='] text.toList).getD text.toList) = text := by
  have hnone : afterStart? ['='] text.toList = none := by
    cases hchars : text.toList with
    | nil => rfl
    | cons c cs =>
      rw [hchars] at h
      exact if_neg fun heq => h (congrArg some heq.symm)
  rw [hnone, Option.getD_none, String.ofList_toList]

/-- Short names are read as the options that they name. -/
theorem takeShort_of_cluster (hclear : l.IsClear) {cs : List Char} {awaited : Option Switch}
    (h : l.Cluster cs more awaited) (hholds : Holds l marks r) (honce : Once l (marks ++ more)) :
    ∃ r', l.takeShort cs r = .ok r' ∧ Stands l (marks ++ more) awaited r' := by
  induction h generalizing r marks with
  | nil => exact ⟨r, rfl, by simpa using hholds.stands⟩
  | @flag s c cs more awaited hmem hname hkind h ih =>
    have hflag := hholds.takeFlag_of_once hclear.distinct hmem hkind honce
    have hadded := hholds.add_of_once (m := ⟨s.name, []⟩) (.flag hmem hkind) honce
    rw [List.append_cons] at honce
    obtain ⟨r', htake, hstands⟩ := ih hadded honce
    rw [List.append_assoc] at hstands
    refine ⟨r', ?_, hstands⟩
    rw [takeShort, (hclear.short_of_eq hmem hname).1]
    dsimp only
    rw [hkind, if_neg (by decide), hflag]
    exact htake
  | @equals s c text values hmem hname htakes =>
    refine ⟨_, ?_, (hholds.add_of_once (m := ⟨s.name, values⟩) (.value hmem htakes) honce).stands⟩
    rw [takeShort, (hclear.short_of_eq hmem hname).1]
    dsimp only
    rw [if_pos htakes.takesValue, if_neg (by simp)]
    exact hholds.takeAttached_of_takes hclear.distinct hmem
      (by rwa [attachedText_equals]) honce
  | @glued s c text values hmem hname htakes hne hequals =>
    have hempty : text.toList ≠ [] := fun hnil => hne (String.toList_injective hnil)
    refine ⟨_, ?_, (hholds.add_of_once (m := ⟨s.name, values⟩) (.value hmem htakes) honce).stands⟩
    rw [takeShort, (hclear.short_of_eq hmem hname).1]
    dsimp only
    rw [if_pos htakes.takesValue, if_neg (by simpa using hempty)]
    exact hholds.takeAttached_of_takes hclear.distinct hmem
      (by rwa [attachedText_of_head? hequals]) honce
  | @awaits s c hmem hname hkind =>
    refine ⟨_, ?_, by simpa using hholds.stands_await hmem hkind⟩
    rw [takeShort, (hclear.short_of_eq hmem hname).1]
    dsimp only
    rw [if_pos hkind, if_pos (by rfl)]
    exact hholds.await_eq s

/-- No option has a dash for its short name. -/
theorem Cluster.head_ne (hclear : l.IsClear) {c : Char} {cs : List Char}
    {awaited : Option Switch} (h : l.Cluster (c :: cs) more awaited) : c ≠ '-' := by
  cases h with
  | flag hmem hname _ _ => exact (hclear.short_of_eq hmem hname).2
  | equals hmem hname _ => exact (hclear.short_of_eq hmem hname).2
  | glued hmem hname _ _ _ => exact (hclear.short_of_eq hmem hname).2
  | awaits hmem hname _ => exact (hclear.short_of_eq hmem hname).2

/-! ## Words by their form

One equation for each form of a word, under the conditions that keep the forms apart.  That the
names of commands have no dash in front is needed for the words of options, which are compared with
these names first. -/

/-- A word that begins with a dash names no command. -/
theorem contains_of_head? (hclear : l.IsClear) {word : String}
    (h : word.toList.head? = some '-') : l.commands.contains word = false :=
  Bool.eq_false_iff.2 fun hmem => hclear.commands word (List.contains_iff_mem.1 hmem) h

/-- After two dashes all that follows is taken for words. -/
theorem read_of_dashes (hclear : l.IsClear) (rest : List String) :
    l.read false r ("--" :: rest) = l.read true r rest := by
  have hcommand : l.commands.contains "--" = false := contains_of_head? hclear rfl
  rw [read, if_neg Bool.false_ne_true, hcommand, Bool.and_false, if_neg Bool.false_ne_true]
  rfl

/-- A word with two dashes in front is a long name, with what stands after an equals sign as its
value. -/
theorem read_of_long (hclear : l.IsClear) {word : String} {d : Char} {ds : List Char}
    (hword : word.toList = '-' :: '-' :: d :: ds) (rest : List String) :
    l.read false r (word :: rest) =
      (l.takeLong (String.ofList (splitFirst '=' (d :: ds)).1)
        ((splitFirst '=' (d :: ds)).2.map String.ofList) r >>= fun r' => l.read false r' rest) := by
  have hcommand : l.commands.contains word = false :=
    contains_of_head? hclear (by rw [hword]; rfl)
  rw [read, if_neg Bool.false_ne_true, hcommand, Bool.and_false, if_neg Bool.false_ne_true, hword]
  rfl

/-- The name of an option with two dashes in front is read as that name. -/
theorem read_of_name (hclear : l.IsClear) {s : Switch} (hmem : s ∈ l.switches) {word : String}
    (hword : word.toList = '-' :: '-' :: s.name.toList) (rest : List String) :
    l.read false r (word :: rest) =
      (l.takeLong s.name none r >>= fun r' => l.read false r' rest) := by
  obtain ⟨-, hne, hequals⟩ := hclear.long s hmem
  -- The name has a first character, so the word is more than two dashes.
  obtain ⟨d, ds, hname⟩ := List.exists_cons_of_ne_nil fun hnil =>
    hne (String.toList_injective hnil)
  rw [hname] at hword hequals
  rw [read_of_long hclear hword, splitFirst_of_not_mem hequals, ← hname, String.ofList_toList,
    Option.map_none]

/-- With an equals sign and a text behind it, it is read as that name with that value. -/
theorem read_of_name_equals (hclear : l.IsClear) {s : Switch} (hmem : s ∈ l.switches)
    {word text : String} (hword : word.toList = '-' :: '-' :: (s.name.toList ++ '=' :: text.toList))
    (rest : List String) :
    l.read false r (word :: rest) =
      (l.takeLong s.name (some text) r >>= fun r' => l.read false r' rest) := by
  obtain ⟨-, hne, hequals⟩ := hclear.long s hmem
  obtain ⟨d, ds, hname⟩ := List.exists_cons_of_ne_nil fun hnil =>
    hne (String.toList_injective hnil)
  rw [hname, List.cons_append] at hword
  rw [read_of_long hclear hword, ← List.cons_append, ← hname, splitFirst_append hequals,
    String.ofList_toList, Option.map_some, String.ofList_toList]

/-- A word with one dash in front is short names. -/
theorem read_of_short (hclear : l.IsClear) {word : String} {c : Char} {cs : List Char}
    (hc : c ≠ '-') (hword : word.toList = '-' :: c :: cs) (rest : List String) :
    l.read false r (word :: rest) =
      (l.takeShort (c :: cs) r >>= fun r' => l.read false r' rest) := by
  have hcommand : l.commands.contains word = false :=
    contains_of_head? hclear (by rw [hword]; rfl)
  rw [read, if_neg Bool.false_ne_true, hcommand, Bool.and_false, if_neg Bool.false_ne_true, hword]
  -- A name that begins with a dash would make the word one of the two forms above.
  split
  · next heq => exact absurd (List.cons.inj (List.cons.inj heq).2).1 hc
  · next heq => exact absurd (List.cons.inj (List.cons.inj heq).2).1 hc
  · next heq =>
    obtain ⟨rfl, rfl⟩ := List.cons.inj (List.cons.inj heq).2
    rfl
  · next hshort => exact absurd rfl (hshort c cs)

/-- A plain word is the value of an option that awaits one.  It is not checked yet. -/
theorem read_of_value {text : String} (hplain : IsPlain text.toList) {s : Switch}
    (hs : r.pending = some (s, none)) (rest : List String) :
    l.read false r (text :: rest) =
      l.read false { r with pending := some (s, some text) } rest := by
  have hwaits : r.waits = true := by
    rw [waits, hs]
  rw [read, if_neg Bool.false_ne_true, hwaits, Bool.not_true, Bool.false_and,
    if_neg Bool.false_ne_true]
  -- The words that begin with a dash are not plain, which leaves the case of any other word.
  split
  · next heq => exact absurd (hplain _ heq) (List.cons_ne_nil _ _)
  · next heq => exact absurd (hplain _ heq) (List.cons_ne_nil _ _)
  · next heq => exact absurd (hplain _ heq) (List.cons_ne_nil _ _)
  · rw [hs]

/-- A plain word for which nothing waits is the further word of the level. -/
theorem read_of_word {text : String} (hplain : IsPlain text.toList) (hcommands : l.commands = [])
    (hwaits : r.waits = false) (rest : List String) :
    l.read false r (text :: rest) =
      (l.takeWord false text r >>= fun r' => l.read false r' rest) := by
  rw [read, if_neg Bool.false_ne_true, hcommands, List.contains_nil, Bool.and_false,
    if_neg Bool.false_ne_true]
  split
  · next heq => exact absurd (hplain _ heq) (List.cons_ne_nil _ _)
  · next heq => exact absurd (hplain _ heq) (List.cons_ne_nil _ _)
  · next heq => exact absurd (hplain _ heq) (List.cons_ne_nil _ _)
  · split
    · next s hs =>
      rw [waits, hs] at hwaits
      cases hwaits
    · rfl

/-- The name of a command ends the level, unless it is the value of an option. -/
theorem read_of_command {name : String} (hmem : name ∈ l.commands) (hsettled : r.pending = none)
    (rest : List String) : l.read false r (name :: rest) = .ok (r, some (name, rest)) := by
  rw [read, if_neg Bool.false_ne_true, waits_of_settled hsettled, List.contains_iff_mem.2 hmem,
    Bool.not_false, Bool.and_true, if_pos rfl]

/-- A word of options is read as the options that it names, and then the words after it. -/
theorem read_of_options (hclear : l.IsClear) {word : String} {awaited : Option Switch}
    (h : l.Options word.toList more awaited) (hholds : Holds l marks r)
    (honce : Once l (marks ++ more)) (rest : List String) :
    ∃ r', l.read false r (word :: rest) = l.read false r' rest ∧
      Stands l (marks ++ more) awaited r' := by
  generalize hchars : word.toList = chars at h
  cases h with
  | @flag s hmem hkind =>
    refine ⟨r.add s.name [], ?_,
      (hholds.add_of_once (m := ⟨s.name, []⟩) (.flag hmem hkind) honce).stands⟩
    have htake : l.takeLong s.name none r = .ok (r.add s.name []) := by
      rw [takeLong, (hclear.long s hmem).1]
      dsimp only
      rw [hkind]
      exact hholds.takeFlag_of_once hclear.distinct hmem hkind honce
    rw [read_of_name hclear hmem hchars, htake]
    rfl
  | @equals s text values hmem htakes =>
    refine ⟨r.add s.name values, ?_,
      (hholds.add_of_once (m := ⟨s.name, values⟩) (.value hmem htakes) honce).stands⟩
    have htake : l.takeLong s.name (some text) r = .ok (r.add s.name values) := by
      rw [takeLong, (hclear.long s hmem).1]
      dsimp only
      rw [if_pos htakes.takesValue]
      exact hholds.takeAttached_of_takes hclear.distinct hmem htakes honce
    rw [read_of_name_equals hclear hmem hchars, htake]
    rfl
  | @awaits s hmem hkind =>
    refine ⟨_, ?_, by simpa using hholds.stands_await hmem hkind⟩
    have htake : l.takeLong s.name none r = .ok { r with pending := some (s, none) } := by
      rw [takeLong, (hclear.long s hmem).1]
      dsimp only
      rw [if_pos hkind]
      exact hholds.await_eq s
    rw [read_of_name hclear hmem hchars, htake]
    rfl
  | @short c cs _ _ h =>
    have hc := h.head_ne hclear
    obtain ⟨r', htake, hstands⟩ := takeShort_of_cluster hclear h hholds honce
    refine ⟨r', ?_, hstands⟩
    rw [read_of_short hclear hc hchars, htake]
    rfl

/-! ## Values still to be checked

A reading with a value that is still to be checked, and the same reading after the check, are read
on alike.  They are not read as the same reading, since a level may end with the check still to be
made; but they come to the same once that is made.  This is why a value that is spelled can be
counted among the marks as soon as it is read. -/

/-- Reads words, and then checks the value that is left to check. -/
def readEnd (l : Level) (trailing : Bool) (r : Reading) (args : List String) :
    Except Refusal (Reading × Option (String × List String)) :=
  l.read trailing r args >>= fun given => given.1.settle.map fun last => (last, given.2)

/-- What is read in this way is what is read of the words and then checked. -/
theorem readEnd_eq_ok_iff {trailing : Bool} {args : List String} {last : Reading}
    {command : Option (String × List String)} : l.readEnd trailing r args = .ok (last, command) ↔
      ∃ r', l.read trailing r args = .ok (r', command) ∧ r'.settle = .ok last := by
  rw [readEnd, bind_eq_ok_iff]
  constructor
  · rintro ⟨⟨r', command'⟩, hread, h⟩
    cases hsettle : r'.settle with
    | error refusal =>
      rw [hsettle] at h
      cases h
    | ok last' =>
      rw [hsettle] at h
      cases h
      exact ⟨r', hread, hsettle⟩
  · rintro ⟨r', hread, hsettle⟩
    refine ⟨(r', command), hread, ?_⟩
    rw [hsettle]
    rfl

/-- What begins with the check of a value is the same after that check. -/
theorem settle_bind {β : Type} (hsettle : r.settle = .ok r₁) (f : Reading → Except Refusal β) :
    r.settle >>= f = r₁.settle >>= f := by
  rw [hsettle, settle_of_settled (settled_of_settle hsettle)]

/-- Whatever an option is taken for, the value before it is checked first. -/
theorem takeLong_of_settle (hsettle : r.settle = .ok r₁) (name : String) (value : Option String) :
    l.takeLong name value r = l.takeLong name value r₁ := by
  rw [takeLong, takeLong]
  split
  · rfl
  split
  · split
    · exact settle_bind hsettle _
    · exact settle_bind hsettle _
  · split
    · rfl
    · exact settle_bind hsettle _

/-- So are short names.  Only the first of them can come after a value that is still to be
checked. -/
theorem takeShort_of_settle (hsettle : r.settle = .ok r₁) (c : Char) (cs : List Char) :
    l.takeShort (c :: cs) r = l.takeShort (c :: cs) r₁ := by
  rw [takeShort, takeShort]
  split
  · rfl
  next s _ =>
  have hflag : r.takeFlag s = r₁.takeFlag s := settle_bind hsettle _
  split
  · split
    · exact settle_bind hsettle _
    · exact settle_bind hsettle _
  · rw [hflag]

/-- The further word is taken alike.  It is looked for before the check is made, and the check
cannot give it, since it bears the name of no option. -/
theorem takeWord_of_settle (hdistinct : l.Distinct) (hknown : Known l r)
    (hsettle : r.settle = .ok r₁) (trailing : Bool) (text : String) :
    l.takeWord trailing text r = l.takeWord trailing text r₁ := by
  rw [takeWord, takeWord]
  split
  · next name hword =>
    rw [has_of_settle hsettle fun s text hs => hdistinct.ne_word (hknown s text hs).1 hword]
    split
    · rfl
    · exact settle_bind hsettle _
  · rfl

/-- Checking a value before the words after two dashes are read makes no difference. -/
theorem readEnd_trailing_of_settle (hdistinct : l.Distinct) (hknown : Known l r)
    (hsettle : r.settle = .ok r₁) (args : List String) :
    l.readEnd true r args = l.readEnd true r₁ args := by
  cases args with
  | nil =>
    show r.settle.map _ = r₁.settle.map _
    rw [hsettle, settle_of_settled (settled_of_settle hsettle)]
  | cons text rest =>
    rw [readEnd, readEnd, read, read, if_pos rfl, if_pos rfl,
      takeWord_of_settle hdistinct hknown hsettle]

/-- **Checking a value early** makes no difference to what is read. -/
theorem readEnd_of_settle (hdistinct : l.Distinct) (hknown : Known l r)
    (hsettle : r.settle = .ok r₁) (args : List String) :
    l.readEnd false r args = l.readEnd false r₁ args := by
  have hend : ∀ command : Option (String × List String),
      (r.settle.map fun last => (last, command)) = r₁.settle.map fun last => (last, command) := by
    intro command
    rw [hsettle, settle_of_settled (settled_of_settle hsettle)]
  have hwaits : r.waits = false := by
    rw [waits]
    split
    · next s hs =>
      rw [settle, hs] at hsettle
      cases hsettle
    · rfl
  have hwaits₁ : r₁.waits = false := waits_of_settled (settled_of_settle hsettle)
  cases args with
  | nil => exact hend none
  | cons text rest =>
    rw [readEnd, readEnd, read, read, if_neg Bool.false_ne_true, if_neg Bool.false_ne_true,
      hwaits, hwaits₁]
    split
    · exact hend _
    split
    · exact readEnd_trailing_of_settle hdistinct hknown hsettle rest
    · dsimp only
      rw [takeLong_of_settle hsettle]
    · rw [takeShort_of_settle hsettle]
    · rw [settled_of_settle hsettle]
      split
      · next s hs =>
        rw [waits, hs] at hwaits
        cases hwaits
      · rw [takeWord_of_settle hdistinct hknown hsettle]

/-! ## Levels

The induction is on the spelling, and it carries three things: the words up to the name of a
command, the marks that the reading holds so far, and that all marks together give nothing twice. -/

/-- What stands after the first word of a level. -/
theorem Cuts.tail {args front : List String} {word : String}
    {command : Option (String × List String)} (h : l.Cuts args (word :: front) command) :
    ∃ rest, args = word :: rest ∧ l.Cuts rest front command := by
  cases command with
  | none => exact ⟨front, h, rfl⟩
  | some c =>
    obtain ⟨hmem, hargs, hfront⟩ := h
    exact ⟨front ++ c.1 :: c.2, hargs, hmem, rfl, fun hdashes =>
      hfront (List.mem_cons_of_mem word hdashes)⟩

/-- Two dashes end the level, and no command can follow them. -/
theorem Cuts.of_dashes {args front : List String} {command : Option (String × List String)}
    (h : l.Cuts args ("--" :: front) command) : command = none ∧ args = "--" :: front := by
  cases command with
  | none => exact ⟨rfl, h⟩
  | some c => exact absurd List.mem_cons_self h.2.2

/-- **Words that are spelled are read**, up to the name of a command, and the reading holds what
they give. -/
theorem readEnd_of_spells (hclear : l.IsClear) {awaited : Option Switch} {words : List String}
    (h : l.Spells awaited words more) {command : Option (String × List String)}
    {args : List String} (hcuts : l.Cuts args words command) (hstands : Stands l marks awaited r)
    (honce : Once l (marks ++ more)) :
    ∃ last, l.readEnd false r args = .ok (last, command) ∧ Holds l (marks ++ more) last := by
  induction h generalizing args r marks with
  | nil =>
    obtain ⟨hsettle, hholds⟩ := hstands.settle
    refine ⟨r, readEnd_eq_ok_iff.2 ⟨r, ?_, hsettle⟩, by simpa using hholds⟩
    cases command with
    | none =>
      obtain rfl : args = [] := hcuts
      rfl
    | some c =>
      obtain ⟨hmem, rfl, -⟩ := hcuts
      exact read_of_command hmem hholds.settled c.2
  | @options word awaited rest marks' more' hword hrest ih =>
    have hholds := hstands.settle.2
    obtain ⟨args', rfl, htail⟩ := hcuts.tail
    rw [← List.append_assoc] at honce ⊢
    obtain ⟨r', hread, hstands'⟩ := read_of_options hclear hword hholds honce.front args'
    rw [readEnd, hread]
    exact ih htail hstands' honce
  -- The value goes into the reading unchecked, and what is said of the words after it is said of
  -- the checked one.
  | @value s text values rest more' hplain htakes hrest ih =>
    obtain ⟨args', rfl, htail⟩ := hcuts.tail
    obtain ⟨hmem, hvalue⟩ := hstands.known s rfl
    have haccept := hstands.holds.accept_of_takes hclear.distinct hmem htakes honce
    have hadded := hstands.holds.add_of_once (m := ⟨s.name, values⟩) (.value hmem htakes) honce
    have hknown : Known l { r with pending := some (s, some text) } := by
      rintro s' text' hs'
      cases hs'
      exact ⟨hmem, hvalue⟩
    rw [readEnd, read_of_value hplain hstands.pending]
    rw [List.append_cons] at honce ⊢
    obtain ⟨last, hend, hholds⟩ := ih htail hadded.stands honce
    refine ⟨last, ?_, hholds⟩
    rw [← hend]
    exact readEnd_of_settle hclear.distinct hknown haccept args'
  | @word name text rest more' hword hplain hrest ih =>
    have hholds := hstands.settle.2
    obtain ⟨args', rfl, htail⟩ := hcuts.tail
    have hcommands : l.commands = [] := hclear.alone.resolve_left fun hnone => by
      rw [hnone] at hword
      cases hword
    have htake := hholds.takeWord_of_once hclear.distinct hword honce false
    have hadded := hholds.add_of_once (m := ⟨name, [text]⟩) (.word hword) honce
    rw [readEnd, read_of_word hplain hcommands (waits_of_settled hholds.settled), htake]
    rw [List.append_cons] at honce ⊢
    exact ih htail hadded.stands honce
  | dashes =>
    obtain ⟨hsettle, hholds⟩ := hstands.settle
    obtain ⟨rfl, rfl⟩ := hcuts.of_dashes
    exact ⟨r, readEnd_eq_ok_iff.2 ⟨r, read_of_dashes hclear [], hsettle⟩, by simpa using hholds⟩
  | @last name text hword =>
    have hholds := hstands.settle.2
    have htake := hholds.takeWord_of_once hclear.distinct hword honce true
    have hadded := hholds.add_of_once (m := ⟨name, [text]⟩) (.word hword) honce
    obtain ⟨rfl, rfl⟩ := hcuts.of_dashes
    refine ⟨r.add name [text], readEnd_eq_ok_iff.2 ⟨_, ?_, hadded.stands.settle.1⟩, hadded⟩
    rw [read_of_dashes hclear, read, if_pos rfl, htake]
    rfl

end Level

end ThreatGraph.CommandLine
