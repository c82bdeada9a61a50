import ThreatGraph.CommandLine
import ThreatGraph.Proofs.CommandLine.Marks

/-!
# How command lines are spelled

What the words of a level give is said here without reading them one after the other:
`Level.Spells` relates words to marks.  An option with a value is spelled `--name text` or
`--name=text`, or by a short name that may stand in one word with others; a word that is no option
is the further word of the level; and after two dashes no word is an option.

`Level.leads_of_read` says that words that are read are spelled by some marks, and that the reading
holds what these marks give.  A value that is still to be checked is the difficulty of it.  The
value is read, but it comes into the reading only when the next option is read, or at the end of the
level.  So a reading is first brought to the point where nothing is left to check
(`Reading.exists_settle`), and the invariant speaks of such readings only.

That words that are spelled are read is said in `Proofs.CommandLine.Acceptance`.
-/

set_option autoImplicit false

namespace ThreatGraph.CommandLine

/-! ## Spellings

A level is spelled by its options and its further word in any order.  Only the value of an option
has its place: it stands in the same word, or in the next one. -/

namespace Level

/-- The characters after one dash: options without a value by their short names, and at the end
perhaps one with its value, or one whose value is to come. -/
inductive Cluster (l : Level) : List Char → List Mark → Option Switch → Prop where
  | nil : Cluster l [] [] none
  | flag {s : Switch} {c : Char} {cs : List Char} {marks : List Mark} {awaited : Option Switch}
      (hmem : s ∈ l.switches) (hname : s.short = some c) (hkind : s.kind = .flag)
      (h : Cluster l cs marks awaited) : Cluster l (c :: cs) (⟨s.name, []⟩ :: marks) awaited
  | equals {s : Switch} {c : Char} {text : String} {values : List String}
      (hmem : s ∈ l.switches) (hname : s.short = some c) (htakes : s.kind.Takes text values) :
      Cluster l (c :: '=' :: text.toList) [⟨s.name, values⟩] none
  | glued {s : Switch} {c : Char} {text : String} {values : List String}
      (hmem : s ∈ l.switches) (hname : s.short = some c) (htakes : s.kind.Takes text values)
      (hne : text ≠ "") (hequals : text.toList.head? ≠ some '=') :
      Cluster l (c :: text.toList) [⟨s.name, values⟩] none
  | awaits {s : Switch} {c : Char} (hmem : s ∈ l.switches) (hname : s.short = some c)
      (hkind : s.kind.takesValue = true) : Cluster l [c] [] (some s)

/-- A word of options: what it gives, and the option whose value is the next word, if there is
one. -/
inductive Options (l : Level) : List Char → List Mark → Option Switch → Prop where
  | flag {s : Switch} (hmem : s ∈ l.switches) (hkind : s.kind = .flag) :
      Options l ('-' :: '-' :: s.name.toList) [⟨s.name, []⟩] none
  | equals {s : Switch} {text : String} {values : List String} (hmem : s ∈ l.switches)
      (htakes : s.kind.Takes text values) :
      Options l ('-' :: '-' :: (s.name.toList ++ '=' :: text.toList)) [⟨s.name, values⟩] none
  | awaits {s : Switch} (hmem : s ∈ l.switches) (hkind : s.kind.takesValue = true) :
      Options l ('-' :: '-' :: s.name.toList) [] (some s)
  | short {c : Char} {cs : List Char} {marks : List Mark} {awaited : Option Switch}
      (h : l.Cluster (c :: cs) marks awaited) : Options l ('-' :: c :: cs) marks awaited

end Level

/-- A word that is no option. -/
def IsPlain (cs : List Char) : Prop := ∀ rest, cs = '-' :: rest → rest = []

theorem IsPlain.ne_dashes {text : String} (h : IsPlain text.toList) : text ≠ "--" := by
  rintro rfl
  exact absurd (h ['-'] rfl) (List.cons_ne_nil _ _)

/-- **The words of a level** and what they give.  The first word may be the value of an option that
the word before has named. -/
inductive Level.Spells (l : Level) : Option Switch → List String → List Mark → Prop where
  | nil : Spells l none [] []
  | options {word : String} {awaited : Option Switch} {rest : List String} {marks more : List Mark}
      (h : l.Options word.toList marks awaited) (hrest : Spells l awaited rest more) :
      Spells l none (word :: rest) (marks ++ more)
  | value {s : Switch} {text : String} {values : List String} {rest : List String}
      {more : List Mark} (hplain : IsPlain text.toList) (htakes : s.kind.Takes text values)
      (hrest : Spells l none rest more) :
      Spells l (some s) (text :: rest) (⟨s.name, values⟩ :: more)
  | word {name text : String} {rest : List String} {more : List Mark} (hword : l.word = some name)
      (hplain : IsPlain text.toList) (hrest : Spells l none rest more) :
      Spells l none (text :: rest) (⟨name, [text]⟩ :: more)
  | dashes : Spells l none ["--"] []
  | last {name text : String} (hword : l.word = some name) :
      Spells l none ["--", text] [⟨name, [text]⟩]

/-! ## Options

Every way to take an option checks the value before it first.  What it does after that is said of
readings that have nothing left to check. -/

namespace Reading

/-- Where no value is left to check, checking changes nothing. -/
theorem settle_of_settled {r : Reading} (h : r.pending = none) : r.settle = .ok r := by
  rw [settle, h]

/-- Nor is an option waiting for its value. -/
theorem waits_of_settled {r : Reading} (h : r.pending = none) : r.waits = false := by
  rw [waits, h]

/-- After a check no value is left to check. -/
theorem settled_of_settle {r r₁ : Reading} (h : r.settle = .ok r₁) : r₁.pending = none := by
  rw [settle] at h
  split at h
  · next hpending =>
    cases h
    exact hpending
  · cases h
  · next s text _ =>
    rw [accept] at h
    split at h
    · cases h
    · cases hread : s.kind.read text with
      | error refusal =>
        rw [hread] at h
        cases h
      | ok values =>
        rw [hread] at h
        cases h
        rfl

/-- What begins with the check of a value can as well be done after that check. -/
theorem exists_settle {β : Type} {r : Reading} {f : Reading → Except Refusal β} {b : β}
    (h : r.settle >>= f = .ok b) : ∃ r₁, r.settle = .ok r₁ ∧ r₁.settle >>= f = .ok b := by
  obtain ⟨r₁, hsettle, h⟩ := bind_eq_ok_iff.1 h
  refine ⟨r₁, hsettle, ?_⟩
  rw [settle_of_settled (settled_of_settle hsettle)]
  exact h

/-- A reading holds what some marks give, and an option awaits its value if one is named. -/
structure Stands (l : Level) (marks : List Mark) (awaited : Option Switch) (r : Reading) :
    Prop where
  holds : Holds l marks { r with pending := none }
  pending : r.pending = awaited.map fun s => (s, none)
  known : ∀ s ∈ awaited, s ∈ l.switches ∧ s.kind.takesValue = true

variable {l : Level} {marks : List Mark} {r r' : Reading}

/-- Where no option awaits its value a reading stands as it is. -/
theorem Holds.stands (h : Holds l marks r) : Stands l marks none r where
  holds := by
    obtain ⟨given, pending⟩ := r
    obtain rfl : pending = none := h.settled
    exact h
  pending := h.settled
  known := nofun

/-- Where no option awaits its value there is nothing to check. -/
theorem Stands.settle (h : Stands l marks none r) : r.settle = .ok r ∧ Holds l marks r := by
  obtain ⟨given, pending⟩ := r
  obtain rfl : pending = none := h.pending
  exact ⟨rfl, h.holds⟩

/-- An option whose value is the next word awaits it, and all marks are as they were. -/
theorem Holds.await (h : Holds l marks r) {s : Switch} (hmem : s ∈ l.switches)
    (hvalue : s.kind.takesValue = true) (hawait : r.await s = .ok r') :
    Stands l marks (some s) r' := by
  rw [Reading.await, settle_of_settled h.settled] at hawait
  cases hawait
  exact ⟨h.stands.holds, rfl, fun s' hs' => Option.mem_some.1 hs' ▸ ⟨hmem, hvalue⟩⟩

/-- A value that is attached to the name of an option is taken as a mark. -/
theorem Holds.takeAttached (h : Holds l marks r) {s : Switch} (hmem : s ∈ l.switches)
    (hvalue : s.kind.takesValue = true) {text : String} (htake : r.takeAttached s text = .ok r') :
    ∃ values, s.kind.Takes text values ∧ Holds l (marks ++ [⟨s.name, values⟩]) r' := by
  rw [Reading.takeAttached, settle_of_settled h.settled] at htake
  exact h.accept hmem hvalue htake

/-- An option without a value is taken as a mark.  One that shows something is not taken at all: it
ends the reading. -/
theorem Holds.takeFlag (h : Holds l marks r) {s : Switch} (hmem : s ∈ l.switches)
    (hvalue : s.kind.takesValue = false) (htake : r.takeFlag s = .ok r') :
    s.kind = .flag ∧ Holds l (marks ++ [⟨s.name, []⟩]) r' := by
  obtain ⟨r₁, hsettle, htake⟩ := bind_eq_ok_iff.1 htake
  rw [settle_of_settled h.settled] at hsettle
  cases hsettle
  cases hkind : s.kind with
  | flag =>
    rw [hkind] at htake
    dsimp only at htake
    split at htake
    · cases htake
    · next hnew =>
      cases htake
      exact ⟨rfl, h.add (m := ⟨s.name, []⟩) (.flag hmem hkind) (.inr (by simpa using hnew))⟩
  | shows what =>
    rw [hkind] at htake
    cases htake
  | _ =>
    rw [hkind] at hvalue
    cases hvalue

end Reading

namespace Level

open Reading

variable {l : Level} {marks : List Mark} {r r' : Reading}

/-- A long name is taken after the check of the value before it. -/
theorem exists_settle_takeLong {name : String} {value : Option String}
    (h : l.takeLong name value r = .ok r') :
    ∃ r₁, r.settle = .ok r₁ ∧ l.takeLong name value r₁ = .ok r' := by
  unfold takeLong at h ⊢
  split at h
  · cases h
  split at h
  · next hvalue =>
    simp only [if_pos hvalue]
    split at h <;> exact exists_settle h
  · next hvalue =>
    split at h
    · cases h
    next hnone =>
    simp only [if_neg hvalue, if_neg hnone]
    exact exists_settle h

/-- Short names are taken after the check of the value before them. -/
theorem exists_settle_takeShort {c : Char} {cs : List Char}
    (h : l.takeShort (c :: cs) r = .ok r') :
    ∃ r₁, r.settle = .ok r₁ ∧ l.takeShort (c :: cs) r₁ = .ok r' := by
  rw [takeShort] at h
  simp only [takeShort]
  split at h
  · cases h
  split at h
  · next hvalue =>
    simp only [if_pos hvalue]
    split at h
    · next hempty =>
      simp only [if_pos hempty]
      exact exists_settle h
    · next hempty =>
      simp only [if_neg hempty]
      exact exists_settle h
  · next hvalue =>
    simp only [if_neg hvalue]
    obtain ⟨r₂, hflag, h⟩ := bind_eq_ok_iff.1 h
    obtain ⟨r₁, hsettle, hflag⟩ := exists_settle hflag
    exact ⟨r₁, hsettle, bind_eq_ok_iff.2 ⟨r₂, hflag, h⟩⟩

/-- A long name is that of an option of the level. -/
theorem mem_of_long? {name : String} {s : Switch} (h : l.long? name = some s) :
    s ∈ l.switches ∧ s.name = name :=
  ⟨List.mem_of_find?_eq_some h, by simpa using List.find?_some h⟩

/-- So is a short one. -/
theorem mem_of_short? {c : Char} {s : Switch} (h : l.short? c = some s) :
    s ∈ l.switches ∧ s.short = some c :=
  ⟨List.mem_of_find?_eq_some h, by simpa using List.find?_some h⟩

/-- A long name is taken for the option that it names. -/
theorem options_of_takeLong (h : Holds l marks r) {name : List Char} {value : Option (List Char)}
    (htake : l.takeLong (String.ofList name) (value.map String.ofList) r = .ok r') :
    ∃ more awaited,
      l.Options ('-' :: '-' :: (name ++ value.elim [] ('=' :: ·))) more awaited ∧
      Stands l (marks ++ more) awaited r' := by
  rw [takeLong] at htake
  split at htake
  · cases htake
  next s hlong =>
  obtain ⟨hmem, hname⟩ := mem_of_long? hlong
  obtain rfl : s.name.toList = name := by rw [hname, String.toList_ofList]
  split at htake
  · next hvalue =>
    cases value with
    | some text =>
      obtain ⟨values, htakes, hholds⟩ := h.takeAttached hmem hvalue htake
      have hword := Options.equals hmem htakes
      rw [String.toList_ofList] at hword
      exact ⟨_, none, hword, hholds.stands⟩
    | none =>
      refine ⟨[], some s, ?_, ?_⟩
      · show l.Options ('-' :: '-' :: (s.name.toList ++ [])) [] (some s)
        rw [List.append_nil]
        exact .awaits hmem hvalue
      · rw [List.append_nil]
        exact h.await hmem hvalue htake
  · next hvalue =>
    split at htake
    · cases htake
    next hnone =>
    obtain rfl : value = none := by simpa using hnone
    obtain ⟨hkind, hholds⟩ := h.takeFlag hmem (by simpa using hvalue) htake
    refine ⟨_, none, ?_, hholds.stands⟩
    show l.Options ('-' :: '-' :: (s.name.toList ++ [])) [⟨s.name, []⟩] none
    rw [List.append_nil]
    exact .flag hmem hkind

/-- The text that is attached to a short name: what stands after the name, without an equals sign
in front. -/
theorem cluster_of_attached {s : Switch} {c : Char} {cs : List Char} {values : List String}
    (hmem : s ∈ l.switches) (hname : s.short = some c) (hne : cs ≠ [])
    (htakes : s.kind.Takes (String.ofList ((afterStart? ['='] cs).getD cs)) values) :
    l.Cluster (c :: cs) [⟨s.name, values⟩] none := by
  obtain ⟨d, ds, rfl⟩ := List.exists_cons_of_ne_nil hne
  by_cases hd : d = '='
  · subst hd
    have hword := Cluster.equals hmem hname htakes
    rwa [String.toList_ofList] at hword
  · have hrest : (afterStart? ['='] (d :: ds)).getD (d :: ds) = d :: ds := by
      rw [afterStart?, if_neg (Ne.symm hd), Option.getD_none]
    rw [hrest] at htakes
    have hword := Cluster.glued hmem hname htakes (by simp) (by simpa using hd)
    rwa [String.toList_ofList] at hword

/-- Short names are taken for the options that they name. -/
theorem cluster_of_takeShort {cs : List Char} (h : Holds l marks r)
    (htake : l.takeShort cs r = .ok r') :
    ∃ more awaited, l.Cluster cs more awaited ∧ Stands l (marks ++ more) awaited r' := by
  induction cs generalizing r marks with
  | nil =>
    cases htake
    exact ⟨[], none, .nil, by simpa using h.stands⟩
  | cons c cs ih =>
    rw [takeShort] at htake
    split at htake
    · cases htake
    next s hshort =>
    obtain ⟨hmem, hname⟩ := mem_of_short? hshort
    split at htake
    · next hvalue =>
      split at htake
      · next hempty =>
        obtain rfl : cs = [] := List.isEmpty_iff.1 hempty
        exact ⟨[], some s, .awaits hmem hname hvalue, by simpa using h.await hmem hvalue htake⟩
      · next hne =>
        obtain ⟨values, htakes, hholds⟩ := h.takeAttached hmem hvalue htake
        have hne : cs ≠ [] := fun h => hne (List.isEmpty_iff.2 h)
        exact ⟨_, none, cluster_of_attached hmem hname hne htakes, hholds.stands⟩
    · next hvalue =>
      obtain ⟨r₁, hflag, htake⟩ := bind_eq_ok_iff.1 htake
      obtain ⟨hkind, hholds⟩ := h.takeFlag hmem (by simpa using hvalue) hflag
      obtain ⟨more, awaited, hcluster, hstands⟩ := ih hholds htake
      rw [List.append_assoc] at hstands
      exact ⟨_, awaited, .flag hmem hname hkind hcluster, hstands⟩

/-! ## Levels

The words of a level are read from left to right, and spelled from left to right too.  But a reading
may lag behind the words by one value, so what is known of it is said in two parts: from where it is
checked, and from where an option awaits its value. -/

/-- Where the words of a level end: with the last word, or at the name of a command.  In front of a
command there are no two dashes, since after these its name would be no name any more. -/
def Cuts (l : Level) (args front : List String) : Option (String × List String) → Prop
  | none => args = front
  | some (name, rest) => name ∈ l.commands ∧ args = front ++ name :: rest ∧ "--" ∉ front

/-- A word that is not two dashes may be put in front. -/
theorem Cuts.cons {args front : List String} {command : Option (String × List String)}
    (h : l.Cuts args front command) {word : String} (hword : word ≠ "--") :
    l.Cuts (word :: args) (word :: front) command := by
  cases command with
  | none => exact congrArg (word :: ·) h
  | some c =>
    obtain ⟨hmem, hargs, hfront⟩ := h
    exact ⟨hmem, congrArg (word :: ·) hargs,
      List.not_mem_cons_of_ne_of_not_mem (Ne.symm hword) hfront⟩

/-- A word is taken for the further word of the level, if that is not given yet. -/
theorem takeWord_eq_ok_iff {trailing : Bool} {text : String} :
    l.takeWord trailing text r = .ok r' ↔ ∃ name r₁, l.word = some name ∧ r.has name = false ∧
      r.settle = .ok r₁ ∧ r₁.add name [text] = r' := by
  rw [takeWord]
  cases l.word with
  | none =>
    refine ⟨fun h => ?_, nofun⟩
    dsimp only at h
    split at h
    · cases h
    · split at h <;> cases h
  | some name =>
    cases hhas : r.has name with
    | true => simp [hhas]
    | false => simp [hhas, bind_eq_ok_iff, pure, Except.pure]

/-- The check of a value gives the further word to no reading that did not have it. -/
theorem has_of_settle {r₁ : Reading} {name : String} (h : r.settle = .ok r₁)
    (hname : ∀ s text, r.pending = some (s, text) → s.name ≠ name) : r₁.has name = r.has name := by
  rw [settle] at h
  split at h
  · cases h
    rfl
  · cases h
  · next s text hpending =>
    rw [accept] at h
    split at h
    · cases h
    cases hread : s.kind.read text with
    | error refusal =>
      rw [hread] at h
      cases h
    | ok values =>
      rw [hread] at h
      cases h
      rw [has, values?_add, if_neg (Ne.symm (hname s _ hpending))]
      rfl

/-- After two dashes there is one more word at most, the further word of the level. -/
theorem read_trailing {r₂ : Reading} {rest : List String}
    {command : Option (String × List String)} (hread : l.read true r rest = .ok (r', command))
    (hend : r'.settle = .ok r₂) : command = none ∧ ∃ r₁, r.settle = .ok r₁ ∧
      (rest = [] ∧ r₂ = r₁ ∨ ∃ name text, rest = [text] ∧ l.word = some name ∧
        r.has name = false ∧ r₂ = r₁.add name [text]) := by
  cases rest with
  | nil =>
    cases hread
    exact ⟨rfl, r₂, hend, .inl ⟨rfl, rfl⟩⟩
  | cons text rest =>
    rw [read, if_pos rfl] at hread
    obtain ⟨r₃, htake, hread⟩ := bind_eq_ok_iff.1 hread
    obtain ⟨name, r₁, hword, hhas, hsettle, rfl⟩ := takeWord_eq_ok_iff.1 htake
    cases rest with
    | nil =>
      cases hread
      have hsettled : (r₁.add name [text]).pending = none := by
        show r₁.pending = none
        exact settled_of_settle hsettle
      rw [settle_of_settled hsettled] at hend
      cases hend
      exact ⟨rfl, r₁, hsettle, .inr ⟨name, text, rfl, hword, hhas, rfl⟩⟩
    | cons another rest =>
      rw [read, if_pos rfl] at hread
      obtain ⟨r₄, htake, -⟩ := bind_eq_ok_iff.1 hread
      obtain ⟨name', -, hword', hhas', -⟩ := takeWord_eq_ok_iff.1 htake
      obtain rfl : name = name' := Option.some.inj (hword.symm.trans hword')
      rw [has, values?_add, if_pos rfl] at hhas'
      cases hhas'

/-- Where words go on from a reading that holds what some marks give: they are spelled by more marks
up to the name of a command, and the reading at the end holds what all the marks give. -/
def GoesOn (l : Level) (command : Option (String × List String)) (last : Reading)
    (awaited : Option Switch) (marks : List Mark) (args : List String) : Prop :=
  ∃ front more, l.Cuts args front command ∧ l.Spells awaited front more ∧
    Holds l (marks ++ more) last

/-- What words that are read come to.  Either nothing waits, and then the reading can be checked and
the words go on from there; or an option waits, and then they go on with its value. -/
structure Leads (l : Level) (command : Option (String × List String)) (last : Reading)
    (args : List String) (r : Reading) : Prop where
  checked : r.waits = false →
    ∃ r₁, r.settle = .ok r₁ ∧ ∀ marks, Holds l marks r₁ → GoesOn l command last none marks args
  awaited : ∀ s, r.pending = some (s, none) → ∀ marks, Holds l marks { r with pending := none } →
    GoesOn l command last (some s) marks args

/-- The options that a reading has still to check are options of the level. -/
def Known (l : Level) (r : Reading) : Prop :=
  ∀ s text, r.pending = some (s, text) → s ∈ l.switches ∧ s.kind.takesValue = true

/-- A reading that holds what some marks give has no other options to check. -/
theorem known_of_stands {awaited : Option Switch} (h : Stands l marks awaited r) : Known l r := by
  intro s text hs
  rw [h.pending] at hs
  cases awaited with
  | none => cases hs
  | some s' =>
    cases hs
    exact h.known s rfl

section Words

variable {command : Option (String × List String)} {last : Reading} {rest : List String}

/-- Where the reading can be checked nothing waits. -/
theorem leads_of_settle {args : List String} {r₁ : Reading} (hsettle : r.settle = .ok r₁)
    (h : ∀ marks, Holds l marks r₁ → GoesOn l command last none marks args) :
    Leads l command last args r where
  checked := fun _ => ⟨r₁, hsettle, h⟩
  awaited := fun s hs => by
    rw [settle, hs] at hsettle
    cases hsettle

/-- A word of options is read, and then the words after it. -/
theorem goesOn_of_options {word : String} {more : List Mark} {awaited : Option Switch}
    (hne : word ≠ "--") (hword : l.Options word.toList more awaited)
    (hstands : Stands l (marks ++ more) awaited r) (hrest : Leads l command last rest r) :
    GoesOn l command last none marks (word :: rest) := by
  have hgoes : GoesOn l command last awaited (marks ++ more) rest := by
    cases awaited with
    | none =>
      obtain ⟨hsettle, hholds⟩ := hstands.settle
      obtain ⟨r₁, hr₁, hgoes⟩ := hrest.checked (waits_of_settled hholds.settled)
      obtain rfl : r = r₁ := Except.ok.inj (hsettle.symm.trans hr₁)
      exact hgoes _ hholds
    | some s => exact hrest.awaited s hstands.pending _ hstands.holds
  obtain ⟨front, next, hcuts, hspells, hholds⟩ := hgoes
  rw [List.append_assoc] at hholds
  exact ⟨word :: front, more ++ next, hcuts.cons hne, .options hword hspells, hholds⟩

/-- A word that is no option is read as the further word, and then the words after it. -/
theorem leads_of_word (hdistinct : l.Distinct) (hknown : Known l r) {text : String}
    (hplain : IsPlain text.toList) {trailing : Bool} (htake : l.takeWord trailing text r = .ok r')
    (hrest : Leads l command last rest r') : Leads l command last (text :: rest) r := by
  obtain ⟨name, r₁, hword, hhas, hsettle, rfl⟩ := takeWord_eq_ok_iff.1 htake
  refine leads_of_settle hsettle fun marks hholds => ?_
  have hnew : r₁.has name = false := by
    rw [has_of_settle hsettle fun s text hs => hdistinct.ne_word (hknown s text hs).1 hword, hhas]
  have hadded := hholds.add (m := ⟨name, [text]⟩) (.word hword) (.inr hnew)
  obtain ⟨r₂, hr₂, hgoes⟩ := hrest.checked (waits_of_settled hadded.settled)
  obtain rfl : r₁.add name [text] = r₂ :=
    Except.ok.inj ((settle_of_settled hadded.settled).symm.trans hr₂)
  obtain ⟨front, more, hcuts, hspells, hholds⟩ := hgoes _ hadded
  rw [List.append_assoc] at hholds
  exact ⟨text :: front, ⟨name, [text]⟩ :: more, hcuts.cons hplain.ne_dashes,
    .word hword hplain hspells, hholds⟩

/-- After two dashes the words come to an end. -/
theorem leads_of_dashes (hdistinct : l.Distinct) (hknown : Known l r)
    (hread : l.read true r rest = .ok (r', command)) (hend : r'.settle = .ok last) :
    Leads l command last ("--" :: rest) r := by
  obtain ⟨rfl, r₁, hsettle, hrest⟩ := read_trailing hread hend
  refine leads_of_settle hsettle fun marks hholds => ?_
  rcases hrest with ⟨rfl, rfl⟩ | ⟨name, text, rfl, hword, hhas, rfl⟩
  · exact ⟨["--"], [], rfl, .dashes, by simpa using hholds⟩
  · have hnew : r₁.has name = false := by
      rw [has_of_settle hsettle fun s text hs => hdistinct.ne_word (hknown s text hs).1 hword, hhas]
    exact ⟨["--", text], [⟨name, [text]⟩], rfl, .last hword,
      hholds.add (m := ⟨name, [text]⟩) (.word hword) (.inr hnew)⟩

/-- A word that is no option is read as the value that is awaited, and then the words after it. -/
theorem leads_of_value {s : Switch} (hs : r.pending = some (s, none)) (hknown : Known l r)
    {text : String} (hplain : IsPlain text.toList)
    (hrest : Leads l command last rest { r with pending := some (s, some text) }) :
    Leads l command last (text :: rest) r where
  checked := fun hwaits => by
    rw [waits, hs] at hwaits
    cases hwaits
  awaited := fun s' hs' marks hholds => by
    obtain rfl : s = s' := congrArg Prod.fst (Option.some.inj (hs.symm.trans hs'))
    obtain ⟨hmem, hvalue⟩ := hknown s none hs
    obtain ⟨r₁, haccept, hgoes⟩ := hrest.checked rfl
    obtain ⟨values, htakes, hadded⟩ := hholds.accept hmem hvalue haccept
    obtain ⟨front, more, hcuts, hspells, hholds⟩ := hgoes _ hadded
    rw [List.append_assoc] at hholds
    exact ⟨text :: front, ⟨s.name, values⟩ :: more, hcuts.cons hplain.ne_dashes,
      .value hplain htakes hspells, hholds⟩

end Words

/-- **Words that are read are spelled** by some marks up to the name of a command, and the reading
holds what these give. -/
theorem leads_of_read (hdistinct : l.Distinct) {command : Option (String × List String)}
    {last : Reading} {args : List String} (hknown : Known l r)
    (hread : l.read false r args = .ok (r', command)) (hend : r'.settle = .ok last) :
    Leads l command last args r := by
  induction args generalizing r with
  | nil =>
    cases hread
    exact leads_of_settle hend fun marks hholds =>
      ⟨[], [], rfl, .nil, by simpa using hholds⟩
  | cons text rest ih =>
    rw [read, if_neg Bool.false_ne_true] at hread
    split at hread
    · next hcommand =>
      cases hread
      have hmem : text ∈ l.commands := List.contains_iff_mem.1 (Bool.and_eq_true_iff.1 hcommand).2
      exact leads_of_settle hend fun marks hholds =>
        ⟨[], [], ⟨hmem, rfl, List.not_mem_nil⟩, .nil, by simpa using hholds⟩
    split at hread
    · next htext =>
      obtain rfl : text = "--" := String.toList_injective htext
      exact leads_of_dashes hdistinct hknown hread hend
    · next cs hdashes htext =>
      have hne : text ≠ "--" := by
        rintro rfl
        exact hdashes (List.cons.inj (List.cons.inj htext).2).2.symm
      obtain ⟨r₃, htake, hread⟩ := bind_eq_ok_iff.1 hread
      obtain ⟨r₁, hsettle, htake⟩ := exists_settle_takeLong htake
      refine leads_of_settle hsettle fun marks hholds => ?_
      obtain ⟨more, awaited, hword, hstands⟩ := options_of_takeLong hholds htake
      rw [append_splitFirst, ← htext] at hword
      exact goesOn_of_options hne hword hstands (ih (known_of_stands hstands) hread)
    · next c cs hdashes hlong htext =>
      have hne : text ≠ "--" := by
        rintro rfl
        obtain ⟨hc, hcs⟩ := List.cons.inj (List.cons.inj htext).2
        exact hdashes hc.symm hcs.symm
      obtain ⟨r₃, htake, hread⟩ := bind_eq_ok_iff.1 hread
      obtain ⟨r₁, hsettle, htake⟩ := exists_settle_takeShort htake
      refine leads_of_settle hsettle fun marks hholds => ?_
      obtain ⟨more, awaited, hcluster, hstands⟩ := cluster_of_takeShort hholds htake
      have hword := Options.short hcluster
      rw [← htext] at hword
      exact goesOn_of_options hne hword hstands (ih (known_of_stands hstands) hread)
    · next hdashes hlong hshort =>
      have hplain : IsPlain text.toList := by
        intro cs hcs
        cases cs with
        | nil => rfl
        | cons c cs => exact absurd hcs (hshort c cs)
      split at hread
      · next s hs =>
        refine leads_of_value hs hknown hplain (ih ?_ hread)
        intro s' text' hs'
        cases hs'
        exact hknown s none hs
      · obtain ⟨r₃, htake, hread⟩ := bind_eq_ok_iff.1 hread
        refine leads_of_word hdistinct hknown hplain htake (ih ?_ hread)
        obtain ⟨name, r₁, -, -, hsettle, rfl⟩ := takeWord_eq_ok_iff.1 htake
        intro s text hs
        rw [show (r₁.add name [_]).pending = r₁.pending from rfl, settled_of_settle hsettle] at hs
        cases hs

/-- A level is ended if the last value is one that its option takes and the further word is
there. -/
theorem finish_eq_ok_iff {last : Reading} : l.finish r = .ok last ↔
    r.settle = .ok last ∧ ∀ name, l.word = some name → last.has name = true := by
  rw [finish, bind_eq_ok_iff]
  cases l.word with
  | none => simp [pure, Except.pure]
  | some name =>
    constructor
    · rintro ⟨r₁, hsettle, h⟩
      dsimp only at h
      split at h
      · next hhas =>
        cases h
        exact ⟨hsettle, fun _ hname => Option.some.inj hname ▸ hhas⟩
      · cases h
    · rintro ⟨hsettle, hhas⟩
      exact ⟨last, hsettle, if_pos (hhas name rfl)⟩

/-- **A level that is read to its end** has words that some marks spell, and the reading at the end
holds what these give. -/
theorem spells_of_finish (hdistinct : l.Distinct) {args : List String}
    {command : Option (String × List String)} {last : Reading}
    (hread : l.read false .empty args = .ok (r, command)) (hfinish : l.finish r = .ok last) :
    ∃ front marks, l.Cuts args front command ∧ l.Spells none front marks ∧ Holds l marks last := by
  have hleads := leads_of_read hdistinct (known_of_stands (holds_empty l).stands) hread
    (finish_eq_ok_iff.1 hfinish).1
  obtain ⟨r₁, hr₁, hgoes⟩ := hleads.checked rfl
  cases hr₁
  exact hgoes [] (holds_empty l)

end Level

end ThreatGraph.CommandLine
