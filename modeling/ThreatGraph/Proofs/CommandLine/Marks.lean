import Mathlib.Data.List.Nodup
import ThreatGraph.CommandLine.Grammar
import ThreatGraph.Proofs.Text.Numeral
import ThreatGraph.Proofs.Text.Split

/-!
# What is read of the words of a level

A `Mark` is an option or a further word with its values.  What is read of a level is compared here
with some marks, without saying yet by which words these are given.

* `Kind.Takes` says which texts an option takes, and for which values they stand.
  `Kind.read_eq_ok_iff` says that these are the texts that are read, and that they are read so.
* `Reading.Holds` says that a reading holds what some marks give and nothing else.  It is the
  invariant of reading: `Reading.Holds.add` and `Reading.Holds.accept` are the two ways in which a
  reading grows by a mark.
* `Reading.Holds.value?_eq_some_iff`, `Reading.Holds.has_flag_iff` and `Reading.Holds.values_eq` say
  how the marks can be told from the reading again, for an option with a value, one without and one
  with a list.
-/

set_option autoImplicit false

namespace ThreatGraph.CommandLine

/-- A chain of two steps succeeds if both do. -/
theorem bind_eq_ok_iff {ε α β : Type} {x : Except ε α} {f : α → Except ε β} {b : β} :
    x >>= f = .ok b ↔ ∃ a, x = .ok a ∧ f a = .ok b := by
  cases x with
  | error e => exact ⟨nofun, fun ⟨_, h, _⟩ => nomatch h⟩
  | ok a => exact ⟨fun h => ⟨a, rfl, h⟩, fun ⟨_, ha, h⟩ => by cases ha; exact h⟩

theorem ite_eq_ok_iff {ε α : Type} {p : Prop} [Decidable p] {a b : α} {e : ε} :
    (if p then Except.ok a else Except.error e) = .ok b ↔ p ∧ a = b := by
  split <;> simp [*]

/-! ## Values

The text of a value stands for itself, and for the texts between its commas if the option takes a
list.  A text is checked before it is taken, except where any text will do. -/

/-- The values that a text stands for, as the value of an option of a kind. -/
inductive Kind.Takes : Kind → String → List String → Prop where
  | text (s : String) : Takes .text s [s]
  | path {s : String} (h : s ≠ "") : Takes .path s [s]
  | choice {words : List String} {s : String} (h : s ∈ words) : Takes (.choice words) s [s]
  | signed {z : Int} {s : String} (h : NumeralForm z s.toList)
      (hbounds : minSigned64 ≤ z ∧ z ≤ maxSigned64) : Takes .signed s [s]
  | count {n : Nat} {s : String} (h : IsUnsigned n s.toList) (hbound : n ≤ maxUnsigned64) :
      Takes .count s [s]
  | list {values : List String} (hne : values ≠ []) (h : ∀ value ∈ values, ',' ∉ value.toList) :
      Takes .list (String.intercalate "," values) values

namespace Kind

/-- A text stands for the values that it is, put together with commas. -/
theorem pieces_eq_iff {text : String} {values : List String} :
    (splitOn ',' text.toList).map String.ofList = values ↔ Takes .list text values := by
  constructor
  · rintro rfl
    have htext : text = String.intercalate "," ((splitOn ',' text.toList).map String.ofList) := by
      refine String.toList_injective ?_
      have hcomma : ",".toList = [','] := rfl
      rw [String.toList_intercalate, hcomma, intercalate_eq_joinSep, List.map_map]
      have hid : String.toList ∘ String.ofList = id := funext fun cs => String.toList_ofList
      rw [hid, List.map_id, joinSep_splitOn]
    have htakes : Takes .list (String.intercalate "," ((splitOn ',' text.toList).map String.ofList))
        ((splitOn ',' text.toList).map String.ofList) := by
      refine .list ?_ fun value hvalue => ?_
      · exact fun h => splitOn_ne_nil ',' text.toList (List.map_eq_nil_iff.1 h)
      · obtain ⟨piece, hpiece, rfl⟩ := List.mem_map.1 hvalue
        rw [String.toList_ofList]
        exact (not_mem_of_mem_splitOn hpiece).1
    rwa [← htext] at htakes
  · intro h
    cases h with
    | list hne h =>
      have hcomma : ",".toList = [','] := rfl
      rw [String.toList_intercalate, hcomma, intercalate_eq_joinSep,
        splitOn_joinSep (by simpa using hne) (List.forall_mem_map.2 h), List.map_map]
      have hid : String.ofList ∘ String.toList = id := funext fun s => String.ofList_toList
      rw [hid, List.map_id]

theorem isSome_readSigned64?_iff {s : String} : (readSigned64? s).isSome = true ↔
    ∃ z, NumeralForm z s.toList ∧ minSigned64 ≤ z ∧ z ≤ maxSigned64 := by
  rw [Option.isSome_iff_exists]
  exact exists_congr fun z => readSigned?_eq_some_iff

theorem isSome_readUnsigned64?_iff {s : String} : (readUnsigned64? s).isSome = true ↔
    ∃ n, IsUnsigned n s.toList ∧ n ≤ maxUnsigned64 := by
  rw [Option.isSome_iff_exists]
  exact exists_congr fun n => readUnsigned?_eq_some_iff

/-- **Values are read** from the texts that an option takes, and they are what the texts stand
for. -/
theorem read_eq_ok_iff {kind : Kind} (hvalue : kind.takesValue = true) {text : String}
    {values : List String} : kind.read text = .ok values ↔ kind.Takes text values := by
  cases kind with
  | flag => cases hvalue
  | shows what => cases hvalue
  | text =>
    show Except.ok [text] = Except.ok values ↔ _
    rw [Except.ok.injEq]
    refine ⟨fun h => h ▸ .text text, fun h => ?_⟩
    cases h
    rfl
  | path =>
    rw [read, ← ite_not, ite_eq_ok_iff]
    refine ⟨fun ⟨hne, h⟩ => h ▸ .path hne, fun h => ?_⟩
    cases h with
    | path hne => exact ⟨hne, rfl⟩
  | choice words =>
    rw [read, ite_eq_ok_iff, List.contains_iff_mem]
    refine ⟨fun ⟨hmem, h⟩ => h ▸ .choice hmem, fun h => ?_⟩
    cases h with
    | choice hmem => exact ⟨hmem, rfl⟩
  | signed =>
    rw [read, ite_eq_ok_iff, isSome_readSigned64?_iff]
    refine ⟨fun ⟨⟨z, hform, hbounds⟩, h⟩ => h ▸ .signed hform hbounds, fun h => ?_⟩
    cases h with
    | signed hform hbounds => exact ⟨⟨_, hform, hbounds⟩, rfl⟩
  | count =>
    rw [read, ite_eq_ok_iff, isSome_readUnsigned64?_iff]
    refine ⟨fun ⟨⟨n, hform, hbound⟩, h⟩ => h ▸ .count hform hbound, fun h => ?_⟩
    cases h with
    | count hform hbound => exact ⟨⟨_, hform, hbound⟩, rfl⟩
  | list =>
    rw [read, Except.ok.injEq]
    exact pieces_eq_iff

/-- An option that takes no list takes one value. -/
theorem Takes.eq_singleton {kind : Kind} {text : String} {values : List String}
    (h : kind.Takes text values) (hlist : kind ≠ .list) : values = [text] := by
  cases h with
  | list _ _ => exact absurd rfl hlist
  | _ => rfl

end Kind

/-- An option or a further word, with its values. -/
structure Mark where
  name : String
  values : List String
  deriving DecidableEq, Repr

/-! ## What is read

A reading holds the values of what is given, by name.  It holds what some marks give if it has, for
each name, the values of all marks of that name one after the other.  Only the name of a list may
come more than once. -/

/-- All values that marks give to a name. -/
def valuesOf (name : String) (marks : List Mark) : List String :=
  (marks.filter fun m => m.name = name).flatMap Mark.values

namespace Level

/-- A mark that words of a level may give. -/
inductive Admits (l : Level) : Mark → Prop where
  | flag {s : Switch} (hmem : s ∈ l.switches) (hkind : s.kind = .flag) : Admits l ⟨s.name, []⟩
  | value {s : Switch} {text : String} {values : List String} (hmem : s ∈ l.switches)
      (htakes : s.kind.Takes text values) : Admits l ⟨s.name, values⟩
  | word {name text : String} (hword : l.word = some name) : Admits l ⟨name, [text]⟩

/-- Whether an option of a level takes a list, so that it may be given more than once. -/
def Repeats (l : Level) (name : String) : Prop :=
  ∃ s ∈ l.switches, s.name = name ∧ s.kind = .list

/-- The options of a level and its further word have different names. -/
def Distinct (l : Level) : Prop := (l.word.toList ++ l.switches.map Switch.name).Nodup

instance (l : Level) : Decidable l.Distinct := List.nodupDecidable _

end Level

/-- What takes no list is given once. -/
def Once (l : Level) (marks : List Mark) : Prop :=
  ∀ name, ¬ l.Repeats name → (marks.map Mark.name).count name ≤ 1

namespace Reading

/-- What is read of a level is what some marks give. -/
structure Holds (l : Level) (marks : List Mark) (r : Reading) : Prop where
  /-- No value is left to check. -/
  settled : r.pending = none
  /-- The values are those of the marks. -/
  values : ∀ name, r.values? name =
    if name ∈ marks.map Mark.name then some (valuesOf name marks) else none
  /-- What takes no list is given once. -/
  once : Once l marks
  /-- The marks are such as the level knows. -/
  admits : ∀ m ∈ marks, l.Admits m

/-- An empty reading holds no marks. -/
theorem holds_empty (l : Level) : Holds l [] empty where
  settled := rfl
  values := fun _ => rfl
  once := fun _ _ => Nat.zero_le 1
  admits := List.forall_mem_nil _

/-- A mark adds its values to those of its name. -/
theorem values?_add (name other : String) (values : List String) (r : Reading) :
    (r.add name values).values? other =
      if other = name then some (r.values name ++ values) else r.values? other := by
  rw [values?, add]
  by_cases h : other = name
  · simp [h]
  · rw [if_neg h, List.find?_cons_of_neg (by simpa using Ne.symm h), List.find?_filter, values?]
    congr 2
    funext entry
    by_cases hentry : entry.1 = other
    · simp [hentry, h]
    · simp [hentry]

theorem valuesOf_append (name : String) (marks more : List Mark) :
    valuesOf name (marks ++ more) = valuesOf name marks ++ valuesOf name more := by
  rw [valuesOf, List.filter_append, List.flatMap_append]
  rfl

theorem valuesOf_of_not_mem {name : String} {marks : List Mark}
    (h : name ∉ marks.map Mark.name) : valuesOf name marks = [] := by
  have hnone : (marks.filter fun m => m.name = name) = [] :=
    List.filter_eq_nil_iff.2 fun m hm => by
      simpa using fun heq : m.name = name => h (heq ▸ List.mem_map_of_mem hm)
  rw [valuesOf, hnone]
  rfl

variable {l : Level} {marks : List Mark} {r r' : Reading}

/-- A reading has the options that are marked. -/
theorem Holds.has_iff (h : Holds l marks r) {name : String} :
    r.has name = true ↔ name ∈ marks.map Mark.name := by
  rw [has, h.values]
  split <;> simp [*]

/-- The values of an option are those of its marks, in order. -/
theorem Holds.values_eq (h : Holds l marks r) (name : String) :
    r.values name = valuesOf name marks := by
  rw [Reading.values, h.values]
  split
  · rfl
  · next hmem => rw [valuesOf_of_not_mem hmem, Option.getD_none]

/-- One more mark is taken, which is not given before unless it is one of a list. -/
theorem Holds.add (h : Holds l marks r) {m : Mark} (hadmits : l.Admits m)
    (hnew : l.Repeats m.name ∨ r.has m.name = false) :
    Holds l (marks ++ [m]) (r.add m.name m.values) where
  settled := h.settled
  values := fun name => by
    rw [values?_add, h.values_eq, h.values, valuesOf_append]
    by_cases heq : name = m.name
    · subst heq
      simp [valuesOf]
    · simp [heq, valuesOf, Ne.symm heq]
  once := fun name hname => by
    rw [List.map_append, List.count_append]
    by_cases heq : m.name = name
    · subst heq
      have hnone : m.name ∉ marks.map Mark.name := fun hmem =>
        Bool.false_ne_true ((hnew.resolve_left hname).symm.trans (h.has_iff.2 hmem))
      simp [List.count_eq_zero.2 hnone]
    · simpa [heq] using h.once name hname
  admits := fun other hmem => by
    rcases List.mem_append.1 hmem with hmem | hmem
    · exact h.admits other hmem
    · rwa [List.mem_singleton.1 hmem]

/-- A value that is accepted is one that the option takes. -/
theorem Holds.accept (h : Holds l marks r) {s : Switch} (hmem : s ∈ l.switches)
    (hvalue : s.kind.takesValue = true) {text : String} (haccept : r.accept s text = .ok r') :
    ∃ values, s.kind.Takes text values ∧ Holds l (marks ++ [⟨s.name, values⟩]) r' := by
  rw [Reading.accept] at haccept
  split at haccept
  · cases haccept
  next hconflict =>
  cases hread : s.kind.read text with
  | error refusal =>
    rw [hread] at haccept
    cases haccept
  | ok values =>
    rw [hread] at haccept
    cases haccept
    have htakes := (Kind.read_eq_ok_iff hvalue).1 hread
    have hnew : l.Repeats s.name ∨ r.has s.name = false := by
      by_cases hlist : s.kind = .list
      · exact .inl ⟨s, hmem, rfl, hlist⟩
      · exact .inr (by simpa [hlist] using hconflict)
    exact ⟨values, htakes, h.add (.value hmem htakes) hnew⟩

end Reading

/-! ## Marks told from a reading

An option of a level is known by its name, since names are different.  What is given once has one
mark, so the values of its name are those of that mark. -/

namespace Level

variable {l : Level}

/-- The name of the further word is none of an option. -/
theorem Distinct.ne_word (h : l.Distinct) {s : Switch} {name : String} (hmem : s ∈ l.switches)
    (hword : l.word = some name) : s.name ≠ name := by
  rw [Distinct, hword] at h
  exact fun heq => (List.nodup_cons.1 h).1 (heq ▸ List.mem_map_of_mem hmem)

theorem Distinct.eq_of_name (h : l.Distinct) {s s' : Switch} (hmem : s ∈ l.switches)
    (hmem' : s' ∈ l.switches) (hname : s.name = s'.name) : s = s' :=
  List.inj_on_of_nodup_map (List.Nodup.of_append_right h) hmem hmem' hname

/-- A mark with the name of an option is one that the option gives. -/
theorem Distinct.values_of_admits (h : l.Distinct) {s : Switch} (hmem : s ∈ l.switches) {m : Mark}
    (hadmits : l.Admits m) (hname : m.name = s.name) :
    s.kind = .flag ∧ m.values = [] ∨ ∃ text, s.kind.Takes text m.values := by
  cases hadmits with
  | flag hmem' hkind =>
    obtain rfl := h.eq_of_name hmem' hmem hname
    exact .inl ⟨hkind, rfl⟩
  | value hmem' htakes =>
    obtain rfl := h.eq_of_name hmem' hmem hname
    exact .inr ⟨_, htakes⟩
  | word hword => exact absurd hname.symm (h.ne_word hmem hword)

/-- A mark with the name of the further word is that word. -/
theorem Distinct.values_of_word (h : l.Distinct) {name : String} (hword : l.word = some name)
    {m : Mark} (hadmits : l.Admits m) (hname : m.name = name) : ∃ text, m.values = [text] := by
  cases hadmits with
  | flag hmem _ => exact absurd hname (h.ne_word hmem hword)
  | value hmem _ => exact absurd hname (h.ne_word hmem hword)
  | word _ => exact ⟨_, rfl⟩

/-- Only an option that makes a list may be given again. -/
theorem Distinct.not_repeats (h : l.Distinct) {s : Switch} (hmem : s ∈ l.switches)
    (hkind : s.kind ≠ .list) : ¬ l.Repeats s.name := by
  rintro ⟨s', hmem', hname, hlist⟩
  obtain rfl := h.eq_of_name hmem' hmem hname
  exact hkind hlist

/-- The further word is given once. -/
theorem Distinct.not_repeats_word (h : l.Distinct) {name : String} (hword : l.word = some name) :
    ¬ l.Repeats name := by
  rintro ⟨s, hmem, hname, -⟩
  exact h.ne_word hmem hword hname

end Level

namespace Reading

variable {l : Level} {marks : List Mark} {r : Reading}

/-- The only mark of its name gives all values of the name. -/
theorem Holds.valuesOf_eq (h : Holds l marks r) {m : Mark} (hmem : m ∈ marks)
    (hrepeats : ¬ l.Repeats m.name) : valuesOf m.name marks = m.values := by
  have hcount := h.once m.name hrepeats
  rw [List.count_eq_length_filter, List.filter_map, List.length_map] at hcount
  have hfilter : marks.filter ((· == m.name) ∘ Mark.name) =
      marks.filter fun m' => m'.name = m.name :=
    List.filter_congr fun m' _ => rfl
  have hm : m ∈ marks.filter fun m' => m'.name = m.name :=
    List.mem_filter.2 ⟨hmem, by simp⟩
  rw [hfilter] at hcount
  have hone := Nat.le_antisymm hcount (List.length_pos_of_mem hm)
  obtain ⟨only, honly⟩ := List.length_eq_one_iff.1 hone
  rw [honly, List.mem_singleton] at hm
  rw [valuesOf, honly, ← hm, List.flatMap_singleton]

/-- The value of a name that is given once, with one value. -/
theorem Holds.value?_of_single (h : Holds l marks r) {name : String} (hrepeats : ¬ l.Repeats name)
    (hsingle : ∀ m ∈ marks, m.name = name → ∃ text, m.values = [text]) {text : String} :
    r.value? name = some text ↔ ⟨name, [text]⟩ ∈ marks := by
  rw [value?, h.values]
  constructor
  · intro hvalue
    split at hvalue
    · next hmem =>
      obtain ⟨m, hm, rfl⟩ := List.mem_map.1 hmem
      obtain ⟨text', htext⟩ := hsingle m hm rfl
      rw [h.valuesOf_eq hm hrepeats, htext] at hvalue
      cases hvalue
      rwa [← htext]
    · cases hvalue
  · intro hm
    have hvalues := h.valuesOf_eq hm hrepeats
    dsimp only at hvalues
    rw [if_pos (List.mem_map_of_mem (f := Mark.name) hm), hvalues]
    rfl

/-- **The value of an option** is that of its mark. -/
theorem Holds.value?_eq_some_iff (h : Holds l marks r) (hdistinct : l.Distinct) {s : Switch}
    (hmem : s ∈ l.switches) (hvalue : s.kind.takesValue = true) (hkind : s.kind ≠ .list)
    {text : String} : r.value? s.name = some text ↔ ⟨s.name, [text]⟩ ∈ marks := by
  refine h.value?_of_single (hdistinct.not_repeats hmem hkind) fun m hm hname => ?_
  rcases hdistinct.values_of_admits hmem (h.admits m hm) hname with ⟨hflag, -⟩ | ⟨text, htakes⟩
  · rw [hflag] at hvalue
    cases hvalue
  · exact ⟨text, htakes.eq_singleton hkind⟩

/-- The further word is that of its mark. -/
theorem Holds.word_eq_some_iff (h : Holds l marks r) (hdistinct : l.Distinct) {name : String}
    (hword : l.word = some name) {text : String} :
    r.value? name = some text ↔ ⟨name, [text]⟩ ∈ marks :=
  h.value?_of_single (hdistinct.not_repeats_word hword) fun m hm =>
    hdistinct.values_of_word hword (h.admits m hm)

/-- A further word that is given has its mark. -/
theorem Holds.mem_of_word (h : Holds l marks r) (hdistinct : l.Distinct) {name : String}
    (hword : l.word = some name) (hgiven : r.has name = true) :
    ⟨name, [(r.value? name).getD ""]⟩ ∈ marks := by
  obtain ⟨m, hm, rfl⟩ := List.mem_map.1 (h.has_iff.1 hgiven)
  obtain ⟨text, htext⟩ := hdistinct.values_of_word hword (h.admits m hm) rfl
  have hmark : (⟨m.name, [text]⟩ : Mark) ∈ marks := by rwa [← htext]
  rwa [(h.word_eq_some_iff hdistinct hword).2 hmark]

/-- An option without a value is given if it has its mark. -/
theorem Holds.has_flag_iff (h : Holds l marks r) (hdistinct : l.Distinct) {s : Switch}
    (hmem : s ∈ l.switches) (hkind : s.kind = .flag) :
    r.has s.name = true ↔ ⟨s.name, []⟩ ∈ marks := by
  rw [h.has_iff]
  refine ⟨fun hgiven => ?_, List.mem_map_of_mem⟩
  obtain ⟨m, hm, hname⟩ := List.mem_map.1 hgiven
  rcases hdistinct.values_of_admits hmem (h.admits m hm) hname with ⟨-, hvalues⟩ | ⟨_, htakes⟩
  · rwa [← hname, ← hvalues]
  · rw [hkind] at htakes
    cases htakes

end Reading

end ThreatGraph.CommandLine
