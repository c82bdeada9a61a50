import Mathlib.Data.List.Dedup
import Mathlib.Logic.Function.Basic
import ThreatGraph.Proofs.Params.Union

/-!
# Parameters with a history

Sets of parameters that are empty at first and are then changed, one at a time and any number of
times.  A change may take over the parameters of another set as they are then.

* `Params.after` are the sets after a history of changes.
* `Params.writes` is what a history writes into each set, from which `Params.lastWritten` takes the
  last value of a key.
* `Params.Holds` says that parameters are the map of the last values: keys in order, look-ups, size
  and pairs.  It follows from the look-ups alone (`Params.holds_of_get?`).
* `Params.Tracks` is the invariant of a history.  One change keeps it (`Params.Tracks.get?_result`),
  so a whole history does (`Params.tracks_after`).  `Params.holds_last_writes` draws the conclusions
  and adds the laws of the union.
-/

set_option autoImplicit false

namespace ThreatGraph.Params

/-! ## Histories

Several sets are changed side by side, since taking over another set is a change that reads one of
them as it is at that time.  The sets have numbers, and a step names the set that it changes. -/

/-- A change of a set of parameters. -/
inductive Change where
  /-- Sets a parameter, on its own or in a chain of settings. -/
  | insert (key : String) (value : ParamValue)
  /-- Sets a parameter if there is a value for it. -/
  | insertOption (key : String) (value : Option ParamValue)
  /-- Sets a parameter to a joined list, unless the list is empty. -/
  | insertJoined (key : String) (values : List String)
  /-- Takes over the parameters of the set with a number. -/
  | merge (source : Nat)
  /-- Makes the set anew of a list of settings. -/
  | collect (settings : List (String × ParamValue))
  deriving DecidableEq, Repr

/-- A step of a history: a change of the set with a number. -/
structure Step where
  target : Nat
  change : Change
  deriving DecidableEq, Repr

/-- What becomes of a set among others by a change. -/
def Change.result (sets : Nat → Params) (p : Params) : Change → Params
  | .insert key value => p.insert key value
  | .insertOption key value => p.insertOption key value
  | .insertJoined key values => p.insertJoined key values
  | .merge source => p.merge (sets source)
  | .collect settings => .ofList settings

/-- The sets after one step more. -/
def advance (sets : Nat → Params) (step : Step) : Nat → Params :=
  Function.update sets step.target (step.change.result sets (sets step.target))

/-- The sets after a history. -/
def after (history : List Step) : Nat → Params := history.foldl advance fun _ => empty

/-! ## What a history writes

What should be in a set is told by a log, which only grows where the set is changed.  The log knows
nothing of keys that are there already, of order or of lookup: that the last write of a key counts
is said once, by `Params.lastWritten`. -/

/-- The values that were written, each under its key, from the first to the last. -/
abbrev Writes := List (String × ParamValue)

/-- What was written into a set, after a change.  No value and no list write nothing, a union writes
what was written into the other set, and a set that is made anew forgets what was written before. -/
def Change.record (logs : Nat → Writes) (log : Writes) : Change → Writes
  | .insert key value => log ++ [(key, value)]
  | .insertOption _ none => log
  | .insertOption key (some value) => log ++ [(key, value)]
  | .insertJoined _ [] => log
  | .insertJoined key (first :: rest) => log ++ [(key, .joined (first :: rest))]
  | .merge source => log ++ logs source
  | .collect settings => settings

/-- What was written into the sets, after one step more. -/
def recordStep (logs : Nat → Writes) (step : Step) : Nat → Writes :=
  Function.update logs step.target (step.change.record logs (logs step.target))

/-- What a history writes into the sets. -/
def writes (history : List Step) : Nat → Writes := history.foldl recordStep fun _ => []

/-- The value that was written last for a key. -/
def lastWritten (key : String) (log : Writes) : Option ParamValue := log.reverse.lookup key

/-- What is written later counts, and what is written earlier only for keys that come no more. -/
theorem lastWritten_append (key : String) (log later : Writes) :
    lastWritten key (log ++ later) = (lastWritten key later).or (lastWritten key log) := by
  rw [lastWritten, List.reverse_append, List.lookup_append]
  rfl

/-- A single write is that of its key and of no other. -/
theorem lastWritten_singleton (key other : String) (value : ParamValue) :
    lastWritten key [(other, value)] = if key = other then some value else none := by
  rw [lastWritten, List.reverse_singleton, List.lookup_cons, List.lookup_nil]
  by_cases h : key = other
  · rw [beq_iff_eq.2 h, if_pos h]
  · rw [beq_eq_false_iff_ne.2 h, if_neg h]

/-- A key has a last value if it was written at all. -/
theorem isSome_lastWritten_iff {key : String} {log : Writes} :
    (lastWritten key log).isSome = true ↔ key ∈ log.map (·.1) := by
  rw [lastWritten, List.lookup_isSome_iff, List.mem_map]
  simp only [List.mem_reverse, beq_iff_eq]
  exact exists_congr fun _ => and_congr_right fun _ => eq_comm

/-! ## Changes and what they write

A set tracks its log if every key has the value that was written last for it.  Each kind of change
is one case of the step, and the sets that a step leaves alone track their logs as before. -/

/-- Every set gives each key the value that was written last for it. -/
def Tracks (sets : Nat → Params) (logs : Nat → Writes) : Prop :=
  ∀ n key, (sets n).get? key = lastWritten key (logs n)

/-- Of a list of settings the last one of each key counts. -/
theorem get?_ofList (settings : List (String × ParamValue)) (key : String) :
    (ofList settings).get? key = lastWritten key settings := by
  suffices h : ∀ p : Params,
      (settings.foldl (fun p entry => p.insert entry.1 entry.2) p).get? key =
        (lastWritten key settings).or (p.get? key) from (h empty).trans Option.or_none
  induction settings with
  | nil => exact fun _ => rfl
  | cons setting rest ih =>
    intro p
    rw [List.foldl_cons, ih, get?_insert, ← List.singleton_append, lastWritten_append,
      lastWritten_singleton, Option.or_assoc]
    split <;> rfl

/-- One more write. -/
theorem get?_insert_of_log {p : Params} {log : Writes} {key : String}
    (h : p.get? key = lastWritten key log) (other : String) (value : ParamValue) :
    (p.insert other value).get? key = lastWritten key (log ++ [(other, value)]) := by
  rw [get?_insert, lastWritten_append, lastWritten_singleton, h]
  split <;> rfl

/-- A change keeps to what it writes. -/
theorem Tracks.get?_result {sets : Nat → Params} {logs : Nat → Writes} (h : Tracks sets logs)
    (n : Nat) (change : Change) (key : String) :
    (change.result sets (sets n)).get? key = lastWritten key (change.record logs (logs n)) := by
  cases change with
  | insert other value => exact get?_insert_of_log (h n key) other value
  | insertOption other value =>
    cases value with
    | none => exact h n key
    | some value => exact get?_insert_of_log (h n key) other value
  | insertJoined other values =>
    cases values with
    | nil => exact h n key
    | cons first rest => exact get?_insert_of_log (h n key) other (.joined (first :: rest))
  | merge source =>
    rw [Change.result, Change.record, get?_merge, lastWritten_append, h n, h source]
  | collect settings => exact get?_ofList settings key

/-- One step keeps to what is written, in the set that it changes and in the others. -/
theorem Tracks.advance {sets : Nat → Params} {logs : Nat → Writes} (h : Tracks sets logs)
    (step : Step) : Tracks (advance sets step) (recordStep logs step) := by
  intro n key
  rw [Params.advance, recordStep]
  by_cases hn : n = step.target
  · subst hn
    rw [Function.update_self, Function.update_self]
    exact h.get?_result _ step.change key
  · rw [Function.update_of_ne hn, Function.update_of_ne hn]
    exact h n key

/-- **Look-ups after a history.**  Each key has the value that was written last for it. -/
theorem tracks_after (history : List Step) : Tracks (after history) (writes history) := by
  suffices h : ∀ sets logs, Tracks sets logs →
      Tracks (history.foldl advance sets) (history.foldl recordStep logs) from h _ _ fun _ _ => rfl
  induction history with
  | nil => exact fun _ _ h => h
  | cons step rest ih => exact fun _ _ h => ih _ _ (h.advance step)

/-! ## The map of the last values

What a caller can read of parameters are their keys, their values, their number and their pairs.
The keys are in order and without repetition by the type of parameters, so all of this is determined
by the look-ups. -/

/-- The keys of the parameters that are set. -/
def keys (p : Params) : List String := p.entries.map (·.1)

/-- Parameters are the map that some writes leave. -/
structure Holds (p : Params) (log : Writes) : Prop where
  /-- The keys are in the order of their bytes. -/
  ordered : p.keys.Pairwise fun left right => utf8Bytes left.toList < utf8Bytes right.toList
  /-- No key occurs twice. -/
  nodup : p.keys.Nodup
  /-- The keys are those that were written. -/
  mem_keys_iff : ∀ key, key ∈ p.keys ↔ key ∈ log.map (·.1)
  /-- These are the parameters that are set. -/
  contains_iff : ∀ key, p.contains key = true ↔ key ∈ log.map (·.1)
  /-- Each has the value that was written last for it. -/
  get?_eq : ∀ key, p.get? key = lastWritten key log
  /-- The size is the number of different keys. -/
  size_eq : p.size = (log.map (·.1)).dedup.length
  /-- The pairs are those of the last values, key by key. -/
  pairs_eq : p.pairs = p.keys.flatMap fun key =>
    ((lastWritten key log).elim [] ParamValue.toList).map (key, ·)

/-- The keys are those of the parameters that are set. -/
theorem mem_keys_iff {p : Params} {key : String} : key ∈ p.keys ↔ p.contains key = true := by
  rw [contains, get?, Option.isSome_iff_exists, keys]
  constructor
  · intro h
    obtain ⟨entry, hentry, rfl⟩ := List.mem_map.1 h
    exact ⟨entry.2, Assoc.lookup?_of_mem (Assoc.nodup_keys p.ordered) hentry⟩
  · rintro ⟨value, hvalue⟩
    by_contra hnot
    rw [Assoc.lookup?_of_not_mem hnot] at hvalue
    cases hvalue

/-- The pairs are those of the values of each key. -/
theorem pairs_eq_flatMap_keys (p : Params) :
    p.pairs = p.keys.flatMap fun key => ((p.get? key).elim [] ParamValue.toList).map (key, ·) := by
  rw [pairs, keys, List.flatMap_map]
  refine List.flatMap_congr fun entry hentry => ?_
  rw [get?, Assoc.lookup?_of_mem (Assoc.nodup_keys p.ordered) hentry]
  rfl

/-- All of it follows from the look-ups, since the keys are kept in order. -/
theorem holds_of_get? {p : Params} {log : Writes}
    (h : ∀ key, p.get? key = lastWritten key log) : p.Holds log := by
  have hcontains : ∀ key, p.contains key = true ↔ key ∈ log.map (·.1) := fun key => by
    rw [contains, h, isSome_lastWritten_iff]
  have hkeys : ∀ key, key ∈ p.keys ↔ key ∈ log.map (·.1) := fun key =>
    mem_keys_iff.trans (hcontains key)
  have hnodup : p.keys.Nodup := Assoc.nodup_keys p.ordered
  refine ⟨?_, hnodup, hkeys, hcontains, h, ?_, ?_⟩
  · exact List.pairwise_map.2 (p.ordered.imp fun hlt => (utf8Bytes_lt_iff _ _).2 hlt)
  · have hperm : p.keys.Perm (log.map (·.1)).dedup :=
      (List.perm_ext_iff_of_nodup hnodup (List.nodup_dedup _)).2 fun key => by
        rw [hkeys, List.mem_dedup]
    rw [← hperm.length_eq, keys, List.length_map, size]
  · simp only [pairs_eq_flatMap_keys, h]

/-- Sets are equal exactly if the same was written last into them. -/
theorem after_eq_iff {history history' : List Step} {n n' : Nat} :
    after history n = after history' n' ↔
      ∀ key, lastWritten key (writes history n) = lastWritten key (writes history' n') := by
  simp only [← tracks_after history n, ← tracks_after history' n']
  exact ⟨fun h key => congrArg (get? key) h, eq_of_get?⟩

/-- One step more comes after the others. -/
theorem after_concat (history : List Step) (step : Step) :
    after (history ++ [step]) = advance (after history) step := by
  rw [after, List.foldl_append]
  rfl

/-- Taking over a set leaves it as it is, also if it is the set that takes it over. -/
theorem after_merge_source (history : List Step) (target source : Nat) :
    after (history ++ [⟨target, .merge source⟩]) source = after history source := by
  rw [after_concat, advance]
  by_cases h : source = target
  · subst h
    rw [Function.update_self]
    exact merge_self _
  · exact Function.update_of_ne h _ _

/-- **Parameters are the map of the last writes.**  After any history of changes each set holds what
was written last under each key, and nothing else.  So sets are equal exactly if the same was
written last into them, whatever came before, and they are sent as the same pairs then.  The union
is the one in which the second side wins; it leaves the second side as it is, it can be grouped as
one likes, it changes nothing with itself or with no parameters, and its sides can be exchanged
exactly if they agree where both set a key. -/
theorem holds_last_writes :
    (∀ (history : List Step) (n : Nat), (after history n).Holds (writes history n)) ∧
    (∀ (history history' : List Step) (n n' : Nat),
      (after history n = after history' n' ↔
        ∀ key, lastWritten key (writes history n) = lastWritten key (writes history' n')) ∧
      ((∀ key, lastWritten key (writes history n) = lastWritten key (writes history' n')) →
        (after history n).pairs = (after history' n').pairs)) ∧
    (∀ (history : List Step) (target source : Nat),
      after (history ++ [⟨target, .merge source⟩]) target =
        (after history target).merge (after history source) ∧
      after (history ++ [⟨target, .merge source⟩]) source = after history source) ∧
    (∀ (p q : Params) (key : String), (p.merge q).get? key = (q.get? key).or (p.get? key)) ∧
    (∀ p q r : Params, (p.merge q).merge r = p.merge (q.merge r)) ∧
    (∀ p : Params, p.merge p = p ∧ p.merge empty = p ∧ empty.merge p = p) ∧
    (∀ p q : Params, p.merge q = q.merge p ↔ p.AgreesWith q) := by
  refine ⟨fun history n => holds_of_get? (tracks_after history n), fun history history' n n' =>
    ⟨after_eq_iff, fun h => congrArg pairs (after_eq_iff.2 h)⟩, fun history target source =>
    ⟨?_, after_merge_source history target source⟩, get?_merge, merge_assoc,
    fun p => ⟨merge_self p, merge_empty p, empty_merge p⟩, fun _ _ => merge_comm_iff⟩
  rw [after_concat, advance, Function.update_self]
  rfl

/-- A history that writes one key twice and two keys not at all, and takes over another set. -/
def detour : List Step :=
  [⟨0, .insert "b" (.single "1")⟩, ⟨0, .insertOption "é" none⟩, ⟨0, .insertJoined "c" []⟩,
    ⟨1, .collect [("b", .multi ["x", "y"]), ("a", .single "0")]⟩, ⟨0, .merge 1⟩]

/-- A history that writes the same at once. -/
def direct : List Step := [⟨0, .collect [("a", .single "0"), ("b", .multi ["x", "y"])]⟩]

/-- Both make the same pairs. -/
theorem pairs_of_detour :
    (∀ key, lastWritten key (writes detour 0) = lastWritten key (writes direct 0)) ∧
    (after detour 0).pairs = (after direct 0).pairs ∧
    (after direct 0).pairs = [("a", "0"), ("b", "x"), ("b", "y")] := by
  have hdetour : writes detour 0 = [("b", .single "1")] ++
      [("b", .multi ["x", "y"]), ("a", .single "0")] := rfl
  have hdirect : writes direct 0 = [("a", .single "0"), ("b", .multi ["x", "y"])] := rfl
  have hsame : ∀ key, lastWritten key (writes detour 0) = lastWritten key (writes direct 0) := by
    intro key
    rw [hdetour, hdirect]
    by_cases ha : key = "a"
    · subst ha
      rfl
    · by_cases hb : key = "b"
      · subst hb
        rfl
      · simp [lastWritten, List.lookup_cons, beq_eq_false_iff_ne.2 ha, beq_eq_false_iff_ne.2 hb]
  refine ⟨hsame, (holds_last_writes.2.1 detour direct 0 0).2 hsame, ?_⟩
  decide +kernel

end ThreatGraph.Params
