/-!
# Lists of keyed values in key order

A finite map as a list of pairs whose keys increase. Texts are ordered by code point, which is the
order of their UTF-8 bytes.

* `Assoc.Ordered` says that the keys increase.
* `Assoc.insert` keeps the list in order and replaces the value of a key that is there.
* `Assoc.lookup?` finds the value of a key.

Setting a key keeps the order (`Assoc.ordered_insert`) and changes the value of this key and of no
other (`Assoc.lookup?_insert`).  Entries with different keys are found as they are, also in the list
that is made of them (`Assoc.lookup?_of_mem`, `Assoc.lookup?_ofPairs`).  This list is in order, so
that its keys differ, and it holds no other entries (`Assoc.ordered_ofPairs`, `Assoc.nodup_keys`,
`Assoc.mem_ofPairs`).
-/

set_option autoImplicit false

namespace ThreatGraph.Assoc

variable {α : Type}

/-- The keys of the entries increase. -/
def Ordered (entries : List (String × α)) : Prop :=
  entries.Pairwise fun left right => left.1 < right.1

/-- The entries with one key set to a value. -/
def insert (key : String) (value : α) : List (String × α) → List (String × α)
  | [] => [(key, value)]
  | (k, v) :: rest =>
    if key < k then (key, value) :: (k, v) :: rest
    else if key = k then (key, value) :: rest
    else (k, v) :: insert key value rest

/-- The value of a key. -/
def lookup? (key : String) : List (String × α) → Option α
  | [] => none
  | (k, v) :: rest => if key = k then some v else lookup? key rest

/-- The entries of a list of pairs, where a later pair replaces an earlier one of the same key. -/
def ofPairs (pairs : List (String × α)) : List (String × α) :=
  pairs.foldl (fun entries pair => insert pair.1 pair.2 entries) []

/-! ## Setting a key -/

/-- A key that is set has its value, and the other keys keep theirs. -/
theorem lookup?_insert (key : String) (value : α) (other : String) (entries : List (String × α)) :
    lookup? other (insert key value entries) =
      if other = key then some value else lookup? other entries := by
  induction entries with
  | nil => simp [insert, lookup?]
  | cons entry rest ih =>
    simp only [insert]
    split
    · simp [lookup?]
    · split
      · next h => subst h; by_cases ho : other = entry.1 <;> simp [lookup?, ho]
      · next h =>
        by_cases ho : other = entry.1
        · subst ho
          simp [lookup?, Ne.symm h]
        · simp [lookup?, ho, ih]

/-- Setting a key adds no other entry. -/
theorem mem_insert {key : String} {value : α} {entries : List (String × α)} {entry : String × α}
    (h : entry ∈ insert key value entries) : entry = (key, value) ∨ entry ∈ entries := by
  induction entries with
  | nil => simpa [insert] using h
  | cons head rest ih =>
    simp only [insert] at h
    split at h
    · simpa using h
    · split at h
      · rcases List.mem_cons.1 h with h | h
        · exact .inl h
        · exact .inr (List.mem_cons_of_mem _ h)
      · rcases List.mem_cons.1 h with h | h
        · exact .inr (h ▸ List.mem_cons_self)
        · exact (ih h).imp_right (List.mem_cons_of_mem _)

theorem lt_of_not_lt_of_ne {a b : String} (hlt : ¬ a < b) (hne : a ≠ b) : b < a := by
  by_cases h : b < a
  · exact h
  · exact absurd (String.le_antisymm (String.not_lt.1 h) (String.not_lt.1 hlt)) hne

/-- Setting a key keeps the order. -/
theorem ordered_insert (key : String) (value : α) {entries : List (String × α)}
    (h : Ordered entries) : Ordered (insert key value entries) := by
  induction entries with
  | nil => exact List.pairwise_singleton _ _
  | cons head rest ih =>
    obtain ⟨hhead, hrest⟩ := List.pairwise_cons.1 h
    simp only [insert]
    split
    · next hlt =>
      refine List.pairwise_cons.2 ⟨fun entry hentry => ?_, h⟩
      rcases List.mem_cons.1 hentry with rfl | hmem
      · exact hlt
      · exact String.lt_trans hlt (hhead entry hmem)
    · split
      · next heq =>
        exact List.pairwise_cons.2 ⟨fun entry hmem => heq ▸ hhead entry hmem, hrest⟩
      · next hlt hne =>
        refine List.pairwise_cons.2 ⟨fun entry hentry => ?_, ih hrest⟩
        rcases mem_insert hentry with rfl | hmem
        · exact lt_of_not_lt_of_ne hlt hne
        · exact hhead entry hmem

/-! ## Looking up a key -/

theorem lookup?_of_not_mem {key : String} {entries : List (String × α)}
    (h : key ∉ entries.map (·.1)) : lookup? key entries = none := by
  induction entries with
  | nil => rfl
  | cons entry rest ih =>
    rw [List.map_cons, List.mem_cons, not_or] at h
    rw [lookup?, if_neg h.1, ih h.2]

theorem lookup?_of_mem {entry : String × α} {entries : List (String × α)}
    (hkeys : (entries.map (·.1)).Nodup) (h : entry ∈ entries) :
    lookup? entry.1 entries = some entry.2 := by
  induction entries with
  | nil => cases h
  | cons head rest ih =>
    rw [List.map_cons] at hkeys
    obtain ⟨hhead, hrest⟩ := List.nodup_cons.1 hkeys
    rw [lookup?]
    rcases List.mem_cons.1 h with rfl | hmem
    · rw [if_pos rfl]
    · have hne : entry.1 ≠ head.1 := fun heq => hhead (heq ▸ List.mem_map_of_mem hmem)
      rw [if_neg hne, ih hrest hmem]

/-- Pairs with different keys are found in the list that is made of them. -/
theorem lookup?_ofPairs {pairs : List (String × α)}
    (hkeys : (pairs.map (·.1)).Nodup) (key : String) :
    lookup? key (ofPairs pairs) = lookup? key pairs := by
  have hfold : ∀ entries, lookup? key
      (pairs.foldl (fun entries pair => insert pair.1 pair.2 entries) entries) =
        (lookup? key pairs).or (lookup? key entries) := by
    induction pairs with
    | nil => exact fun _ => rfl
    | cons pair rest ih =>
      rw [List.map_cons] at hkeys
      obtain ⟨hpair, hrest⟩ := List.nodup_cons.1 hkeys
      intro entries
      rw [List.foldl_cons, ih hrest, lookup?_insert, lookup?]
      by_cases hkey : key = pair.1
      · rw [if_pos hkey, if_pos hkey, lookup?_of_not_mem (hkey ▸ hpair)]
        rfl
      · rw [if_neg hkey, if_neg hkey]
  rw [ofPairs, hfold]
  exact Option.or_none

/-! ## Lists of pairs -/

theorem ordered_ofPairs (pairs : List (String × α)) : Ordered (ofPairs pairs) :=
  List.foldlRecOn pairs _ List.Pairwise.nil fun _ h pair _ => ordered_insert pair.1 pair.2 h

/-- The list that is made of pairs holds no others. -/
theorem mem_ofPairs {pairs : List (String × α)} {entry : String × α} (h : entry ∈ ofPairs pairs) :
    entry ∈ pairs := by
  have hmem : ofPairs pairs ⊆ pairs := by
    refine List.foldlRecOn (motive := (· ⊆ pairs)) pairs _ (List.nil_subset _)
      fun entries ih pair hpair entry hentry => ?_
    rcases mem_insert hentry with rfl | hentry
    · exact hpair
    · exact ih hentry
  exact hmem h

theorem nodup_keys {entries : List (String × α)} (h : Ordered entries) :
    (entries.map (·.1)).Nodup :=
  List.pairwise_map.2 (h.imp String.ne_of_lt)

end ThreatGraph.Assoc
