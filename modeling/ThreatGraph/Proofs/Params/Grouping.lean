import ThreatGraph.Params

/-!
# Grouping pairs by key

Grouping the pairs of a query gives each key all its values, in their order (`Params.get?_regroup`).
Parameters whose values are in the form that grouping gives are made again from the pairs that are
sent for them (`Params.regroup_pairs`).

Parameters are kept in the order of their keys, so they are determined by the values of these
(`Params.eq_of_get?`).  All that is said of them here is therefore said of the value of any one key.
-/

set_option autoImplicit false

namespace ThreatGraph

namespace Assoc

variable {α : Type}

/-- A key below those of some entries is not among them. -/
theorem lookup?_of_forall_lt {key : String} {entries : List (String × α)}
    (h : ∀ entry ∈ entries, key < entry.1) : lookup? key entries = none := by
  induction entries with
  | nil => rfl
  | cons head rest ih =>
    have hne : key ≠ head.1 := fun heq =>
      absurd (heq ▸ h head List.mem_cons_self) (String.lt_irrefl head.1)
    rw [lookup?, if_neg hne, ih fun entry hentry => h entry (List.mem_cons_of_mem _ hentry)]

/-- A key below the first one is not among the keys. -/
theorem lookup?_of_lt_head {key : String} {head : String × α} {rest : List (String × α)}
    (h : Ordered (head :: rest)) (hkey : key < head.1) : lookup? key (head :: rest) = none := by
  refine lookup?_of_forall_lt fun entry hentry => ?_
  rcases List.mem_cons.1 hentry with rfl | hmem
  · exact hkey
  · exact String.lt_trans hkey ((List.pairwise_cons.1 h).1 entry hmem)

/-- Entries in order are determined by the values of their keys. -/
theorem eq_of_lookup? {left right : List (String × α)} (hleft : Ordered left)
    (hright : Ordered right) (h : ∀ key, lookup? key left = lookup? key right) : left = right := by
  induction left generalizing right with
  | nil =>
    cases right with
    | nil => rfl
    | cons head rest => simpa [lookup?] using h head.1
  | cons head rest ih =>
    cases right with
    | nil => simpa [lookup?] using h head.1
    | cons head' rest' =>
      have hkey : head.1 = head'.1 := by
        by_cases hlt : head.1 < head'.1
        · have := h head.1
          rw [lookup?_of_lt_head hright hlt] at this
          simp [lookup?] at this
        · by_cases hlt' : head'.1 < head.1
          · have := h head'.1
            rw [lookup?_of_lt_head hleft hlt'] at this
            simp [lookup?] at this
          · exact String.le_antisymm (String.not_lt.1 hlt') (String.not_lt.1 hlt)
      have hvalue : head.2 = head'.2 := by
        simpa [lookup?, hkey] using h head.1
      obtain ⟨hhead, hrest⟩ := List.pairwise_cons.1 hleft
      obtain ⟨hhead', hrest'⟩ := List.pairwise_cons.1 hright
      rw [Prod.ext hkey hvalue, ih hrest hrest' fun key => ?_]
      by_cases hcase : key = head.1
      · rw [lookup?_of_forall_lt (hcase ▸ hhead), lookup?_of_forall_lt (hcase ▸ hkey ▸ hhead')]
      · simpa [lookup?, hcase, hkey ▸ hcase] using h key

end Assoc

namespace ParamValue

/-- The value that holds some values, if there are any. -/
def ofValues? : List String → Option ParamValue
  | [] => none
  | values => some (.ofList values)

@[simp] theorem toList_ofList (values : List String) : (ofList values).toList = values := by
  match values with
  | [] => rfl
  | [_] => rfl
  | _ :: _ :: _ => rfl

/-- With one more value there is at least one. -/
theorem ofValues?_concat (values : List String) (value : String) :
    ofValues? (values ++ [value]) = some (.ofList (values ++ [value])) := by
  cases values <;> rfl

end ParamValue

namespace Params

/-- Parameters are determined by the values of their keys. -/
theorem eq_of_get? {p q : Params} (h : ∀ key, p.get? key = q.get? key) : p = q := by
  obtain ⟨left, hleft⟩ := p
  obtain ⟨right, hright⟩ := q
  cases Assoc.eq_of_lookup? hleft hright h
  rfl

/-- The values of a parameter, of which there are none if it is not set. -/
def values (key : String) (p : Params) : List String := ((p.get? key).map ParamValue.toList).getD []

/-- The values of a key in some pairs. -/
def valuesIn (key : String) (pairs : List (String × String)) : List String :=
  (pairs.filter (·.1 = key)).map (·.2)

/-- Every parameter that is set has a value, and one with a single value holds it as such. -/
def Settled (p : Params) : Prop := ∀ key, p.get? key = ParamValue.ofValues? (p.values key)

/-- The values of a key are those that were grouped for it. -/
theorem values_of_get? {p : Params} {key : String} {values : List String}
    (h : p.get? key = ParamValue.ofValues? values) : p.values key = values := by
  rw [Params.values, h]
  cases values with
  | nil => rfl
  | cons value rest => exact ParamValue.toList_ofList _

/-- A pair adds its value to those of its key. -/
theorem get?_appendPair (p : Params) (pair : String × String) (key : String) :
    (p.appendPair pair).get? key =
      if key = pair.1 then some (.ofList (p.values pair.1 ++ [pair.2])) else p.get? key :=
  get?_insert _ _ _ _

/-- **What grouping gives.**  Each key has all its values, in the order of the pairs. -/
theorem get?_regroup (pairs : List (String × String)) (key : String) :
    (regroup pairs).get? key = ParamValue.ofValues? (valuesIn key pairs) := by
  suffices h : ∀ (p : Params) (before : List String), p.get? key = ParamValue.ofValues? before →
      (pairs.foldl appendPair p).get? key = ParamValue.ofValues? (before ++ valuesIn key pairs) from
    h empty [] rfl
  induction pairs with
  | nil =>
    intro p before h
    rw [List.foldl_nil, h]
    simp [valuesIn]
  | cons pair rest ih =>
    intro p before h
    rw [List.foldl_cons]
    by_cases hkey : key = pair.1
    · rw [ih (p.appendPair pair) (before ++ [pair.2])]
      · simp [valuesIn, hkey]
      · rw [get?_appendPair, if_pos hkey, ← hkey, values_of_get? h, ParamValue.ofValues?_concat]
    · rw [ih (p.appendPair pair) before]
      · simp [valuesIn, Ne.symm hkey]
      · rw [get?_appendPair, if_neg hkey, h]

/-- Grouping leaves no parameter without a value. -/
theorem settled_regroup (pairs : List (String × String)) : (regroup pairs).Settled := by
  intro key
  rw [values_of_get? (get?_regroup pairs key), get?_regroup]

/-- Parameters stay settled if one of them is set to a text. -/
theorem Settled.insertText {p : Params} (h : p.Settled) (key value : String) :
    (p.insertText key value).Settled := by
  intro other
  have hget : (p.insertText key value).get? other =
      ParamValue.ofValues? (if other = key then [value] else p.values other) := by
    rw [Params.insertText, get?_insert]
    split
    · rfl
    · exact h other
  rw [values_of_get? hget, hget]

/-- The values of a key come in the order of the pairs. -/
theorem valuesIn_append (key : String) (left right : List (String × String)) :
    valuesIn key (left ++ right) = valuesIn key left ++ valuesIn key right := by
  simp [valuesIn]

/-- The pairs of one parameter. -/
theorem valuesIn_map (key other : String) (values : List String) :
    valuesIn key (values.map (other, ·)) = if key = other then values else [] := by
  induction values with
  | nil => simp [valuesIn]
  | cons value rest ih =>
    rw [List.map_cons, ← List.singleton_append, valuesIn_append, ih]
    by_cases h : key = other
    · simp [valuesIn, h]
    · simp [valuesIn, h, Ne.symm h]

/-- The values of a key among the pairs of some parameters are its values. -/
theorem valuesIn_pairs (p : Params) (key : String) : valuesIn key p.pairs = p.values key := by
  obtain ⟨entries, hordered⟩ := p
  rw [Params.values, get?, pairs]
  induction entries with
  | nil => rfl
  | cons head rest ih =>
    obtain ⟨hhead, hrest⟩ := List.pairwise_cons.1 hordered
    have hrest' := ih hrest
    dsimp only at hrest' ⊢
    rw [List.flatMap_cons, valuesIn_append, valuesIn_map, hrest', Assoc.lookup?]
    by_cases hkey : key = head.1
    · rw [if_pos hkey, if_pos hkey, Assoc.lookup?_of_forall_lt (hkey ▸ hhead)]
      simp
    · rw [if_neg hkey, if_neg hkey, List.nil_append]

/-- **Grouping what is sent.**  Settled parameters are made again from their pairs. -/
theorem regroup_pairs {p : Params} (h : p.Settled) : regroup p.pairs = p :=
  eq_of_get? fun key => by rw [get?_regroup, valuesIn_pairs, ← h key]

end Params

end ThreatGraph
