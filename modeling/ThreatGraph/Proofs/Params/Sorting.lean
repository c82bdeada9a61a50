import ThreatGraph.Proofs.Params.Union

/-!
# Sorting pairs by key

Grouping pairs and sending them again sorts them: what comes out are the same pairs in the order of
their keys, and pairs of one key stay in their order (`Params.pairs_regroup`).

A sorting of pairs that keeps the order within each key is the only one (`Params.eq_of_sorted`), so
it is enough to know of both sides that they are sorted and what they hold for each key.
`Params.get?_regroup_eq_single_iff` and `Params.get?_regroup_eq_multi_iff` say in which form the
values of a key are kept until they are sent.
-/

set_option autoImplicit false

namespace ThreatGraph.Params

/-! ## The order of keys

The order compares the keys and not the values, so that a sort which is stable leaves the values of
a key in their order. -/

/-- Whether the key of a pair comes no later than that of another, by their bytes. -/
def keyLe (left right : String × String) : Bool :=
  decide (utf8Bytes left.1.toList ≤ utf8Bytes right.1.toList)

theorem keyLe_iff {left right : String × String} : keyLe left right = true ↔ left.1 ≤ right.1 := by
  rw [keyLe, decide_eq_true_iff, ← List.not_lt, utf8Bytes_lt_iff, String.not_lt]

theorem keyLe_trans (a b c : String × String) (hab : keyLe a b = true) (hbc : keyLe b c = true) :
    keyLe a c = true :=
  keyLe_iff.2 (String.le_trans (keyLe_iff.1 hab) (keyLe_iff.1 hbc))

theorem keyLe_total (a b : String × String) : (keyLe a b || keyLe b a) = true := by
  rw [Bool.or_eq_true, keyLe_iff, keyLe_iff]
  exact String.le_total a.1 b.1

/-- The pairs of one key. -/
def ofKey (key : String) (pairs : List (String × String)) : List (String × String) :=
  pairs.filter (·.1 = key)

/-- The pairs of a key are its values, with the key in front. -/
theorem ofKey_eq_map (key : String) (pairs : List (String × String)) :
    ofKey key pairs = (valuesIn key pairs).map (key, ·) := by
  rw [valuesIn, List.map_map, ofKey]
  conv => lhs; rw [← List.map_id (List.filter _ _)]
  refine List.map_congr_left fun pair hpair => ?_
  have hkey : pair.1 = key := by simpa using (List.mem_filter.1 hpair).2
  exact Prod.ext hkey rfl

theorem ofKey_cons (key : String) (pair : String × String) (pairs : List (String × String)) :
    ofKey key (pair :: pairs) = if pair.1 = key then pair :: ofKey key pairs else ofKey key pairs :=
  by simp [ofKey, List.filter_cons]

/-! ## Sorted pairs

Two sorted lists of pairs are compared from the front: their first keys are the same, as each of
them is the least of all keys, and the first values are the same, as they are those of one key. -/

/-- Sorting keeps the pairs of a key in their order. -/
theorem ofKey_mergeSort (key : String) (pairs : List (String × String)) :
    ofKey key (pairs.mergeSort keyLe) = ofKey key pairs := by
  have hequal : (ofKey key pairs).Pairwise fun a b => keyLe a b = true := by
    refine List.pairwise_filter.2 (List.pairwise_of_forall fun a b ha hb => ?_)
    simp only [decide_eq_true_eq] at ha hb
    exact keyLe_iff.2 (ha.trans hb.symm ▸ String.le_refl _)
  have hsub : (ofKey key pairs).Sublist (pairs.mergeSort keyLe) :=
    List.sublist_mergeSort keyLe_trans keyLe_total hequal List.filter_sublist
  have hkept : (ofKey key pairs).Sublist (ofKey key (pairs.mergeSort keyLe)) := by
    have := hsub.filter fun pair => decide (pair.1 = key)
    simpa only [ofKey, List.filter_filter, Bool.and_self] using this
  refine (hkept.eq_of_length ?_).symm
  exact (((List.mergeSort_perm pairs keyLe).filter _).length_eq).symm

/-- **Sorted pairs.**  Pairs in the order of their keys are determined by the pairs of each key. -/
theorem eq_of_sorted {left right : List (String × String)}
    (hleft : left.Pairwise fun a b => keyLe a b = true)
    (hright : right.Pairwise fun a b => keyLe a b = true)
    (h : ∀ key, ofKey key left = ofKey key right) : left = right := by
  have hmem : ∀ {xs ys : List (String × String)}, (∀ key, ofKey key xs = ofKey key ys) →
      ∀ pair ∈ xs, pair ∈ ys := fun hsame pair hpair => by
    have : pair ∈ ofKey pair.1 _ := List.mem_filter.2 ⟨hpair, by simp⟩
    rw [hsame] at this
    exact (List.mem_filter.1 this).1
  induction left generalizing right with
  | nil =>
    refine (List.eq_nil_iff_forall_not_mem.2 fun pair hpair => ?_).symm
    exact List.not_mem_nil (hmem (fun key => (h key).symm) pair hpair)
  | cons a left ih =>
    cases right with
    | nil => exact absurd (hmem h a List.mem_cons_self) List.not_mem_nil
    | cons b right =>
      obtain ⟨hhead, htail⟩ := List.pairwise_cons.1 hleft
      obtain ⟨hhead', htail'⟩ := List.pairwise_cons.1 hright
      -- The first pairs have the same key: each is in the other list, whose first key is least.
      have hab : a.1 ≤ b.1 := by
        rcases List.mem_cons.1 (hmem (fun key => (h key).symm) b List.mem_cons_self) with heq | hb
        · exact heq ▸ String.le_refl _
        · exact keyLe_iff.1 (hhead b hb)
      have hba : b.1 ≤ a.1 := by
        rcases List.mem_cons.1 (hmem h a List.mem_cons_self) with heq | ha
        · exact heq ▸ String.le_refl _
        · exact keyLe_iff.1 (hhead' a ha)
      have hkey : b.1 = a.1 := String.le_antisymm hba hab
      have hfirst := h a.1
      rw [ofKey_cons, ofKey_cons, if_pos rfl, if_pos hkey] at hfirst
      obtain ⟨rfl, hrest⟩ := List.cons.inj hfirst
      rw [ih htail htail' fun key => ?_]
      by_cases hcase : a.1 = key
      · exact hcase ▸ hrest
      · have := h key
        rwa [ofKey_cons, ofKey_cons, if_neg hcase, if_neg hcase] at this

/-! ## Grouping as sorting

Grouping is not done by sorting: each pair goes to the values of its key, and the keys are kept in
order.  What comes out is sorted and has the same pairs for each key, so it is the sorted list. -/

theorem sorted_pairs (p : Params) : p.pairs.Pairwise fun a b => keyLe a b = true :=
  p.inByteOrder_pairs.imp fun h => decide_eq_true h

theorem valuesIn_pairs_regroup (pairs : List (String × String)) (key : String) :
    valuesIn key (regroup pairs).pairs = valuesIn key pairs := by
  rw [valuesIn_pairs, values_of_get? (get?_regroup pairs key)]

/-- **Grouping sorts.**  The pairs of grouped parameters are the pairs they were made of, in the
order of their keys, and those of one key in their own order. -/
theorem pairs_regroup (pairs : List (String × String)) :
    (regroup pairs).pairs = pairs.mergeSort keyLe := by
  refine eq_of_sorted (sorted_pairs _) ?_ fun key => ?_
  · exact List.pairwise_mergeSort keyLe_trans keyLe_total pairs
  · rw [ofKey_mergeSort, ofKey_eq_map, ofKey_eq_map, valuesIn_pairs_regroup]

/-- A parameter is not set if its key does not occur. -/
theorem get?_regroup_eq_none_iff {pairs : List (String × String)} {key : String} :
    (regroup pairs).get? key = none ↔ ofKey key pairs = [] := by
  rw [get?_regroup, ofKey_eq_map]
  cases valuesIn key pairs <;> simp [ParamValue.ofValues?]

/-- A parameter has a single value if its key occurs once. -/
theorem get?_regroup_eq_single_iff {pairs : List (String × String)} {key value : String} :
    (regroup pairs).get? key = some (.single value) ↔ ofKey key pairs = [(key, value)] := by
  rw [get?_regroup, ofKey_eq_map]
  match valuesIn key pairs with
  | [] => simp [ParamValue.ofValues?]
  | [_] => simp [ParamValue.ofValues?, ParamValue.ofList]
  | _ :: _ :: _ => simp [ParamValue.ofValues?, ParamValue.ofList]

/-- A parameter has several values if its key occurs more than once. -/
theorem get?_regroup_eq_multi_iff {pairs : List (String × String)} {key : String}
    {values : List String} :
    (regroup pairs).get? key = some (.multi values) ↔
      2 ≤ values.length ∧ ofKey key pairs = values.map (key, ·) := by
  rw [get?_regroup, ofKey_eq_map, List.map_inj_right fun _ _ h => (Prod.mk.inj h).2]
  match valuesIn key pairs with
  | [] =>
    simp only [ParamValue.ofValues?, reduceCtorEq, false_iff, not_and]
    rintro hlength rfl
    exact absurd hlength (by decide)
  | [_] =>
    simp only [ParamValue.ofValues?, ParamValue.ofList, Option.some.injEq, reduceCtorEq, false_iff,
      not_and]
    rintro hlength rfl
    exact absurd hlength (by simp)
  | first :: second :: rest =>
    simp only [ParamValue.ofValues?, ParamValue.ofList, Option.some.injEq, ParamValue.multi.injEq,
      iff_and_self]
    rintro rfl
    simp

end ThreatGraph.Params
