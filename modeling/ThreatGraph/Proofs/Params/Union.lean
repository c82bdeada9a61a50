import ThreatGraph.Proofs.Params.Grouping
import ThreatGraph.Proofs.Text.ByteOrder

/-!
# The union of parameters, and the order of pairs

In the union of two sets of parameters the second wins: a parameter of the second has its value,
and what the first has for it is gone (`Params.get?_merge`, `Params.values_merge`).  So it does not
matter how unions are grouped (`Params.merge_assoc`), and the order of two sets matters only where
they disagree (`Params.merge_comm_iff`).

The pairs of parameters come in the order of their keys, which is that of the bytes of the keys
(`Params.inByteOrder_pairs`).
-/

set_option autoImplicit false

namespace ThreatGraph.Params

/-! ## Union

All laws of the union come from the look-ups, since parameters with the same look-ups are the same.
The union is that of the client: the token, the parameters of the caller and those for a body are
put together by it, and which of them wins is a matter of which comes second. -/

/-- **The union.**  The second wins. -/
theorem get?_merge (p q : Params) (key : String) :
    (p.merge q).get? key = (q.get? key).or (p.get? key) := by
  obtain ⟨entries, hordered⟩ := q
  rw [merge]
  change _ = (Assoc.lookup? key entries).or (p.get? key)
  dsimp only
  induction entries generalizing p with
  | nil => rfl
  | cons head rest ih =>
    obtain ⟨hhead, hrest⟩ := List.pairwise_cons.1 hordered
    rw [List.foldl_cons, ih _ hrest, get?_insert, Assoc.lookup?]
    by_cases hkey : key = head.1
    · -- The key of the first entry is that of no other.
      rw [if_pos hkey, if_pos hkey, Assoc.lookup?_of_forall_lt (hkey ▸ hhead)]
      rfl
    · rw [if_neg hkey, if_neg hkey]

/-- It does not matter how unions are grouped. -/
theorem merge_assoc (p q r : Params) : (p.merge q).merge r = p.merge (q.merge r) :=
  eq_of_get? fun key => by simp only [get?_merge, Option.or_assoc]

/-- Nothing is changed by what is there already. -/
theorem merge_self (p : Params) : p.merge p = p :=
  eq_of_get? fun key => by rw [get?_merge, Option.or_self]

theorem merge_empty (p : Params) : p.merge empty = p := rfl

/-- A union with no parameters in front is what comes behind. -/
theorem empty_merge (p : Params) : empty.merge p = p :=
  eq_of_get? fun key => by
    rw [get?_merge]
    exact Option.or_none

/-- Where two sets of parameters both set a key, they give it the same value. -/
def AgreesWith (p q : Params) : Prop :=
  ∀ key, p.contains key = true → q.contains key = true → p.get? key = q.get? key

/-- The order of a union matters only where both sides set a key, to different values. -/
theorem merge_comm_iff {p q : Params} : p.merge q = q.merge p ↔ p.AgreesWith q := by
  constructor
  · intro h key hp hq
    obtain ⟨a, ha⟩ := Option.isSome_iff_exists.1 hp
    obtain ⟨b, hb⟩ := Option.isSome_iff_exists.1 hq
    have hkey := congrArg (get? key) h
    rw [get?_merge, get?_merge, ha, hb] at hkey
    rw [ha, hb]
    exact hkey.symm
  · intro h
    refine eq_of_get? fun key => ?_
    rw [get?_merge, get?_merge]
    cases hp : p.get? key with
    | none => exact Option.or_none
    | some a =>
      cases hq : q.get? key with
      | none => rfl
      | some b =>
        have hsame := h key (by rw [contains, hp, Option.isSome_some])
          (by rw [contains, hq, Option.isSome_some])
        rw [hp, hq] at hsame
        exact hsame.symm

/-- The values of a key in the union of two sets of parameters, the second of which wins. -/
def unionValues (key : String) (p q : Params) : List String :=
  if q.contains key then q.values key else p.values key

theorem values_merge (p q : Params) (key : String) :
    (p.merge q).values key = unionValues key p q := by
  rw [values, get?_merge, unionValues, contains, values, values]
  cases q.get? key <;> rfl

/-- A parameter that is set to a text has that value and no other. -/
theorem values_insertText (p : Params) (key value other : String) :
    (p.insertText key value).values other = if other = key then [value] else p.values other := by
  rw [values, insertText, get?_insert, values]
  split <;> rfl

/-- A parameter that is not set has no values. -/
theorem values_of_not_contains {p : Params} {key : String} (h : ¬ p.contains key = true) :
    p.values key = [] := by
  rw [contains, Option.not_isSome_iff_eq_none] at h
  rw [values, h]
  rfl

/-! ## Order

Keys are compared as texts, character by character.  In UTF-8 that is the order of their bytes, in
which it is stated here, as that is the order of what is sent. -/

/-- The keys of some pairs come in the order of their bytes. -/
def InByteOrder (pairs : List (String × String)) : Prop :=
  pairs.Pairwise fun left right => utf8Bytes left.1.toList ≤ utf8Bytes right.1.toList

/-- **The order of pairs.**  The pairs of parameters come in the order of their keys. -/
theorem inByteOrder_pairs (p : Params) : InByteOrder p.pairs := by
  refine List.pairwise_flatMap.2 ⟨fun entry _ => ?_, p.ordered.imp fun hlt => ?_⟩
  · refine List.pairwise_map.2 (List.pairwise_of_forall fun _ _ => ?_)
    exact List.le_refl _
  · intro left hleft right hright
    obtain ⟨_, _, rfl⟩ := List.mem_map.1 hleft
    obtain ⟨_, _, rfl⟩ := List.mem_map.1 hright
    exact List.le_of_lt ((utf8Bytes_lt_iff _ _).2 hlt)

end ThreatGraph.Params
