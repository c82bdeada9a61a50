import ThreatGraph.Text.Split

/-!
# Pieces without the separator

Pieces that do not hold a separator can be told apart again after they were joined with it
(`splitOn_joinSep`), and cutting at every separator gives such pieces (`not_mem_of_mem_splitOn`).
Pieces that are each read as what they were written for are so all together (`mapM_map_of_forall`).

These are stated for lists of anything that can be compared.  Headers of a path, labels of a name,
groups of an address and the fields of a form are all cut in this way.
-/

set_option autoImplicit false

namespace ThreatGraph

variable {α : Type} [DecidableEq α] {sep : α}

/-! ## Every separator

Both inductions are on the list that is cut.  Its first element either is the separator, and then it
ends a piece that is empty, or it belongs to the first piece of the rest. -/

/-- Without a separator there is one piece. -/
theorem splitOn_of_not_mem {xs : List α} (h : sep ∉ xs) : splitOn sep xs = [xs] := by
  induction xs with
  | nil => rfl
  | cons x xs ih =>
    rw [List.mem_cons, not_or] at h
    rw [splitOn, if_neg (Ne.symm h.1), ih h.2]

/-- What stands in front of a separator is the first piece, if it holds none. -/
theorem splitOn_append {xs : List α} (h : sep ∉ xs) (ys : List α) :
    splitOn sep (xs ++ sep :: ys) = xs :: splitOn sep ys := by
  induction xs with
  | nil => simp [splitOn]
  | cons x xs ih =>
    rw [List.mem_cons, not_or] at h
    rw [List.cons_append, splitOn, if_neg (Ne.symm h.1), ih h.2]

/-- The pieces on both sides of a separator. -/
theorem splitOn_append_cons (xs ys : List α) :
    splitOn sep (xs ++ sep :: ys) = splitOn sep xs ++ splitOn sep ys := by
  induction xs with
  | nil => simp [splitOn]
  | cons x xs ih =>
    rw [List.cons_append, splitOn, splitOn, ih]
    split
    · rfl
    · cases hpieces : splitOn sep xs with
      | nil => exact absurd hpieces (splitOn_ne_nil sep xs)
      | cons piece pieces => rfl

/-- **Joined pieces, cut.**  Pieces without the separator are found again. -/
theorem splitOn_joinSep {pieces : List (List α)} (hne : pieces ≠ [])
    (h : ∀ piece ∈ pieces, sep ∉ piece) : splitOn sep (joinSep sep pieces) = pieces := by
  induction pieces with
  | nil => exact absurd rfl hne
  | cons piece pieces ih =>
    cases pieces with
    | nil => exact splitOn_of_not_mem (h piece List.mem_cons_self)
    | cons next rest =>
      rw [joinSep, splitOn_append (h piece List.mem_cons_self),
        ih (by simp) fun p hp => h p (List.mem_cons_of_mem _ hp)]
      simp

/-- No piece holds the separator, and each character of a piece is one of the text. -/
theorem not_mem_of_mem_splitOn {xs piece : List α} (h : piece ∈ splitOn sep xs) :
    sep ∉ piece ∧ piece ⊆ xs := by
  induction xs generalizing piece with
  | nil =>
    rw [splitOn, List.mem_singleton] at h
    simp [h]
  | cons x xs ih =>
    rw [splitOn] at h
    split at h
    · rcases List.mem_cons.1 h with rfl | h
      · simp
      · exact ⟨(ih h).1, List.subset_cons_of_subset _ (ih h).2⟩
    · next hx =>
      split at h
      · next hnil => exact absurd hnil (splitOn_ne_nil sep xs)
      · next first rest hpieces =>
        rw [hpieces] at ih
        rcases List.mem_cons.1 h with rfl | h
        · obtain ⟨hsep, hsub⟩ := ih List.mem_cons_self
          exact ⟨by simp [hsep, Ne.symm hx], List.cons_subset_cons x hsub⟩
        · obtain ⟨hsep, hsub⟩ := ih (List.mem_cons_of_mem _ h)
          exact ⟨hsep, List.subset_cons_of_subset _ hsub⟩

omit [DecidableEq α] in
/-- What is in joined pieces is a separator or in one of them. -/
theorem mem_joinSep {x : α} {pieces : List (List α)} (h : x ∈ joinSep sep pieces) :
    x = sep ∨ ∃ piece ∈ pieces, x ∈ piece := by
  induction pieces with
  | nil => simp [joinSep] at h
  | cons piece pieces ih =>
    cases pieces with
    | nil => exact .inr ⟨piece, List.mem_cons_self, h⟩
    | cons next rest =>
      rw [joinSep, List.mem_append, List.mem_cons] at h
      · rcases h with h | h | h
        · exact .inr ⟨piece, List.mem_cons_self, h⟩
        · exact .inl h
        · rcases ih h with hsep | ⟨p, hp, hx⟩
          · exact .inl hsep
          · exact .inr ⟨p, List.mem_cons_of_mem _ hp, hx⟩
      · simp

omit [DecidableEq α] in
theorem joinSep_cons (piece : List α) {pieces : List (List α)} (h : pieces ≠ []) :
    joinSep sep (piece :: pieces) = piece ++ sep :: joinSep sep pieces := by
  cases pieces with
  | nil => exact absurd rfl h
  | cons next rest => rfl

omit [DecidableEq α] in
/-- Joined pieces begin with the first of them. -/
theorem joinSep_eq_append (sep : α) (piece : List α) (pieces : List (List α)) :
    ∃ tail, joinSep sep (piece :: pieces) = piece ++ tail := by
  by_cases h : pieces = []
  · subst h
    exact ⟨[], (List.append_nil piece).symm⟩
  · exact ⟨_, joinSep_cons piece h⟩

omit [DecidableEq α] in
/-- There is a separator between any two pieces. -/
theorem length_le_joinSep (sep : α) (pieces : List (List α)) :
    pieces.length ≤ (joinSep sep pieces).length + 1 := by
  induction pieces with
  | nil => exact Nat.zero_le _
  | cons piece pieces ih =>
    by_cases h : pieces = []
    · subst h
      exact Nat.le_add_left _ _
    · rw [joinSep_cons _ h, List.length_append, List.length_cons, List.length_cons]
      omega

omit [DecidableEq α] in
/-- Pieces joined in two parts are joined with one more separator between these. -/
theorem joinSep_append {pieces pieces' : List (List α)} (h : pieces ≠ []) (h' : pieces' ≠ []) :
    joinSep sep (pieces ++ pieces') = joinSep sep pieces ++ sep :: joinSep sep pieces' := by
  induction pieces with
  | nil => exact absurd rfl h
  | cons piece pieces ih =>
    by_cases hrest : pieces = []
    · subst hrest
      exact joinSep_cons piece h'
    · rw [List.cons_append, joinSep_cons piece (by simp [hrest]), joinSep_cons piece hrest,
        ih hrest, List.append_assoc, List.cons_append]

omit [DecidableEq α] in
/-- Texts joined with a separator between them. -/
theorem intercalate_eq_joinSep (pieces : List (List α)) :
    [sep].intercalate pieces = joinSep sep pieces := by
  induction pieces with
  | nil => rfl
  | cons piece pieces ih =>
    cases pieces with
    | nil => simp [joinSep]
    | cons next rest =>
      rw [List.intercalate_cons_cons, ih, List.append_assoc]
      rfl

/-! ## The first separator

Here only the first separator counts, and what stands after it may hold more of them.  A list is cut
so where a name ends, or where a query begins. -/

/-- Without a separator all of the list stands in front. -/
theorem splitFirst_of_not_mem {xs : List α} (h : sep ∉ xs) : splitFirst sep xs = (xs, none) := by
  induction xs with
  | nil => rfl
  | cons x xs ih =>
    rw [List.mem_cons, not_or] at h
    rw [splitFirst, if_neg (Ne.symm h.1), ih h.2]

/-- What stands in front of the first separator, and it with what stands after it, are the list. -/
theorem append_splitFirst (sep : α) (xs : List α) :
    (splitFirst sep xs).1 ++ (splitFirst sep xs).2.elim [] (sep :: ·) = xs := by
  induction xs with
  | nil => rfl
  | cons x xs ih =>
    rw [splitFirst]
    split
    · next h => exact congrArg (· :: xs) h.symm
    · exact congrArg (x :: ·) ih

/-- What stands in front of the first separator is without it. -/
theorem not_mem_splitFirst (sep : α) (xs : List α) : sep ∉ (splitFirst sep xs).1 := by
  induction xs with
  | nil => exact List.not_mem_nil
  | cons x xs ih =>
    rw [splitFirst]
    split
    · exact List.not_mem_nil
    · next h => exact List.not_mem_cons_of_ne_of_not_mem (Ne.symm h) ih

/-- Cutting adds nothing in front of the separator. -/
theorem splitFirst_subset (sep : α) (xs : List α) : (splitFirst sep xs).1 ⊆ xs := by
  induction xs with
  | nil => exact List.Subset.refl _
  | cons x xs ih =>
    rw [splitFirst]
    split
    · exact List.nil_subset _
    · exact List.cons_subset_cons x ih

/-- Cutting adds nothing after the separator. -/
theorem subset_of_splitFirst {xs rest : List α} (h : (splitFirst sep xs).2 = some rest) :
    rest ⊆ xs := by
  induction xs with
  | nil => cases h
  | cons x xs ih =>
    rw [splitFirst] at h
    split at h
    · cases h
      exact List.subset_cons_self x _
    · exact List.subset_cons_of_subset x (ih h)

/-- A list is cut at a separator if there is none before it. -/
theorem splitFirst_append {xs : List α} (h : sep ∉ xs) (ys : List α) :
    splitFirst sep (xs ++ sep :: ys) = (xs, some ys) := by
  induction xs with
  | nil => simp [splitFirst]
  | cons x xs ih =>
    rw [List.mem_cons, not_or] at h
    rw [List.cons_append, splitFirst, if_neg (Ne.symm h.1), ih h.2]

theorem afterStart?_append (start rest : List α) :
    afterStart? start (start ++ rest) = some rest := by
  induction start with
  | nil => rfl
  | cons x start ih => rw [List.cons_append, afterStart?, if_pos rfl, ih]

/-! ## Pieces read one by one

All pieces are read if each of them is.  What is known of one piece is so carried to all of them,
and back. -/

omit [DecidableEq α] in
/-- What is read of some pieces is read of one of them. -/
theorem exists_of_mapM {β : Type} {read? : α → Option β} {xs : List α} {ys : List β}
    (h : xs.mapM read? = some ys) : ∀ y ∈ ys, ∃ x ∈ xs, read? x = some y := by
  induction xs generalizing ys with
  | nil =>
    cases h
    simp
  | cons x xs ih =>
    rw [List.mapM_cons] at h
    obtain ⟨y, hy, h⟩ := Option.bind_eq_some_iff.1 h
    obtain ⟨ys', hys, h⟩ := Option.bind_eq_some_iff.1 h
    cases h
    intro z hz
    rcases List.mem_cons.1 hz with rfl | hz
    · exact ⟨x, List.mem_cons_self, hy⟩
    · obtain ⟨x', hx', hread⟩ := ih hys z hz
      exact ⟨x', List.mem_cons_of_mem _ hx', hread⟩

omit [DecidableEq α] in
/-- Pieces are read one by one as what they were written for. -/
theorem mapM_map_of_forall {β : Type} {read? : α → Option β} {write : β → α} {ys : List β}
    (h : ∀ y ∈ ys, read? (write y) = some y) : (ys.map write).mapM read? = some ys := by
  induction ys with
  | nil => rfl
  | cons y ys ih =>
    rw [List.map_cons, List.mapM_cons, h y List.mem_cons_self,
      ih fun z hz => h z (List.mem_cons_of_mem _ hz)]
    rfl

omit [DecidableEq α] in
/-- What is read of at least one piece is not empty. -/
theorem ne_nil_of_mapM {β : Type} {read? : α → Option β} {xs : List α} {ys : List β}
    (h : xs.mapM read? = some ys) (hne : xs ≠ []) : ys ≠ [] := by
  rintro rfl
  cases xs with
  | nil => exact hne rfl
  | cons x xs =>
    rw [List.mapM_cons] at h
    obtain ⟨_, _, h⟩ := Option.bind_eq_some_iff.1 h
    obtain ⟨_, _, h⟩ := Option.bind_eq_some_iff.1 h
    cases h

omit [DecidableEq α] in
/-- One piece that is not read spoils all. -/
theorem mapM_eq_none {β : Type} {read? : α → Option β} {xs : List α} {x : α} (hmem : x ∈ xs)
    (hx : read? x = none) : xs.mapM read? = none := by
  induction xs with
  | nil => cases hmem
  | cons y xs ih =>
    rw [List.mapM_cons]
    rcases List.mem_cons.1 hmem with rfl | hmem
    · rw [hx]
      rfl
    · rw [ih hmem]
      cases read? y <;> rfl

end ThreatGraph
