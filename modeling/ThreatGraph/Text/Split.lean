/-!
# Splitting and joining lists

Cutting a list at every occurrence of a separator, or at the first one only, and putting pieces
together again. `joinSep_splitOn` says that cutting at every separator loses nothing.
-/

set_option autoImplicit false

namespace ThreatGraph

variable {α : Type} [DecidableEq α]

/-- The pieces of a list between the occurrences of a separator: one more than there are
separators. -/
def splitOn (sep : α) : List α → List (List α)
  | [] => [[]]
  | x :: xs =>
    if x = sep then [] :: splitOn sep xs
    else match splitOn sep xs with
      | [] => [[x]]
      | piece :: pieces => (x :: piece) :: pieces

/-- The pieces of a list one after the other, with a separator between each two. -/
def joinSep (sep : α) : List (List α) → List α
  | [] => []
  | [piece] => piece
  | piece :: pieces => piece ++ sep :: joinSep sep pieces

/-- The part of a list before the first separator, and the part after it if there is one. -/
def splitFirst (sep : α) : List α → List α × Option (List α)
  | [] => ([], none)
  | x :: xs =>
    if x = sep then ([], some xs)
    else ((x :: (splitFirst sep xs).1), (splitFirst sep xs).2)

theorem splitOn_ne_nil (sep : α) (xs : List α) : splitOn sep xs ≠ [] := by
  cases xs with
  | nil => simp [splitOn]
  | cons x xs =>
    by_cases h : x = sep
    · simp [splitOn, h]
    · simp only [splitOn, h, if_false]
      split <;> simp

/-- The pieces of a list, joined, are the list again. -/
theorem joinSep_splitOn (sep : α) (xs : List α) : joinSep sep (splitOn sep xs) = xs := by
  induction xs with
  | nil => rfl
  | cons x xs ih =>
    rw [splitOn]
    cases hs : splitOn sep xs with
    | nil => exact absurd hs (splitOn_ne_nil sep xs)
    | cons piece pieces =>
      rw [hs] at ih
      split
      · next h => simp [joinSep, ih, h]
      · cases pieces with
        | nil => simpa [joinSep] using ih
        | cons => simpa [joinSep] using ih

/-- A list without the `c`s at its front. -/
def dropLeading (c : α) (xs : List α) : List α :=
  xs.dropWhile (· = c)

/-- A list without the `c`s at its end. -/
def dropTrailing (c : α) (xs : List α) : List α :=
  (xs.reverse.dropWhile (· = c)).reverse

/-- The rest of a list after a given beginning. -/
def afterStart? : List α → List α → Option (List α)
  | [], xs => some xs
  | _ :: _, [] => none
  | p :: ps, x :: xs => if p = x then afterStart? ps xs else none

/-- Whether a list occurs in another without a gap. -/
def occursIn (piece : List α) : List α → Bool
  | [] => piece.isEmpty
  | x :: xs => (afterStart? piece (x :: xs)).isSome || occursIn piece xs

end ThreatGraph
