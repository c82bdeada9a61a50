import ThreatGraph.Assoc
import ThreatGraph.Proofs.Text.Utf8

/-!
# The order of texts and of their bytes

Texts are ordered by their characters, and a character by its code point.  The bytes of texts are in
the same order (`utf8Bytes_lt_iff`): a character that takes more bytes begins with a greater one,
and of two that take as many the bytes are the digits of the code point.
-/

set_option autoImplicit false

namespace ThreatGraph

/-- Of two numbers the last digits to the base 64 decide where the others are the same. -/
theorem lt_digits {m n : Nat} (h : m < n) :
    m / 64 < n / 64 ∨ m / 64 = n / 64 ∧ m % 64 < n % 64 := by
  omega

/-- The first characters decide where they differ. -/
theorem utf8EncodeChar_append_lt {c d : Char} (h : c < d) (xs ys : List UInt8) :
    String.utf8EncodeChar c ++ xs < String.utf8EncodeChar d ++ ys := by
  have hlt : c.toNat < d.toNat := h
  have hc := toNat_valid c
  have hd := toNat_valid d
  unfold String.utf8EncodeChar
  rw [show c.val.toNat = c.toNat from rfl, show d.val.toNat = d.toNat from rfl]
  dsimp only
  repeat' split
  all_goals
    simp (disch := omega) only [List.cons_append, List.nil_append, List.cons_lt_cons_iff,
      UInt8.lt_iff_toNat_lt, ← UInt8.toNat_inj, toNat_byte]
  any_goals omega
  -- Both take four bytes, and the first digits that differ decide.
  rw [show 262144 = 64 * 64 * 64 from rfl, show 4096 = 64 * 64 from rfl]
  simp only [← Nat.div_div_eq_div_mul]
  rcases lt_digits hlt with hlt | hlast
  · rcases lt_digits hlt with hlt | hlast <;> omega
  · omega

theorem utf8Bytes_lt {left right : List Char} (h : left < right) :
    utf8Bytes left < utf8Bytes right := by
  induction h with
  | @nil d right =>
    rw [utf8Bytes_cons]
    cases hd : String.utf8EncodeChar d with
    | nil => exact absurd hd String.utf8EncodeChar_ne_nil
    | cons b bytes => exact List.nil_lt_cons b _
  | @rel c left d right h => exact utf8EncodeChar_append_lt h _ _
  | cons _ ih => exact List.append_left_lt ih

/-- **The order of bytes.**  Texts are in the order of their bytes. -/
theorem utf8Bytes_lt_iff (left right : String) :
    utf8Bytes left.toList < utf8Bytes right.toList ↔ left < right := by
  refine ⟨fun h => Decidable.byContradiction fun hge => ?_, utf8Bytes_lt⟩
  by_cases heq : left = right
  · exact absurd (heq ▸ h) (List.lt_irrefl _)
  · have hback : right < left := Assoc.lt_of_not_lt_of_ne hge heq
    exact absurd (List.lt_trans h (utf8Bytes_lt hback)) (List.lt_irrefl _)

end ThreatGraph
