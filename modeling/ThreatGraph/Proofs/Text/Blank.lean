import Mathlib.Data.List.TakeWhile
import Mathlib.Tactic.ByContra
import ThreatGraph.Proofs.Text.Numeral
import ThreatGraph.Text.Blank

/-!
# Blanks around a text

Trimming removes the blanks at both ends of a text and nothing else: it leaves what stands between
blanks (`trim_append`), and what it removes are blanks (`exists_eq_append_trim`).
-/

set_option autoImplicit false

namespace ThreatGraph

/-- All characters are blanks. -/
def AllBlank (cs : List Char) : Prop := ∀ c ∈ cs, isBlank c = true

/-- A digit is no blank. -/
theorem isBlank_of_isDigit {c : Char} (h : isDigit c = true) : isBlank c = false := by
  have hrange : '0' ≤ c ∧ c ≤ '9' := by
    rw [isDigit, digitValue?] at h
    by_contra hnot
    rw [if_neg hnot] at h
    cases h
  obtain ⟨hfirst, hlast⟩ := hrange
  have hfirst' : 48 ≤ c.toNat := hfirst
  have hlast' : c.toNat ≤ 57 := hlast
  simp only [isBlank, blankRanges, List.any_cons, List.any_nil, Bool.or_false, Bool.or_eq_false_iff,
    Bool.and_eq_false_iff, decide_eq_false_iff_not]
  omega

theorem dropEndWhile_append {p : Char → Bool} {cs ending : List Char} (hcs : ∀ c ∈ cs, p c = false)
    (hending : ∀ c ∈ ending, p c = true) : dropEndWhile p (cs ++ ending) = cs := by
  have hkept : cs.reverse.dropWhile p = cs.reverse :=
    List.dropWhile_eq_self_iff.2 fun hl => by
      rw [hcs _ (List.mem_reverse.1 (List.getElem_mem hl))]
      exact Bool.false_ne_true
  rw [dropEndWhile, List.reverse_append,
    List.dropWhile_append_of_pos fun c hc => hending c (List.mem_reverse.1 hc), hkept,
    List.reverse_reverse]

/-- What stands between blanks is left. -/
theorem trim_append {before core ending : List Char} (hbefore : AllBlank before)
    (hcore : ∀ c ∈ core, isBlank c = false) (hending : AllBlank ending) :
    trim (before ++ core ++ ending) = core := by
  rw [trim, trimStart, List.append_assoc, List.dropWhile_append_of_pos hbefore]
  cases core with
  | nil =>
    rw [List.nil_append, List.dropWhile_eq_nil_iff.2 hending]
    rfl
  | cons c core =>
    rw [List.cons_append, List.dropWhile_cons_of_neg (by simp [hcore c List.mem_cons_self]),
      ← List.cons_append]
    exact dropEndWhile_append hcore hending

/-- What is removed is blank. -/
theorem exists_eq_append_trim (cs : List Char) :
    ∃ before ending, AllBlank before ∧ AllBlank ending ∧ cs = before ++ trim cs ++ ending := by
  refine ⟨cs.takeWhile isBlank, ((trimStart cs).reverse.takeWhile isBlank).reverse,
    fun c hc => List.all_eq_true.1 List.all_takeWhile c hc,
    fun c hc => List.all_eq_true.1 List.all_takeWhile c (List.mem_reverse.1 hc), ?_⟩
  rw [trim, dropEndWhile, List.append_assoc, ← List.reverse_append, List.takeWhile_append_dropWhile,
    List.reverse_reverse, trimStart, List.takeWhile_append_dropWhile]

end ThreatGraph
