import ThreatGraph.Proofs.Client.Execution
import ThreatGraph.Proofs.Text.Blank

/-!
# The wait that a header asks for

A header asks for a number of seconds by the digits of the number, with zeros in front of them or
not, a plus sign or none, and any blanks around it all.

* `AsksFor` relates a number to the texts that ask for it.  What counts is what stands between the
  blanks (`asksFor_iff`), so that a text asks for one number at most (`AsksFor.unique`).
* `readUnsigned?_trim_eq_some_iff` says that the number is read exactly if it is within the limit.
* `readRetryAfter_exact` draws the conclusion for headers.  With a header that asks for more than
  fits 64 bits, or for no number at all, the wait is the default, and never what is left of a longer
  one.
-/

set_option autoImplicit false

namespace ThreatGraph

/-- A text asks for a number of seconds. -/
inductive AsksFor (n : Nat) : String → Prop where
  | mk {before sign ending : String} (zeros : Nat) (hbefore : AllBlank before.toList)
    (hsign : sign = "" ∨ sign = "+") (hending : AllBlank ending.toList) :
    AsksFor n (before ++ sign ++ String.ofList (List.replicate zeros '0') ++ toString n ++ ending)

theorem IsUnsigned.mem {n : Nat} {cs : List Char} (h : IsUnsigned n cs) {c : Char} (hc : c ∈ cs) :
    isDigit c = true ∨ c = '+' := by
  obtain ⟨digits, hdigits, rfl | rfl⟩ := h
  · exact .inl (isDigit_of_digitsValue? hdigits c hc)
  · rcases List.mem_cons.1 hc with rfl | hc
    · exact .inr rfl
    · exact .inl (isDigit_of_digitsValue? hdigits c hc)

theorem IsUnsigned.isBlank_eq_false {n : Nat} {cs : List Char} (h : IsUnsigned n cs) :
    ∀ c ∈ cs, isBlank c = false := by
  intro c hc
  rcases h.mem hc with hdigit | rfl
  · exact isBlank_of_isDigit hdigit
  · decide

theorem toList_asking (before sign ending : String) (zeros n : Nat) :
    (before ++ sign ++ String.ofList (List.replicate zeros '0') ++ toString n ++ ending).toList =
      before.toList ++ (sign.toList ++ (List.replicate zeros '0' ++ Nat.toDigits 10 n)) ++
        ending.toList := by
  simp only [String.toList_append, String.toList_ofList, toString_eq_ofList, List.append_assoc]

/-- A text asks for the number that is left of it without the blanks around it. -/
theorem asksFor_iff {n : Nat} {text : String} :
    AsksFor n text ↔ IsUnsigned n (trim text.toList) := by
  constructor
  · rintro @⟨_, sign, _, zeros, hbefore, hsign, hending⟩
    have hdigits : digitsValue? (List.replicate zeros '0' ++ Nat.toDigits 10 n) = some n :=
      digitsValue?_eq_some_iff.2 ⟨zeros, rfl⟩
    have hcore : IsUnsigned n (sign.toList ++ (List.replicate zeros '0' ++ Nat.toDigits 10 n)) := by
      rcases hsign with rfl | rfl
      · exact ⟨_, hdigits, .inl rfl⟩
      · exact ⟨_, hdigits, .inr rfl⟩
    rw [toList_asking, trim_append hbefore hcore.isBlank_eq_false hending]
    exact hcore
  · rintro ⟨digits, hdigits, htrim⟩
    obtain ⟨zeros, rfl⟩ := digitsValue?_eq_some_iff.1 hdigits
    obtain ⟨before, ending, hbefore, hending, htext⟩ := exists_eq_append_trim text.toList
    obtain ⟨sign, hsign, hcore⟩ : ∃ sign : String, (sign = "" ∨ sign = "+") ∧
        trim text.toList = sign.toList ++ (List.replicate zeros '0' ++ Nat.toDigits 10 n) := by
      rcases htrim with htrim | htrim
      · exact ⟨"", .inl rfl, htrim⟩
      · exact ⟨"+", .inr rfl, htrim⟩
    have hwhole : text = String.ofList before ++ sign ++ String.ofList (List.replicate zeros '0') ++
        toString n ++ String.ofList ending := by
      rw [← String.toList_inj, toList_asking, String.toList_ofList, String.toList_ofList, ← hcore]
      exact htext
    rw [hwhole]
    refine .mk zeros ?_ hsign ?_
    · rwa [String.toList_ofList]
    · rwa [String.toList_ofList]

/-- The number is read if it is within the limit. -/
theorem readUnsigned?_trim_eq_some_iff {limit n : Nat} {text : String} :
    readUnsigned? limit (trim text.toList) = some n ↔ AsksFor n text ∧ n ≤ limit := by
  rw [readUnsigned?_eq_some_iff, asksFor_iff]

/-- A text asks for one number at most. -/
theorem AsksFor.unique {m n : Nat} {text : String} (hm : AsksFor m text) (hn : AsksFor n text) :
    m = n := by
  have hreadm := readUnsigned?_trim_eq_some_iff.2 ⟨hm, Nat.le_max_left m n⟩
  have hreadn := readUnsigned?_trim_eq_some_iff.2 ⟨hn, Nat.le_max_right m n⟩
  exact Option.some.inj (hreadm.symm.trans hreadn)

/-- A text that asks for a number has a digit, and no characters but digits, plus signs and
blanks. -/
theorem AsksFor.mem {n : Nat} {text : String} (h : AsksFor n text) :
    (∃ c ∈ text.toList, isDigit c = true) ∧
      ∀ c ∈ text.toList, isDigit c = true ∨ c = '+' ∨ isBlank c = true := by
  have hcore := asksFor_iff.1 h
  obtain ⟨before, ending, hbefore, hending, htext⟩ := exists_eq_append_trim text.toList
  constructor
  · obtain ⟨digits, hdigits, htrim⟩ := hcore
    obtain ⟨c, tail, rfl, hc⟩ := eq_cons_of_digitsValue? hdigits
    have hmem : c ∈ trim text.toList := by
      rcases htrim with htrim | htrim <;> simp [htrim]
    exact ⟨c, htext ▸ List.mem_append_left _ (List.mem_append_right _ hmem), hc⟩
  · intro c hc
    rw [htext, List.mem_append, List.mem_append] at hc
    rcases hc with (hc | hc) | hc
    · exact .inr (.inr (hbefore c hc))
    · exact (hcore.mem hc).imp_right .inl
    · exact .inr (.inr (hending c hc))

theorem lt_pow_iff_le_maxUnsigned64 {n : Nat} : n < 2 ^ 64 ↔ n ≤ maxUnsigned64 := by
  rw [maxUnsigned64]
  omega

/-- The wait is the number that the header asks for, if this fits 64 bits. -/
theorem readRetryAfter_of_asksFor {n : Nat} {text : String} (h : AsksFor n text) :
    readRetryAfter (some text) = if n < 2 ^ 64 then n else defaultRetryAfter := by
  rw [readRetryAfter]
  split
  · next hfits =>
    rw [readUnsigned?_trim_eq_some_iff.2 ⟨h, lt_pow_iff_le_maxUnsigned64.1 hfits⟩]
    rfl
  · next hlarge =>
    cases hread : readUnsigned? maxUnsigned64 (trim text.toList) with
    | none => rfl
    | some m =>
      obtain ⟨hm, hle⟩ := readUnsigned?_trim_eq_some_iff.1 hread
      exact absurd (lt_pow_iff_le_maxUnsigned64.2 (h.unique hm ▸ hle)) hlarge

/-- A header that asks for no number gets the default. -/
theorem readRetryAfter_of_not_asksFor {text : String} (h : ∀ n, ¬ AsksFor n text) :
    readRetryAfter (some text) = defaultRetryAfter := by
  rw [readRetryAfter]
  cases hread : readUnsigned? maxUnsigned64 (trim text.toList) with
  | none => rfl
  | some n => exact absurd (readUnsigned?_trim_eq_some_iff.1 hread).1 (h n)

theorem readRetryAfter_lt (header : Option String) : readRetryAfter header < 2 ^ 64 := by
  cases header with
  | none => decide
  | some text =>
    by_cases h : ∃ n, AsksFor n text
    · obtain ⟨n, hn⟩ := h
      rw [readRetryAfter_of_asksFor hn]
      split
      · assumption
      · decide
    · rw [readRetryAfter_of_not_asksFor (not_exists.1 h)]
      decide

/-- A call waits only as long as the header of its answer asks for. -/
theorem seconds_of_backoff? {status : Nat} {header : Option String} {text : String}
    {failure : Failure} {policy : RetryPolicy} {retries seconds : Nat}
    (hfailure : interpret status header text = .error failure)
    (hwait : policy.backoff? retries failure = some seconds) : seconds = readRetryAfter header := by
  rw [RetryPolicy.backoff?_eq] at hwait
  split at hwait
  · cases failure with
    | rateLimit message code wait =>
      cases hwait
      exact seconds_of_interpret hfailure
    | _ => cases hwait
  · cases hwait

/-- **The wait is what the header asks for.**  A header that asks for a number of seconds gets it if
the number fits 64 bits, and otherwise the default of sixty.  So do a header that asks for no number
and one that is missing.  A text that asks for a number has a digit in it and no characters but
digits, plus signs and blanks.  The wait fits 64 bits in any case, and it is the one that a call
waits before it is tried again after an answer with the header. -/
theorem readRetryAfter_exact :
    (∀ n text, AsksFor n text →
      readRetryAfter (some text) = if n < 2 ^ 64 then n else 60) ∧
    (∀ text, (∀ n, ¬ AsksFor n text) → readRetryAfter (some text) = 60) ∧
    readRetryAfter none = 60 ∧
    (∀ n text, AsksFor n text → (∃ c ∈ text.toList, isDigit c = true) ∧
      ∀ c ∈ text.toList, isDigit c = true ∨ c = '+' ∨ isBlank c = true) ∧
    (∀ header, readRetryAfter header < 2 ^ 64) ∧
    (∀ (status : Nat) (header : Option String) (text : String) (failure : Failure)
      (policy : RetryPolicy) (retries seconds : Nat),
      interpret status header text = .error failure →
        policy.backoff? retries failure = some seconds → seconds = readRetryAfter header) :=
  ⟨fun _ _ => readRetryAfter_of_asksFor, fun _ => readRetryAfter_of_not_asksFor, rfl,
    fun _ _ h => h.mem, readRetryAfter_lt, fun _ _ _ _ _ _ _ => seconds_of_backoff?⟩

/-- An answer that reports a rate limit. -/
def limited : String := "\x7b\"error\":\x7b\"code\":4\x7d\x7d"

/-- The longest wait is read and the next number is not, nor is a number below zero.  A call waits
the seven seconds that its answer asks for. -/
theorem readRetryAfter_at_limit :
    (AsksFor (2 ^ 64 - 1) "\u00a0+0018446744073709551615\n" ∧
      readRetryAfter (some "\u00a0+0018446744073709551615\n") = 2 ^ 64 - 1) ∧
    (AsksFor (2 ^ 64) "18446744073709551616" ∧
      readRetryAfter (some "18446744073709551616") = 60) ∧
    ((∀ n, ¬ AsksFor n "-7") ∧ readRetryAfter (some "-7") = 60) ∧
    interpret 429 (some " 7 ") limited = .error (.rateLimit "Unknown error" (some 4) 7) ∧
    RetryPolicy.backoff? ⟨true, 1⟩ 0 (.rateLimit "Unknown error" (some 4) 7) = some 7 ∧
    7 = readRetryAfter (some " 7 ") := by
  obtain ⟨hasked, hother, -, hmem, -, hwait⟩ := readRetryAfter_exact
  have hlongest : AsksFor (2 ^ 64 - 1) "\u00a0+0018446744073709551615\n" :=
    asksFor_iff.2 ⟨"0018446744073709551615".toList, by decide +kernel, .inr (by decide +kernel)⟩
  have hlarger : AsksFor (2 ^ 64) "18446744073709551616" :=
    asksFor_iff.2 ⟨"18446744073709551616".toList, by decide +kernel, .inl (by decide +kernel)⟩
  have hnegative : ∀ n, ¬ AsksFor n "-7" := fun n h =>
    absurd ((hmem n _ h).2 '-' (by decide)) (by decide)
  have hanswer : interpret 429 (some " 7 ") limited =
      .error (.rateLimit "Unknown error" (some 4) 7) := rfl
  have hseconds : RetryPolicy.backoff? ⟨true, 1⟩ 0 (.rateLimit "Unknown error" (some 4) 7) =
      some 7 := rfl
  exact ⟨⟨hlongest, (hasked _ _ hlongest).trans (if_pos (by decide))⟩,
    ⟨hlarger, (hasked _ _ hlarger).trans (if_neg (by decide))⟩, ⟨hnegative, hother _ hnegative⟩,
    hanswer, hseconds, hwait _ _ _ _ _ _ _ hanswer hseconds⟩

end ThreatGraph
