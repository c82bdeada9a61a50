import ThreatGraph.Proofs.Instant.Grammar

/-!
# Which values are taken for instants

The values that are meant to stand for an instant are whole numbers of seconds, their numerals, and
dates and times with an offset, either in the form of RFC 3339 or with an offset without a colon
(`Instant.Documented`).  Some more are accepted (`Instant.Tolerated`): the same dates and times in a
looser spelling, and dates and times without any offset, which are taken for universal time.
Nothing else is (`Instant.accepted_values`).

A text may have the strict form and the loose form at once.  It then shows the same date, time and
offset in both (`Instant.StrictForm.unique`), and it has no loose form without an offset
(`Instant.StrictForm.not_loose`, `Instant.ZonedForm.not_loose`).
-/

set_option autoImplicit false

namespace ThreatGraph

/-! ## Numerals

A numeral is a sign, if any, and digits.  So no colon stands in it, and every time of day has
two. -/

theorem NumeralForm.colon_not_mem {z : Int} {cs : List Char} (h : NumeralForm z cs) : ':' ∉ cs := by
  have hdigits : ∀ {n digits}, digitsValue? digits = some n → ':' ∉ digits := fun h hmem =>
    absurd (isDigit_of_digitsValue? h ':' hmem) (by decide)
  cases h with
  | plain h => exact hdigits h
  | plus h => exact List.not_mem_cons_of_ne_of_not_mem (by decide) (hdigits h)
  | minus h => exact List.not_mem_cons_of_ne_of_not_mem (by decide) (hdigits h)

namespace Instant

/-! ## Texts that have more than one form

The loose form takes up all of the strict one but for a fraction, the letter of an offset and a mark
other than a capital T.  So a text may have both.  The loose reader then takes the same date and
time and stops where the fraction begins, and from there only one offset can be read.

That a text is no numeral is seen from the colons in it. -/

theorem ClockForm.colon_mem {partForm : Form Nat} {time : ClockTime} {text : List Char}
    (h : ClockForm partForm time text) : ':' ∈ text := by
  obtain ⟨-, -, -⟩ := h
  exact List.mem_append_right _ List.mem_cons_self

theorem LooseForm.colon_mem {shown : Date × ClockTime} {text : List Char}
    (h : LooseForm shown text) : ':' ∈ text := by
  obtain ⟨-, hclock⟩ := h
  exact List.mem_append_right _ (List.mem_cons_of_mem _ hclock.colon_mem)

theorem ZonedForm.colon_mem {shown : Date × ClockTime × Int} {text : List Char}
    (h : ZonedForm shown text) : ':' ∈ text := by
  obtain ⟨hloose, -⟩ := h
  exact List.mem_append_left _ hloose.colon_mem

theorem StrictForm.colon_mem {shown : Date × ClockTime × Int} {text : List Char}
    (h : StrictForm shown text) : ':' ∈ text := by
  obtain ⟨-, -, hclock, -, -⟩ := h
  exact List.mem_append_right _ (List.mem_cons_of_mem _
    (List.mem_append_left _ hclock.colon_mem))

/-- A number of two digits has the loose form. -/
theorem NumberForm.loosen {n : Nat} {text : List Char} (h : NumberForm 2 2 n text) :
    LooseTwoForm n text :=
  .of ⟨h.value, Nat.le_trans (by decide) h.least_le, h.le_most⟩

/-- A date of the strict form is one of the loose form. -/
theorem DateForm.loosen {d : Date} {text : List Char}
    (h : DateForm FullYearForm (NumberForm 2 2) d text) :
    DateForm LooseYearForm LooseTwoForm d text := by
  obtain ⟨hyear, hmonth, hday⟩ := h
  exact .mk (.of hyear.signed) hmonth.loosen hday.loosen

/-- A time of the strict form is one of the loose form. -/
theorem ClockForm.loosen {time : ClockTime} {text : List Char}
    (h : ClockForm (NumberForm 2 2) time text) : ClockForm LooseTwoForm time text := by
  obtain ⟨hhour, hminute, hsecond⟩ := h
  exact .mk hhour.loosen hminute.loosen hsecond.loosen

/-- If the loose reader takes anything of a text in the strict form, it stops at the fraction. -/
theorem StrictForm.readLoose {d : Date} {time : ClockTime} {offset : Int} {cs : List Char}
    (h : StrictForm (d, time, offset) cs) {shown : Date × ClockTime} {rest : List Char}
    (hloose : readLoose cs = some (shown, rest)) :
    ∃ fraction offsetText, NanosForm time.nanos fraction ∧ StrictOffsetForm offset offsetText ∧
      shown = (d, { time with nanos := 0 }) ∧ rest = fraction ++ offsetText := by
  cases h with
  | @mk _ time nanos _ mark dateText clockText fraction offsetText hdate hmark hclock hnanos
      hoffset =>
    have hends : EndsDigits (fraction ++ offsetText) := hnanos.ends hoffset.ends.1
    have hplain : ({ time with nanos := 0 } : ClockTime) = time := by
      cases hclock with
      | mk _ _ _ => rfl
    by_cases hT : mark = 'T'
    · subst hT
      have hread := agrees_readLoose.complete (.mk hdate.loosen hclock.loosen) hends
      rw [List.append_assoc, List.cons_append, hloose] at hread
      cases hread
      exact ⟨fraction, offsetText, hnanos, hoffset, by rw [hplain], rfl⟩
    · have hnone : readChar 'T' (mark :: (clockText ++ (fraction ++ offsetText))) = none :=
        if_neg hT
      rw [Instant.readLoose, agrees_readLooseDate.complete hdate.loosen (hmark.ends _),
        Option.bind_eq_bind, Option.bind_some] at hloose
      dsimp only at hloose
      rw [hnone] at hloose
      cases hloose

/-- One colon is some colons and blanks. -/
theorem OffsetForm.loosen {offset : Int} {text : List Char} (h : OffsetForm IsColon offset text) :
    OffsetForm IsGap offset text := by
  obtain ⟨hsign, hhours, hgap, hminutes, hle⟩ := h
  refine .mk hsign hhours (fun c hc => ?_) hminutes hle
  rw [hgap, List.mem_singleton] at hc
  rw [hc]
  rfl

/-- What follows the second in the strict form is a loose offset only if there is no fraction, and
then it is the same offset. -/
theorem StrictOffsetForm.loose_unique {nanos : Nat} {offset offset' : Int}
    {fraction offsetText : List Char} (hoffset : StrictOffsetForm offset offsetText)
    (hnanos : NanosForm nanos fraction)
    (hloose : LooseOffsetForm offset' (fraction ++ offsetText)) :
    nanos = 0 ∧ offset' = offset := by
  have hread := agrees_readLooseOffset.complete hloose endsDigits_nil
  rw [List.append_nil] at hread
  cases hnanos with
  | fraction _ _ _ => cases hread
  | none =>
    refine ⟨rfl, ?_⟩
    cases hoffset with
    | letter h => rcases h with rfl | rfl <;> cases hread
    | numeric h =>
      have hread' := agrees_readLooseOffset.complete (Blanked.of h.loosen) endsDigits_nil
      rw [List.append_nil, ← List.nil_append offsetText, hread] at hread'
      cases hread'
      rfl

/-- **A text in both forms** shows the same in both. -/
theorem StrictForm.unique {shown shown' : Date × ClockTime × Int} {cs : List Char}
    (h : StrictForm shown cs) (h' : ZonedForm shown' cs) : shown' = shown := by
  obtain ⟨d, ⟨hour, minute, second, nanos⟩, offset⟩ := shown
  obtain ⟨hloose, hoffset⟩ := h'
  have hread := agrees_readLoose.complete hloose (endsDigits_of_looseOffsetForm hoffset)
  obtain ⟨fraction, offsetText, hnanos, hstrict, hshown, rfl⟩ := h.readLoose hread
  obtain ⟨hzero, rfl⟩ := hstrict.loose_unique hnanos hoffset
  dsimp only at hzero hshown
  rw [hzero]
  cases hshown
  rfl

/-- An offset is at least a letter. -/
theorem StrictOffsetForm.ne_nil {offset : Int} {text : List Char}
    (h : StrictOffsetForm offset text) : text ≠ [] := by
  cases h with
  | letter _ => exact List.cons_ne_nil _ _
  | numeric h =>
    obtain ⟨-, -, -, -, -⟩ := h
    exact List.cons_ne_nil _ _

/-- A text in the strict form goes on after the second. -/
theorem StrictForm.not_loose {shown : Date × ClockTime × Int} {cs : List Char}
    (h : StrictForm shown cs) (shown' : Date × ClockTime) : ¬ LooseForm shown' cs := by
  intro hloose
  have hread := agrees_readLoose.complete hloose endsDigits_nil
  rw [List.append_nil] at hread
  obtain ⟨fraction, offsetText, -, hoffset, -, hnil⟩ := h.readLoose hread
  exact hoffset.ne_nil (List.append_eq_nil_iff.1 hnil.symm).2

/-- A text in the loose form shows one date and time. -/
theorem LooseForm.unique {shown shown' : Date × ClockTime} {cs : List Char}
    (h : LooseForm shown cs) (h' : LooseForm shown' cs) : shown' = shown := by
  have hread := agrees_readLoose.complete h endsDigits_nil
  rw [agrees_readLoose.complete h' endsDigits_nil] at hread
  exact (Prod.mk.inj (Option.some.inj hread)).1

/-- A text in the loose form with an offset goes on too. -/
theorem ZonedForm.not_loose {shown : Date × ClockTime × Int} {cs : List Char}
    (h : ZonedForm shown cs) (shown' : Date × ClockTime) : ¬ LooseForm shown' cs := by
  intro hloose
  have hread := agrees_readLoose.complete hloose endsDigits_nil
  rw [List.append_nil] at hread
  obtain ⟨hloose', hoffset⟩ := h
  rw [agrees_readLoose.complete hloose' (endsDigits_of_looseOffsetForm hoffset)] at hread
  obtain rfl : _ = [] := (Prod.mk.inj (Option.some.inj hread)).2
  have hread' := agrees_readLooseOffset.complete hoffset endsDigits_nil
  cases hread'

/-! ## Texts of instants

A text is tried as a numeral first, then in the strict form, then in the loose form with an offset
and last in the one without.  As a text that has two of these forms shows the same in both, the
order of the readers can be forgotten. -/

/-- A second in the range fits 64 bits. -/
theorem bounds_of_inRange {z : Int} (h : inRange z = true) :
    minSigned64 ≤ z ∧ z ≤ maxSigned64 := by
  have hleast : minSigned64 ≤ leastSeconds := by decide
  have hgreatest : greatestSeconds ≤ maxSigned64 := by decide
  rw [inRange, Bool.and_eq_true, decide_eq_true_eq, decide_eq_true_eq] at h
  exact ⟨Int.le_trans hleast h.1, Int.le_trans h.2 hgreatest⟩

/-- A number of seconds stands for the instant if that is in the range. -/
theorem ofUnix?_eq_some_iff {z : Int} {t : Instant} :
    ofUnix? z = some t ↔ inRange z = true ∧ t = ⟨z, 0⟩ := by
  rw [ofUnix?]
  split
  · next h => simp [h, eq_comm]
  · next h => simp [h]

/-- A text with a colon is no numeral. -/
theorem readSigned64?_of_colon {s : String} (h : ':' ∈ s.toList) : readSigned64? s = none :=
  Option.eq_none_iff_forall_ne_some.2 fun _ hread =>
    (readSigned?_eq_some_iff.1 hread).1.colon_not_mem h

/-- **What is read of a text**: the value of a numeral, or what a date and a time show in the strict
form, in the loose form with an offset, or in the loose form without one. -/
theorem parse?_eq_some_iff {s : String} {t : Instant} : parse? s = some t ↔
    (∃ z, NumeralForm z s.toList ∧ inRange z = true ∧ t = ⟨z, 0⟩) ∨
    (∃ shown, StrictForm shown s.toList ∧ Shows shown t) ∨
    (∃ shown, ZonedForm shown s.toList ∧ Shows shown t) ∨
    (∃ d time, LooseForm (d, time) s.toList ∧ ofLocal? d time 0 = some t) := by
  have horElse : ∀ {a b c : Option Instant}, (a <|> b <|> c) = some t ↔
      a = some t ∨ a = none ∧ (b = some t ∨ b = none ∧ c = some t) := by
    intro a b c
    cases a <;> cases b <;> simp
  constructor
  · intro h
    rw [parse?] at h
    split at h
    · next z hz =>
      obtain ⟨hrange, ht⟩ := ofUnix?_eq_some_iff.1 h
      exact .inl ⟨z, (readSigned?_eq_some_iff.1 hz).1, hrange, ht⟩
    · rcases horElse.1 h with h | ⟨-, h | ⟨-, h⟩⟩
      · exact .inr (.inl (readStrict?_eq_some_iff.1 h))
      · exact .inr (.inr (.inl (readOffset?_eq_some_iff.1 h)))
      · exact .inr (.inr (.inr (readPlain?_eq_some_iff.1 h)))
  · rintro (⟨z, hz, hrange, rfl⟩ | ⟨shown, hform, hshows⟩ | ⟨shown, hform, hshows⟩ |
      ⟨d, time, hform, hlocal⟩)
    · have hread : readSigned64? s = some z :=
        readSigned?_eq_some_iff.2 ⟨hz, bounds_of_inRange hrange⟩
      rw [parse?, hread]
      exact ofUnix?_eq_some_iff.2 ⟨hrange, rfl⟩
    · rw [parse?, readSigned64?_of_colon hform.colon_mem]
      exact horElse.2 (.inl (readStrict?_eq_some_iff.2 ⟨shown, hform, hshows⟩))
    · rw [parse?, readSigned64?_of_colon hform.colon_mem]
      cases hstrict : readStrict? s.toList with
      | none =>
        exact horElse.2 (.inr ⟨rfl, .inl (readOffset?_eq_some_iff.2 ⟨shown, hform, hshows⟩)⟩)
      | some t' =>
        obtain ⟨shown', hform', hshows'⟩ := readStrict?_eq_some_iff.1 hstrict
        rw [hform'.unique hform] at hshows
        exact horElse.2 (.inl (hshows'.2.symm.trans hshows.2))
    · rw [parse?, readSigned64?_of_colon hform.colon_mem]
      have hstrict : readStrict? s.toList = none := by
        refine Option.eq_none_iff_forall_ne_some.2 fun _ h => ?_
        obtain ⟨shown, hform', -⟩ := readStrict?_eq_some_iff.1 h
        exact hform'.not_loose _ hform
      have hoffset : readOffset? s.toList = none := by
        refine Option.eq_none_iff_forall_ne_some.2 fun _ h => ?_
        obtain ⟨shown, hform', -⟩ := readOffset?_eq_some_iff.1 h
        exact hform'.not_loose _ hform
      exact horElse.2 (.inr ⟨hstrict, .inr ⟨hoffset,
        readPlain?_eq_some_iff.2 ⟨d, time, hform, hlocal⟩⟩⟩)

/-! ## Documented values

The signs of the offsets are where the form of RFC 3339 and the readers part: the readers also take
a minus sign that is not of ASCII.  A value of that kind, and any other that has the loose form
only, is listed among those that are tolerated. -/

/-- A date and a time in full width with an offset that has nothing between hours and minutes. -/
inductive GraphForm : Form (Date × ClockTime × Int) where
  | mk {d : Date} {time : ClockTime} {offset : Int} {dateText clockText offsetText : List Char}
    (hdate : DateForm FullYearForm (NumberForm 2 2) d dateText)
    (hclock : ClockForm (NumberForm 2 2) time clockText)
    (hoffset : OffsetForm (· = []) offset offsetText) :
    GraphForm (d, time, offset) (dateText ++ 'T' :: (clockText ++ offsetText))

/-- The values that are meant to stand for an instant.  The sign of an offset is one of ASCII. -/
inductive Documented : Json → Instant → Prop where
  /-- A number of seconds. -/
  | number {z : Int} (h : inRange z = true) : Documented (.int z) ⟨z, 0⟩
  /-- The numeral of a number of seconds. -/
  | numeral {s : String} {z : Int} (hs : NumeralForm z s.toList) (h : inRange z = true) :
    Documented (.string s) ⟨z, 0⟩
  /-- A date and a time in the form of RFC 3339. -/
  | strict {s : String} {shown : Date × ClockTime × Int} {t : Instant}
    (hs : StrictForm shown s.toList) (hsign : '−' ∉ s.toList) (h : Shows shown t) :
    Documented (.string s) t
  /-- A date and a time with an offset such as `+0000`. -/
  | graph {s : String} {shown : Date × ClockTime × Int} {t : Instant}
    (hs : GraphForm shown s.toList) (hsign : '−' ∉ s.toList) (h : Shows shown t) :
    Documented (.string s) t

/-- The values that are accepted too. -/
inductive Tolerated : Json → Instant → Prop where
  /-- A date and a time in the form of RFC 3339, but with a minus sign that is not of ASCII. -/
  | minus {s : String} {shown : Date × ClockTime × Int} {t : Instant}
    (hs : StrictForm shown s.toList) (hsign : '−' ∈ s.toList) (h : Shows shown t) :
    Tolerated (.string s) t
  /-- A date and a time with an offset in the loose form. -/
  | zoned {s : String} {shown : Date × ClockTime × Int} {t : Instant}
    (hs : ZonedForm shown s.toList) (h : Shows shown t) : Tolerated (.string s) t
  /-- A date and a time without an offset, in universal time. -/
  | plain {s : String} {d : Date} {time : ClockTime} {t : Instant}
    (hs : LooseForm (d, time) s.toList) (h : ofLocal? d time 0 = some t) : Tolerated (.string s) t

/-- A documented offset without a colon is a loose one. -/
theorem GraphForm.zoned {shown : Date × ClockTime × Int} {text : List Char}
    (h : GraphForm shown text) : ZonedForm shown text := by
  obtain ⟨hdate, hclock, hoffset⟩ := h
  rw [← List.cons_append, ← List.append_assoc]
  refine .mk (.mk hdate.loosen hclock.loosen) (.of ?_)
  obtain ⟨hsign, hhours, hgap, hminutes, hle⟩ := hoffset
  exact .mk hsign hhours (hgap ▸ List.forall_mem_nil _) hminutes hle

/-- A date and a time without an offset is none of the documented values. -/
theorem LooseForm.not_documented {s : String} {shown : Date × ClockTime}
    (h : LooseForm shown s.toList) (t : Instant) : ¬ Documented (.string s) t := by
  intro hdocumented
  cases hdocumented with
  | numeral hs _ => exact hs.colon_not_mem h.colon_mem
  | strict hs _ _ => exact hs.not_loose _ h
  | graph hs _ _ => exact hs.zoned.not_loose _ h

/-- Of the numbers those are taken that are whole and in the range. -/
theorem instantOf?_number_eq_some_iff {x : Number} {t : Instant} :
    Field.instantOf? (.number x) = some t ↔ Documented (.number x) t := by
  cases x with
  | float x => exact ⟨nofun, nofun⟩
  | integer z =>
    constructor
    · intro h
      obtain ⟨value, hvalue, h⟩ := Option.bind_eq_some_iff.1 h
      rw [Number.signed64?] at hvalue
      split at hvalue
      · cases hvalue
        obtain ⟨hrange, rfl⟩ := ofUnix?_eq_some_iff.1 h
        exact .number hrange
      · cases hvalue
    · intro h
      cases h with
      | number hrange =>
        rw [Field.instantOf?, Number.signed64?, if_pos (bounds_of_inRange hrange)]
        exact ofUnix?_eq_some_iff.2 ⟨hrange, rfl⟩

/-- Of the texts those are taken that are documented or tolerated. -/
theorem instantOf?_string_eq_some_iff {s : String} {t : Instant} :
    Field.instantOf? (.string s) = some t ↔
      Documented (.string s) t ∨ Tolerated (.string s) t := by
  rw [Field.instantOf?, parse?_eq_some_iff]
  constructor
  · rintro (⟨z, hz, hrange, rfl⟩ | ⟨shown, hs, h⟩ | ⟨shown, hs, h⟩ | ⟨d, time, hs, h⟩)
    · exact .inl (.numeral hz hrange)
    · by_cases hsign : '−' ∈ s.toList
      · exact .inr (.minus hs hsign h)
      · exact .inl (.strict hs hsign h)
    · exact .inr (.zoned hs h)
    · exact .inr (.plain hs h)
  · rintro (h | h)
    · cases h with
      | numeral hs hrange => exact .inl ⟨_, hs, hrange, rfl⟩
      | strict hs _ h => exact .inr (.inl ⟨_, hs, h⟩)
      | graph hs _ h => exact .inr (.inr (.inl ⟨_, hs.zoned, h⟩))
    · cases h with
      | minus hs _ h => exact .inr (.inl ⟨_, hs, h⟩)
      | zoned hs h => exact .inr (.inr (.inl ⟨_, hs, h⟩))
      | plain hs h => exact .inr (.inr (.inr ⟨_, _, hs, h⟩))

/-- A date and a time without an offset is taken for universal time. -/
theorem LooseForm.instantOf?_eq {s : String} {d : Date} {time : ClockTime}
    (h : LooseForm (d, time) s.toList) : Field.instantOf? (.string s) = ofLocal? d time 0 := by
  refine Option.ext fun t => instantOf?_string_eq_some_iff.trans ⟨?_, fun ht => .inr (.plain h ht)⟩
  rintro (hdocumented | htolerated)
  · exact absurd hdocumented (h.not_documented t)
  · cases htolerated with
    | minus hs _ _ => exact absurd h (hs.not_loose _)
    | zoned hs _ => exact absurd h (hs.not_loose _)
    | plain hs ht =>
      cases h.unique hs
      exact ht

/-- Values that are neither numbers nor texts are not taken. -/
theorem instantOf?_eq_some_iff {v : Json} {t : Instant} :
    Field.instantOf? v = some t ↔ Documented v t ∨ Tolerated v t := by
  cases v with
  | string s => exact instantOf?_string_eq_some_iff
  | number x =>
    have htolerated : ¬ Tolerated (.number x) t := nofun
    rw [instantOf?_number_eq_some_iff, or_iff_left htolerated]
  | _ => exact iff_of_false nofun (by rintro (h | h) <;> cases h)

/-- **What is accepted.**  A JSON value stands for an instant exactly if it is one of the documented
values or one of those that are tolerated, so that nothing else is accepted exactly if what is
tolerated of it is documented.  A date and a time without any offset never is: it is none of the
documented values, and is taken for universal time. -/
theorem accepted_values (v : Json) :
    (∀ t, Field.instantOf? v = some t ↔ Documented v t ∨ Tolerated v t) ∧
    ((∀ t, Field.instantOf? v = some t ↔ Documented v t) ↔
      ∀ t, Tolerated v t → Documented v t) ∧
    ∀ (s : String) (d : Date) (time : ClockTime), v = .string s → LooseForm (d, time) s.toList →
      (∀ t, ¬ Documented v t) ∧ Field.instantOf? v = ofLocal? d time 0 := by
  refine ⟨fun t => instantOf?_eq_some_iff, ?_, ?_⟩
  · exact forall_congr' fun t => by rw [instantOf?_eq_some_iff, or_iff_left_iff_imp]
  · rintro s d time rfl h
    exact ⟨h.not_documented, h.instantOf?_eq⟩

/-- Two digits of a year, blanks, and a minus sign that is not of ASCII are tolerated. -/
example : Field.instantOf? (.string "24-5-1T12:0:0 −01 : 30") = some ⟨-61399333800, 0⟩ := by
  decide +kernel

/-- Noon of a day without an offset is accepted, although it is none of the documented values. -/
theorem noon_without_offset :
    Field.instantOf? (.string "2024-05-01T12:00:00") = some ⟨1714564800, 0⟩ ∧
      ∀ t, ¬ Documented (.string "2024-05-01T12:00:00") t := by
  have hread : readPlain? "2024-05-01T12:00:00".toList = some ⟨1714564800, 0⟩ := by
    decide +kernel
  obtain ⟨d, time, hform, hlocal⟩ := readPlain?_eq_some_iff.1 hread
  exact ⟨hform.instantOf?_eq.trans hlocal, hform.not_documented⟩

end Instant

end ThreatGraph
