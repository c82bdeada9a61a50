import ThreatGraph.Proofs.Calendar.Succession
import ThreatGraph.Proofs.Instant.Rereading
import ThreatGraph.Proofs.Text.Blank
import ThreatGraph.Record.Field

/-!
# The forms of an instant

A second is written in five forms: as a number, as the numeral of the number, as a date and a time
in universal time with the letter `Z` or with the offset `+0000`, and as the date and the time that
a clock some minutes ahead shows, with its offset.

* `Instant.localText` writes the last form.  `Instant.readStrict?` reads it if there is a colon in
  the offset, and otherwise leaves it to `Instant.readOffset?` (`parse?_local`).
* `Instant.Denotes` relates a second to all JSON values that stand for it.
* `Instant.forms_read_alike` says that the second is read from each of them, and so no other second
  is.
-/

set_option autoImplicit false

namespace ThreatGraph.Instant

/-! ## Writing a local time

The forms are written here, apart from the reader.  They are put together from the same three parts:
a date, a time of day and an offset. -/

/-- A date: its year, its month and its day with hyphens between them. -/
def dateText (d : Date) : String :=
  yearText d.year ++ "-" ++ padded 2 d.month ++ "-" ++ padded 2 d.day

/-- A time of day: its hour, its minute and its second with colons between them. -/
def clockText (time : ClockTime) : String :=
  padded 2 time.hour ++ ":" ++ padded 2 time.minute ++ ":" ++ padded 2 time.second

/-- The date and the time of an instant in universal time, to the second. -/
def face (t : Instant) : String := dateText t.date ++ "T" ++ clockText t.clock

/-- The sign of an offset. -/
def signChar (minutes : Int) : Char := if minutes < 0 then '-' else '+'

/-- An offset of some minutes: its sign, its hours and its minutes, with a mark between the last
two. -/
def offsetText (mark : String) (minutes : Int) : String :=
  String.singleton (signChar minutes) ++ padded 2 (minutes.natAbs / 60) ++ mark
    ++ padded 2 (minutes.natAbs % 60)

/-- A second as a clock shows it that is some minutes ahead of universal time, with the offset. -/
def localText (mark : String) (minutes seconds : Int) : String :=
  face ⟨seconds + 60 * minutes, 0⟩ ++ offsetText mark minutes

theorem toList_dateText (d : Date) : (dateText d).toList =
    (yearText d.year).toList ++ '-' :: ((padded 2 d.month).toList ++
      '-' :: (padded 2 d.day).toList) := by
  simp [dateText]

theorem toList_clockText (time : ClockTime) : (clockText time).toList =
    (padded 2 time.hour).toList ++ ':' :: ((padded 2 time.minute).toList ++
      ':' :: (padded 2 time.second).toList) := by
  simp [clockText]

theorem toList_offsetText (mark : String) (minutes : Int) : (offsetText mark minutes).toList =
    signChar minutes :: ((padded 2 (minutes.natAbs / 60)).toList ++ (mark.toList ++
      (padded 2 (minutes.natAbs % 60)).toList)) := by
  simp [offsetText]

/-! ## Reading an offset

The reader takes an offset twice, with two rules for what stands between its hours and its minutes:
the strict form wants a colon, and the loose form takes nothing as well.  So the lemmas about
reading an offset leave this mark open. -/

section

variable {mark : String} {minutes : Int}

/-- The sign of an offset is read as itself. -/
theorem readSign_signChar (minutes : Int) (rest : List Char) :
    readSign (signChar minutes :: rest) = some (decide (minutes < 0), rest) := by
  rw [signChar]
  split
  · next h => rw [decide_eq_true h]; rfl
  · next h => rw [decide_eq_false h]; rfl

/-- The minutes of an offset from its sign, its hours and its minutes. -/
theorem signed_minutes (minutes : Int) :
    (if decide (minutes < 0) = true
      then -((minutes.natAbs / 60 : Nat) * 3600 + (minutes.natAbs % 60 : Nat) * 60 : Int)
      else (minutes.natAbs / 60 : Nat) * 3600 + (minutes.natAbs % 60 : Nat) * 60) =
        60 * minutes := by
  split
  · next h =>
    have hneg := of_decide_eq_true h
    omega
  · next h =>
    have hpos : ¬ minutes < 0 := fun hneg => h (decide_eq_true hneg)
    omega

/-- An offset is read if its mark is what the reader takes between hours and minutes. -/
theorem readHoursMinutes_offsetText {separator : Reader Unit}
    (hmark : ∀ n, separator (mark.toList ++ (padded 2 n).toList) = some ((), (padded 2 n).toList))
    (h : minutes.natAbs < 1440) :
    readHoursMinutes separator (offsetText mark minutes).toList = some (60 * minutes, []) := by
  have hhours := takes_readTwo (show minutes.natAbs / 60 < 100 by omega)
  have hminutes := takes_readTwo (show minutes.natAbs % 60 < 100 by omega) []
  rw [List.append_nil] at hminutes
  rw [readTwo, if_pos rfl] at hhours hminutes
  rw [readHoursMinutes, toList_offsetText]
  simp only [readSign_signChar, hhours _, hmark, hminutes, Option.bind_eq_bind, Option.bind_some]
  rw [if_neg (by omega), signed_minutes]
  rfl

/-- An offset with another mark is not read. -/
theorem readHoursMinutes_eq_none {separator : Reader Unit}
    (hmark : ∀ n, separator (mark.toList ++ (padded 2 n).toList) = none)
    (h : minutes.natAbs < 1440) :
    readHoursMinutes separator (offsetText mark minutes).toList = none := by
  have hhours := takes_readTwo (show minutes.natAbs / 60 < 100 by omega)
  rw [readTwo, if_pos rfl] at hhours
  rw [readHoursMinutes, toList_offsetText]
  simp only [readSign_signChar, hhours _, hmark, Option.bind_eq_bind, Option.bind_some,
    Option.bind_none]

/-- The strict form has a colon in its offset. -/
theorem readStrictOffset_colon (h : minutes.natAbs < 1440) :
    readStrictOffset (offsetText ":" minutes).toList = some (60 * minutes, []) := by
  have hread : readHoursMinutes (readChar ':') (offsetText ":" minutes).toList =
      some (60 * minutes, []) :=
    readHoursMinutes_offsetText (fun n => takes_readChar ':' _) h
  rw [toList_offsetText] at hread ⊢
  rw [← hread, signChar]
  split <;> rfl

/-- The strict form has no offset without a colon. -/
theorem readStrictOffset_bare (h : minutes.natAbs < 1440) :
    readStrictOffset (offsetText "" minutes).toList = none := by
  have hread : readHoursMinutes (readChar ':') (offsetText "" minutes).toList = none := by
    refine readHoursMinutes_eq_none (fun n => ?_) h
    obtain ⟨c, digits, htext, hc⟩ := padded_eq_cons 2 n
    rw [htext]
    exact if_neg (ne_of_isDigit hc (by decide))
  rw [toList_offsetText] at hread ⊢
  rw [← hread, signChar]
  split <;> rfl

/-- Blanks are skipped in front of a number, and a number has none. -/
theorem trimStart_padded (width n : Nat) (rest : List Char) :
    trimStart ((padded width n).toList ++ rest) = (padded width n).toList ++ rest := by
  obtain ⟨c, digits, htext, hc⟩ := padded_eq_cons width n
  rw [htext, List.cons_append, trimStart, List.dropWhile_cons, isBlank_of_isDigit hc]
  rfl

/-- The loose form takes an offset without a colon. -/
theorem readLooseOffset_bare (h : minutes.natAbs < 1440) :
    readLooseOffset (offsetText "" minutes).toList = some (60 * minutes, []) := by
  have htrim : trimStart (offsetText "" minutes).toList = (offsetText "" minutes).toList := by
    rw [toList_offsetText, signChar]
    split <;> rfl
  rw [readLooseOffset, htrim]
  refine readHoursMinutes_offsetText (fun n => ?_) h
  obtain ⟨c, digits, htext, hc⟩ := padded_eq_cons 2 n
  have hcolon : c ≠ ':' := ne_of_isDigit hc (by decide)
  rw [htext, String.toList_empty, List.nil_append, List.dropWhile_cons, isBlank_of_isDigit hc]
  simp [hcolon]

end

/-! ## Reading a local time

A text that is no number is tried in the strict form, and in the loose one only if that fails.  So a
text with a bare offset has to be shown not to be in the strict form, besides being in the loose
one. -/

section

variable {d : Date} {time : ClockTime} {minutes : Int}

/-- A number of full width is read in the loose form too. -/
theorem takes_readLooseTwo {n : Nat} (h : n < 100) :
    Takes readLooseTwo (padded 2 n).toList n := fun rest => by
  rw [readLooseTwo, trimStart_padded]
  exact readNumber_padded (by decide) (by decide) h rest

/-- A year without a sign is read in the loose form too. -/
theorem takes_readYear {year : Int} (h : 0 ≤ year ∧ year ≤ 9999) :
    Takes readYear (yearText year).toList year := by
  intro rest
  have hcast : Int.ofNat year.toNat = year := Int.toNat_of_nonneg h.1
  have hread : readNumber 1 4 ((padded 4 year.toNat).toList ++ rest) = some (year.toNat, rest) :=
    readNumber_padded (by decide) (by decide) (by omega) rest
  obtain ⟨c, digits, htext, hc⟩ := padded_eq_cons 4 year.toNat
  rw [yearText, if_pos h, readYear, trimStart_padded]
  rw [htext, List.cons_append] at hread ⊢
  split
  · next heq => exact absurd (List.cons.inj heq).1 (ne_of_isDigit hc (by decide))
  · next heq => exact absurd (List.cons.inj heq).1 (ne_of_isDigit hc (by decide))
  · rw [hread, Option.map_some, hcast]

/-- A date and a time in the loose form are read part by part. -/
theorem takes_readLoose {dateChars clockChars : List Char}
    (hdate : Takes (readDate readYear readLooseTwo) dateChars d)
    (htime : Takes (readClock readLooseTwo) clockChars time) :
    Takes readLoose (dateChars ++ 'T' :: clockChars) (d, time) := by
  intro rest
  have hmark := takes_readChar 'T'
  have htext : dateChars ++ 'T' :: clockChars ++ rest =
      dateChars ++ (['T'] ++ (clockChars ++ rest)) := by simp
  simp only [readLoose, htext, hdate _, hmark _, htime _, Option.bind_eq_bind, Option.bind_some]
  rfl

/-- A date is read by any reader that reads its three numbers. -/
theorem takes_dateText {readYear : Reader Int} {readPart : Reader Nat}
    (hyear : Takes readYear (yearText d.year).toList d.year)
    (hpart : ∀ n < 100, Takes readPart (padded 2 n).toList n) (h : d.isValid = true) :
    Takes (readDate readYear readPart) (dateText d).toList d := by
  obtain ⟨hmonth, hday⟩ := Date.bounds_of_isValid h
  rw [toList_dateText]
  exact takes_readDate hyear (hpart _ (by omega)) (hpart _ (by omega))

/-- A time of day is read by any reader that reads its three numbers.  It has to be a full second,
as a fraction would be written too. -/
theorem takes_clockText {readPart : Reader Nat}
    (hpart : ∀ n < 100, Takes readPart (padded 2 n).toList n) (h : time.isValid = true)
    (hnanos : time.nanos = 0) : Takes (readClock readPart) (clockText time).toList time := by
  obtain ⟨hour, minute, second, nanos⟩ := time
  simp only [ClockTime.isValid, Bool.and_eq_true, decide_eq_true_eq] at h
  obtain ⟨hhour, hminute, hsecond⟩ : hour < 100 ∧ minute < 100 ∧ second < 100 := by omega
  subst hnanos
  rw [toList_clockText]
  exact takes_readClock (hpart _ hhour) (hpart _ hminute) (hpart _ hsecond)

/-- **A local time, read.**  The instant at which a clock shows a date and a time is read from these
and the offset of the clock, with a colon in the offset or without. -/
theorem parse?_local {mark : String} {t : Instant} (hmark : mark = ":" ∨ mark = "")
    (hyear : 0 ≤ d.year ∧ d.year ≤ 9999) (hnanos : time.nanos = 0)
    (hminutes : minutes.natAbs < 1440) (h : ofLocal? d time (60 * minutes) = some t) :
    parse? (dateText d ++ "T" ++ clockText time ++ offsetText mark minutes) = some t := by
  obtain ⟨hd, htime, -⟩ := ofLocal?_eq_some_iff.1 h
  have htext : (dateText d ++ "T" ++ clockText time ++ offsetText mark minutes).toList =
      (dateText d).toList ++
        'T' :: ((clockText time).toList ++ (offsetText mark minutes).toList) := by
    simp
  -- A text with a hyphen after its first digits is no numeral, so it is not taken for a number of
  -- seconds.
  have hnumeral :
      readSigned64? (dateText d ++ "T" ++ clockText time ++ offsetText mark minutes) = none := by
    obtain ⟨c, digits, hyearText, hc⟩ := padded_eq_cons 4 d.year.toNat
    refine readSigned64?_of_hyphen
      (by rw [htext, toList_dateText, yearText, if_pos hyear, hyearText]; rfl) hc ?_
    simp
  have hle : (60 * minutes).natAbs ≤ greatestOffset.natAbs := by
    rw [greatestOffset]
    omega
  have hpoint : readNanos ([] ++ (offsetText mark minutes).toList) =
      some (0, (offsetText mark minutes).toList) := by
    rw [toList_offsetText, signChar]
    split <;> rfl
  have hstrict := readStrict?_eq_bind
    (takes_dateText (takes_yearText hyear) (fun _ => takes_readTwo) hd)
    (takes_clockText (fun _ => takes_readTwo) htime hnanos) hpoint
  rw [List.nil_append, ← htext] at hstrict
  rw [parse?, hnumeral]
  dsimp only
  -- With a colon the strict form reads all of it.  Without one it fails at the offset, and only
  -- there.
  rcases hmark with rfl | rfl
  · rw [readStrictOffset_colon hminutes, Option.bind_some, if_pos (by simp [hle]), ← hnanos,
      h] at hstrict
    rw [hstrict]
    rfl
  · rw [readStrictOffset_bare hminutes, Option.bind_none] at hstrict
    have hloose := takes_readLoose
      (takes_dateText (takes_readYear hyear) (fun _ => takes_readLooseTwo) hd)
      (takes_clockText (fun _ => takes_readLooseTwo) htime hnanos)
    have hoffset : readOffset? (dateText d ++ "T" ++ clockText time ++
        offsetText "" minutes).toList = some t := by
      rw [htext, ← List.cons_append, ← List.append_assoc, readOffset?]
      simp only [hloose _, readLooseOffset_bare hminutes, Option.bind_eq_bind, Option.bind_some]
      rw [if_pos (by simp [hle]), h]
    rw [hstrict, hoffset]
    rfl

end

/-! ## Seconds with a plain year

A year from 0 to 9999 is written with four digits and no sign.  Seconds of these years are far
within what 64 bits hold and what the calendar reaches, so that nothing can overflow on the way. -/

/-- The days of the years that are written without a sign. -/
theorem toDays_bounds {d : Date} (h : d.isValid = true) (hyear : 0 ≤ d.year ∧ d.year ≤ 9999) :
    -800000 ≤ d.toDays ∧ d.toDays ≤ 3000000 := by
  obtain ⟨hmonth, hday⟩ := Date.bounds_of_isValid h
  rw [Date.toDays, Date.epochOffset]
  split <;> omega

/-- A second with a plain year is in the range, and it fits 64 bits. -/
theorem bounds_of_hasPlainYear {seconds : Int} (h : HasPlainYear ⟨seconds, 0⟩) :
    inRange seconds = true ∧ minSigned64 ≤ seconds ∧ seconds ≤ maxSigned64 := by
  have hdays : _ ≤ (Date.ofDays (seconds / secondsPerDay)).toDays ∧ _ :=
    toDays_bounds (Date.isValid_ofDays _) h
  rw [Date.toDays_ofDays, secondsPerDay] at hdays
  have hleast : leastSeconds ≤ -800000 * 86400 := by decide
  have hgreatest : 3000001 * 86400 ≤ greatestSeconds := by decide
  rw [inRange, Bool.and_eq_true, decide_eq_true_eq, decide_eq_true_eq, minSigned64, maxSigned64]
  omega

/-- A second with a plain year is an instant, and no leap second. -/
theorem isPoint_of_hasPlainYear {seconds : Int} (h : HasPlainYear ⟨seconds, 0⟩) :
    IsPoint ⟨seconds, 0⟩ where
  range := (bounds_of_hasPlainYear h).1
  nanos_lt := Nat.zero_lt_succ _
  leap := fun hle => absurd hle (Nat.not_le.2 (by decide : 0 < nanosPerSecond))

/-- A clock some minutes ahead shows a second as the date and the time of a later one. -/
theorem ofLocal?_ahead {seconds minutes : Int} (h : HasPlainYear ⟨seconds, 0⟩)
    (hlocal : HasPlainYear ⟨seconds + 60 * minutes, 0⟩) :
    ofLocal? (date ⟨seconds + 60 * minutes, 0⟩) (clock ⟨seconds + 60 * minutes, 0⟩) (60 * minutes) =
      some ⟨seconds, 0⟩ := by
  have hpoint := isPoint_of_hasPlainYear hlocal
  have hzone := ofLocal?_date hpoint ⟨by
    have := hlocal.1
    rw [yearRange]
    omega, by
    have := hlocal.2
    rw [yearRange]
    omega⟩
  obtain ⟨hd, htime, hyear, -, hseconds, hnanos⟩ := ofLocal?_eq_some_iff.1 hzone
  refine ofLocal?_eq_some_iff.2 ⟨hd, htime, hyear, (bounds_of_hasPlainYear h).1, ?_, hnanos⟩
  dsimp only at hseconds ⊢
  omega

/-! ## The forms

The forms of a second are given by a relation, one constructor for each.  That they are read alike
then takes one case for each constructor, and that two seconds are told apart follows, as each of
their forms is read as the second itself. -/

/-- The JSON values that stand for a second. -/
inductive Denotes (seconds : Int) : Json → Prop where
  /-- The number itself. -/
  | number : Denotes seconds (.int seconds)
  /-- Its decimal digits. -/
  | numeral : Denotes seconds (.string (toString seconds))
  /-- The date and the time in universal time, with a letter. -/
  | universal : Denotes seconds (.string (face ⟨seconds, 0⟩ ++ "Z"))
  /-- The date and the time in universal time, with an offset. -/
  | graph : Denotes seconds (.string (face ⟨seconds, 0⟩ ++ "+0000"))
  /-- The date and the time of a clock that is less than a day ahead or behind, with its offset. -/
  | ahead {mark : String} {minutes : Int} (hmark : mark = ":" ∨ mark = "")
      (hminutes : -1440 < minutes ∧ minutes < 1440)
      (hyear : HasPlainYear ⟨seconds + 60 * minutes, 0⟩) :
      Denotes seconds (.string (localText mark minutes seconds))

/-- The text of a second, in the form of RFC 3339. -/
theorem text_eq_face (seconds : Int) : text ⟨seconds, 0⟩ = face ⟨seconds, 0⟩ ++ "Z" := by
  apply String.toList_inj.1
  rw [toList_text, face]
  have hfraction : fractionText (fraction ⟨seconds, 0⟩) = "" := rfl
  simp [hfraction, toList_dateText, toList_clockText]

/-- A second is read from the date and the time of a clock some minutes ahead or behind. -/
theorem parse?_localText {mark : String} {seconds minutes : Int} (h : HasPlainYear ⟨seconds, 0⟩)
    (hmark : mark = ":" ∨ mark = "") (hminutes : -1440 < minutes ∧ minutes < 1440)
    (hyear : HasPlainYear ⟨seconds + 60 * minutes, 0⟩) :
    parse? (localText mark minutes seconds) = some ⟨seconds, 0⟩ :=
  parse?_local hmark hyear rfl (by omega) (ofLocal?_ahead h hyear)

/-- Each form of a second is read as the second. -/
theorem Denotes.instantOf? {seconds : Int} {value : Json} (hdenotes : Denotes seconds value)
    (h : HasPlainYear ⟨seconds, 0⟩) : Field.instantOf? value = some ⟨seconds, 0⟩ := by
  obtain ⟨hrange, hfits⟩ := bounds_of_hasPlainYear h
  have hunix : ofUnix? seconds = some ⟨seconds, 0⟩ := if_pos hrange
  cases hdenotes with
  | number =>
    rw [Json.int, Field.instantOf?, Number.signed64?, if_pos hfits, Option.bind_some, hunix]
  | numeral =>
    rw [Field.instantOf?, parse?, readSigned64?_toString hfits]
    exact hunix
  | universal =>
    rw [Field.instantOf?, ← text_eq_face, parse?_text (isPoint_of_hasPlainYear h) h]
  | graph =>
    have hlocal : HasPlainYear ⟨seconds + 60 * 0, 0⟩ := by rwa [Int.mul_zero, Int.add_zero]
    have hread := parse?_localText h (.inr rfl) (by decide) hlocal
    have htext : localText "" 0 seconds = face ⟨seconds, 0⟩ ++ "+0000" := by
      rw [localText, Int.mul_zero, Int.add_zero, show offsetText "" 0 = "+0000" by decide]
    rw [Field.instantOf?, ← htext, hread]
  | ahead hmark hminutes hyear =>
    rw [Field.instantOf?, parse?_localText h hmark hminutes hyear]

/-- The dates in the forms are those of the calendar, which goes on by one each day. -/
theorem date_next_day (seconds : Int) :
    date ⟨seconds + secondsPerDay, 0⟩ = (date ⟨seconds, 0⟩).next := by
  have hday : (seconds + secondsPerDay) / secondsPerDay = seconds / secondsPerDay + 1 := by
    rw [secondsPerDay]
    omega
  rw [date, date, hday, Date.ofDays_succ]

/-- **All forms of a second are read alike.**  A second whose year is written without a sign is read
from each of its forms: the number, the numeral, the date and the time in universal time, and those
of a clock less than a day ahead or behind, as long as their year is written without a sign too.  So
the forms of two different seconds are never read as the same.  The dates in the forms are counted
through the calendar, from the first day of 1970. -/
theorem forms_read_alike {seconds : Int} (h : HasPlainYear ⟨seconds, 0⟩) :
    (∀ value, Denotes seconds value → Field.instantOf? value = some ⟨seconds, 0⟩) ∧
    (∀ seconds', HasPlainYear ⟨seconds', 0⟩ → ∀ value value', Denotes seconds value →
      Denotes seconds' value' →
        (Field.instantOf? value = Field.instantOf? value' ↔ seconds = seconds')) ∧
    date ⟨0, 0⟩ = ⟨1970, 1, 1⟩ ∧
      date ⟨seconds + secondsPerDay, 0⟩ = (date ⟨seconds, 0⟩).next := by
  refine ⟨fun value hvalue => hvalue.instantOf? h,
    fun seconds' h' value value' hvalue hvalue' => ?_,
    Date.ofDays_zero, date_next_day seconds⟩
  rw [hvalue.instantOf? h, hvalue'.instantOf? h', Option.some_inj, Instant.mk.injEq]
  exact and_iff_left rfl

/-- The last second of 2023, on a clock on which the new year has begun, and on one of the day
before. -/
theorem new_year_read_alike :
    HasPlainYear ⟨1704067199, 0⟩ ∧
    Field.instantOf? (.string "2024-01-01T05:29:59+0530") = some ⟨1704067199, 0⟩ ∧
    Field.instantOf? (.string "2023-12-31T00:00:59-23:59") = some ⟨1704067199, 0⟩ ∧
    Field.instantOf? (.string "2023-12-31T23:59:59+0000") ≠
      Field.instantOf? (.string "1704067200") := by
  have hyear : HasPlainYear ⟨1704067199, 0⟩ := by decide +kernel
  have hyear' : HasPlainYear ⟨1704067200, 0⟩ := by decide +kernel
  have heast : localText "" 330 1704067199 = "2024-01-01T05:29:59+0530" := by decide +kernel
  have hwest : localText ":" (-1439) 1704067199 = "2023-12-31T00:00:59-23:59" := by
    decide +kernel
  have hgraph : face ⟨1704067199, 0⟩ ++ "+0000" = "2023-12-31T23:59:59+0000" := by decide +kernel
  have hnumeral : toString (1704067200 : Int) = "1704067200" := by decide +kernel
  obtain ⟨hread, hdistinct, -⟩ := forms_read_alike hyear
  rw [← heast, ← hwest, ← hgraph, ← hnumeral]
  refine ⟨hyear, hread _ (.ahead (.inr rfl) (by decide) (by decide +kernel)),
    hread _ (.ahead (.inl rfl) (by decide) (by decide +kernel)), fun heq => ?_⟩
  exact absurd ((hdistinct _ hyear' _ _ .graph .numeral).1 heq) (by decide)

end ThreatGraph.Instant
