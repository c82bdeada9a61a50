import ThreatGraph.Proofs.Calendar.Days
import ThreatGraph.Proofs.Instant.Points

/-!
# Instants, read again

The text of an instant that was read is read as that instant, if its year needs no sign
(`Instant.parse?_text`).

`Instant.Takes` says that a reader takes a value from a text, whatever comes after it.  The numbers
of a date and a time have this property where they are written in full width, and so have the date
and the time (`takes_readDate`, `takes_readClock`).  A fraction ends before what is no digit
(`readNanos_fractionText`).
-/

set_option autoImplicit false

namespace ThreatGraph.Instant

/-! ## Numbers

Where a number of a fixed width is followed by another digit, reading stops at the width; where
numbers of any length are read, no digit may follow.  One of the two always holds in the text of an
instant. -/

section

variable {least most n : Nat} {digits rest : List Char}

/-- A run of digits is read as its value, if it ends where reading has to. -/
theorem readNumber_append (hdigit : ∀ c ∈ digits, isDigit c = true)
    (hvalue : digitsValue? digits = some n) (hleast : least ≤ digits.length)
    (hmost : digits.length ≤ most)
    (hend : digits.length = most ∨ ∀ c, rest.head? = some c → isDigit c = false) :
    readNumber least most (digits ++ rest) = some (n, rest) := by
  have hrun : ((digits ++ rest).take most).takeWhile isDigit = digits := by
    have hstop : (rest.take (most - digits.length)).takeWhile isDigit = [] := by
      rcases hend with heq | hhead
      · rw [heq, Nat.sub_self, List.take_zero, List.takeWhile_nil]
      · cases rest with
        | nil => rw [List.take_nil, List.takeWhile_nil]
        | cons c rest =>
          cases most - digits.length with
          | zero => rfl
          | succ k => simp [hhead c rfl]
    rw [List.take_append, List.take_of_length_le hmost, List.takeWhile_append_of_pos hdigit, hstop,
      List.append_nil]
  rw [readNumber, hrun, if_neg (Nat.not_lt.2 hleast), hvalue, List.drop_left]
  rfl

/-- A numeral of a width is read as its number. -/
theorem readNumber_padded {width : Nat} (hwidth : 0 < width) (hleast : least ≤ width)
    (h : n < 10 ^ width) (rest : List Char) :
    readNumber least width ((padded width n).toList ++ rest) = some (n, rest) := by
  have hlength := length_padded hwidth h
  exact readNumber_append (fun _ => isDigit_of_mem_padded) (digitsValue?_padded width n)
    (by omega) (by omega) (.inl hlength)

end

/-! ## What is written

The parts of a text are written one after the other, and each is read up to where it ends.  The
readers of a date and of a time are put together from those of their parts, in the strict and in the
loose form alike, so they are spoken of with any readers for the parts. -/

section

variable {α : Type}

/-- A reader takes a value from a text, whatever comes after it. -/
def Takes (reader : Reader α) (text : List Char) (value : α) : Prop :=
  ∀ rest, reader (text ++ rest) = some (value, rest)

/-- A number that is written in the width of its reader. -/
theorem takes_padded {least width n : Nat} (hwidth : 0 < width) (hleast : least ≤ width)
    (h : n < 10 ^ width) : Takes (readNumber least width) (padded width n).toList n :=
  readNumber_padded hwidth hleast h

/-- A character is taken in front of anything. -/
theorem takes_readChar (c : Char) : Takes (readChar c) [c] () := fun rest => by
  rw [List.singleton_append, readChar, if_pos rfl]

variable {readYear : Reader Int} {readPart : Reader Nat}

/-- A date is taken if its parts are. -/
theorem takes_readDate {yearText monthText dayText : List Char} {year : Int} {month day : Nat}
    (hyear : Takes readYear yearText year) (hmonth : Takes readPart monthText month)
    (hday : Takes readPart dayText day) :
    Takes (readDate readYear readPart) (yearText ++ '-' :: (monthText ++ '-' :: dayText))
      ⟨year, month, day⟩ := by
  intro rest
  have hdash := takes_readChar '-'
  have htext : yearText ++ '-' :: (monthText ++ '-' :: dayText) ++ rest =
      yearText ++ (['-'] ++ (monthText ++ (['-'] ++ (dayText ++ rest)))) := by simp
  simp only [readDate, htext, hyear _, hdash _, hmonth _, hday _, Option.bind_eq_bind,
    Option.bind_some]
  rfl

/-- A time of day is taken if its parts are. -/
theorem takes_readClock {hourText minuteText secondText : List Char} {hour minute second : Nat}
    (hhour : Takes readPart hourText hour) (hminute : Takes readPart minuteText minute)
    (hsecond : Takes readPart secondText second) :
    Takes (readClock readPart) (hourText ++ ':' :: (minuteText ++ ':' :: secondText))
      ⟨hour, minute, second, 0⟩ := by
  intro rest
  have hcolon := takes_readChar ':'
  have htext : hourText ++ ':' :: (minuteText ++ ':' :: secondText) ++ rest =
      hourText ++ ([':'] ++ (minuteText ++ ([':'] ++ (secondText ++ rest)))) := by simp
  simp only [readClock, htext, hhour _, hcolon _, hminute _, hsecond _, Option.bind_eq_bind,
    Option.bind_some]
  rfl

end

/-- The text of a year without a sign is read as the year. -/
theorem takes_yearText {year : Int} (h : 0 ≤ year ∧ year ≤ 9999) :
    Takes readFullYear (yearText year).toList year := by
  intro rest
  have hcast : Int.ofNat year.toNat = year := Int.toNat_of_nonneg h.1
  rw [yearText, if_pos h, readFullYear, readNumber_padded (by decide) (by decide) (by omega),
    Option.map_some, hcast]

/-- Two digits are read as the number that they are written for. -/
theorem takes_readTwo {n : Nat} (h : n < 100) : Takes (readTwo true) (padded 2 n).toList n :=
  takes_padded (by decide) (by decide) h

/-- A point and the digits of a fraction are read as the nanoseconds that they stand for. -/
theorem readNanos_padded {width n : Nat} (hwidth : 0 < width) (hmost : width ≤ 9)
    (hn : n < 10 ^ width) {rest : List Char}
    (hrest : ∀ c, rest.head? = some c → isDigit c = false) :
    readNanos ('.' :: ((padded width n).toList ++ rest)) = some (n * 10 ^ (9 - width), rest) := by
  have hlength := length_padded hwidth hn
  have hread : readNumber 1 9 ((padded width n).toList ++ rest) = some (n, rest) :=
    readNumber_append (fun _ => isDigit_of_mem_padded) (digitsValue?_padded width n) (by omega)
      (by omega) (.inr hrest)
  have hcut : ((padded width n).toList ++ rest).length - rest.length = width := by
    rw [List.length_append, hlength, Nat.add_sub_cancel]
  have hafter : rest.dropWhile isDigit = rest := by
    cases rest with
    | nil => rfl
    | cons c rest => rw [List.dropWhile_cons, if_neg (by simp [hrest c rfl])]
  rw [readNanos, readFraction, hread, Option.bind_eq_bind, Option.bind_some]
  dsimp only
  rw [hcut, hafter]
  rfl

/-- A fraction is read as its nanoseconds. -/
theorem readNanos_fractionText {nanos : Nat} (h : nanos < nanosPerSecond) {rest : List Char}
    (hrest : ∀ c, rest.head? = some c → isDigit c = false ∧ c ≠ '.') :
    readNanos ((fractionText nanos).toList ++ rest) = some (nanos, rest) := by
  have hdigit : ∀ c, rest.head? = some c → isDigit c = false := fun c hc => (hrest c hc).1
  rw [nanosPerSecond] at h
  rw [fractionText]
  split
  · next hzero =>
    subst hzero
    unfold readNanos
    split
    · next hpoint => exact absurd rfl (hrest '.' (congrArg List.head? hpoint)).2
    · rfl
  split
  · next hmillis =>
    have hread := readNanos_padded (by decide) (by decide) (show nanos / 1000000 < 10 ^ 3 by omega)
      hdigit
    have hback : nanos / 1000000 * 10 ^ (9 - 3) = nanos :=
      Nat.div_mul_cancel (Nat.dvd_of_mod_eq_zero hmillis)
    rw [hback] at hread
    simpa using hread
  split
  · next hmicros =>
    have hread := readNanos_padded (by decide) (by decide) (show nanos / 1000 < 10 ^ 6 by omega)
      hdigit
    have hback : nanos / 1000 * 10 ^ (9 - 6) = nanos :=
      Nat.div_mul_cancel (Nat.dvd_of_mod_eq_zero hmicros)
    rw [hback] at hread
    simpa using hread
  · have hread := readNanos_padded (by decide) (by decide) (show nanos < 10 ^ 9 by omega) hdigit
    simpa using hread

/-- A date and a time in the strict form are read part by part. -/
theorem readStrict?_eq_bind {dateText clockText fraction offsetText : List Char} {date : Date}
    {time : ClockTime} {nanos : Nat}
    (hdate : Takes (readDate readFullYear (readTwo true)) dateText date)
    (htime : Takes (readClock (readTwo true)) clockText time)
    (hnanos : readNanos (fraction ++ offsetText) = some (nanos, offsetText)) :
    readStrict? (dateText ++ 'T' :: (clockText ++ (fraction ++ offsetText))) =
      (readStrictOffset offsetText).bind fun read =>
        if read.2.isEmpty && read.1.natAbs ≤ greatestOffset.natAbs then
          ofLocal? date { time with nanos := nanos } read.1
        else none := by
  have hmark : ∀ rest, readMark ('T' :: rest) = some ((), rest) := fun _ => rfl
  rw [readStrict?]
  simp only [hdate _, hmark, htime _, hnanos, Option.bind_eq_bind, Option.bind_some]

/-- A date and a time in the strict form are read if there is nothing after the offset. -/
theorem readStrict?_append {dateText clockText fraction offsetText : List Char} {date : Date}
    {time : ClockTime} {nanos : Nat} {offset : Int}
    (hdate : Takes (readDate readFullYear (readTwo true)) dateText date)
    (htime : Takes (readClock (readTwo true)) clockText time)
    (hnanos : readNanos (fraction ++ offsetText) = some (nanos, offsetText))
    (hoffset : readStrictOffset offsetText = some (offset, []))
    (hle : offset.natAbs ≤ greatestOffset.natAbs) :
    readStrict? (dateText ++ 'T' :: (clockText ++ (fraction ++ offsetText))) =
      ofLocal? date { time with nanos := nanos } offset := by
  rw [readStrict?_eq_bind hdate htime hnanos, hoffset, Option.bind_some, if_pos (by simp [hle])]

/-! ## The text of an instant

An instant is written as the date, the time of day and the fraction that a clock in universal time
shows.  The clock shows a leap second as the sixtieth second of its minute, while the instant counts
it with the second before; the two meet in `seconds_eq`.

A text could also be read as a number of seconds, which comes first.  Only the hyphens in the date
tell it apart. -/

/-- The date of an instant, in universal time. -/
def date (t : Instant) : Date := Date.ofDays (t.seconds / secondsPerDay)

/-- The time of day of an instant, in universal time and without its fraction. -/
def clock (t : Instant) : ClockTime :=
  let second := (t.seconds % secondsPerDay).toNat
  ⟨second / 3600, second / 60 % 60,
    second % 60 + (if nanosPerSecond ≤ t.nanos then 1 else 0), 0⟩

/-- The nanoseconds of an instant after the second that its clock shows. -/
def fraction (t : Instant) : Nat :=
  if nanosPerSecond ≤ t.nanos then t.nanos - nanosPerSecond else t.nanos

/-- The second of the day of an instant. -/
theorem secondOfDay (t : Instant) : ∃ second : Nat, second < 86400 ∧
    t.seconds = t.seconds / secondsPerDay * secondsPerDay + second ∧
      t.clock = ⟨second / 3600, second / 60 % 60,
        second % 60 + (if nanosPerSecond ≤ t.nanos then 1 else 0), 0⟩ := by
  refine ⟨(t.seconds % secondsPerDay).toNat, ?_, ?_, rfl⟩
  · rw [secondsPerDay]
    omega
  · rw [secondsPerDay]
    omega

/-- The clock shows hours, minutes and seconds as there are. -/
theorem clock_bounds (t : Instant) :
    t.clock.hour ≤ 23 ∧ t.clock.minute ≤ 59 ∧ t.clock.second ≤ 60 := by
  obtain ⟨second, hlt, -, hclock⟩ := t.secondOfDay
  rw [hclock]
  refine ⟨?_, ?_, ?_⟩
  · dsimp only
    omega
  · dsimp only
    omega
  · dsimp only
    split <;> omega

/-- The clock shows a sixtieth second in a leap second, and only then. -/
theorem second_eq_sixty_iff {t : Instant} (h : t.IsPoint) :
    t.clock.second = 60 ↔ nanosPerSecond ≤ t.nanos := by
  obtain ⟨second, hlt, hseconds, hclock⟩ := t.secondOfDay
  have hleap := h.leap
  rw [secondsPerDay] at hseconds
  rw [hclock]
  dsimp only
  split
  · next hle =>
    have := hleap hle
    exact ⟨fun _ => hle, fun _ => by omega⟩
  · next hle => exact ⟨fun h60 => by omega, fun hle' => absurd hle' hle⟩

/-- The clock shows the second of an instant, where a leap second counts as the one before it. -/
theorem seconds_eq {t : Instant} (h : t.IsPoint) :
    t.seconds = t.date.toDays * secondsPerDay + t.clock.hour * 3600 + t.clock.minute * 60 +
      (if t.clock.second = 60 then 59 else t.clock.second : Nat) - 0 := by
  have hsixty := second_eq_sixty_iff h
  have hleap := h.leap
  obtain ⟨second, hlt, hseconds, hclock⟩ := t.secondOfDay
  rw [date, Date.toDays_ofDays]
  split
  · next h60 =>
    have hlast := hleap (hsixty.1 h60)
    rw [hclock]
    rw [secondsPerDay] at hseconds ⊢
    dsimp only
    omega
  · next h60 =>
    have hplain : ¬ nanosPerSecond ≤ t.nanos := fun hle => h60 (hsixty.2 hle)
    rw [hclock, if_neg hplain]
    rw [secondsPerDay] at hseconds ⊢
    dsimp only
    omega

/-- A clock in universal time shows an instant as its date, its time and its fraction. -/
theorem ofLocal?_date {t : Instant} (h : t.IsPoint)
    (hyear : yearRange.1 ≤ t.date.year ∧ t.date.year ≤ yearRange.2) :
    ofLocal? t.date { t.clock with nanos := t.fraction } 0 = some t := by
  obtain ⟨hhour, hminute, hsecond⟩ := t.clock_bounds
  refine ofLocal?_eq_some_iff.2 ⟨Date.isValid_ofDays _, ?_, hyear, h.range, seconds_eq h, ?_⟩
  · simp [ClockTime.isValid, hhour, hminute, hsecond]
  · rw [fraction]
    dsimp only
    by_cases hleap : nanosPerSecond ≤ t.nanos
    · rw [if_pos ((second_eq_sixty_iff h).2 hleap), if_pos hleap, Nat.sub_add_cancel hleap]
    · rw [if_neg (fun h60 => hleap ((second_eq_sixty_iff h).1 h60)), if_neg hleap]

/-- The text of an instant, part by part. -/
theorem toList_text (t : Instant) : t.text.toList =
    ((yearText t.date.year).toList ++ '-' :: ((padded 2 t.date.month).toList ++
      '-' :: (padded 2 t.date.day).toList)) ++ 'T' ::
        (((padded 2 t.clock.hour).toList ++ ':' :: ((padded 2 t.clock.minute).toList ++
          ':' :: (padded 2 t.clock.second).toList)) ++
            ((fractionText t.fraction).toList ++ ['Z'])) := by
  have htext : t.text = yearText t.date.year ++ "-" ++ padded 2 t.date.month ++ "-" ++
      padded 2 t.date.day ++ "T" ++ padded 2 t.clock.hour ++ ":" ++ padded 2 t.clock.minute ++
      ":" ++ padded 2 t.clock.second ++ fractionText t.fraction ++ "Z" := rfl
  rw [htext]
  simp

/-- A text that begins with a digit and has a hyphen is no numeral. -/
theorem readSigned64?_of_hyphen {s : String} {c : Char} {rest : List Char}
    (hs : s.toList = c :: rest) (hc : isDigit c = true) (hhyphen : '-' ∈ rest) :
    readSigned64? s = none := by
  have hnone : digitsValue? (c :: rest) = none :=
    digitsFrom?_of_mem (List.mem_cons_of_mem _ hhyphen) (by decide)
  have hplus : c ≠ '+' := ne_of_isDigit hc (by decide)
  have hminus : c ≠ '-' := ne_of_isDigit hc (by decide)
  rw [readSigned64?, hs, readSigned?, hnone]
  · rfl
  · exact fun _ heq => hplus (List.cons.inj heq).1
  · exact fun _ heq => hminus (List.cons.inj heq).1

/-- The year of an instant is written without a sign. -/
def HasPlainYear (t : Instant) : Prop := 0 ≤ t.date.year ∧ t.date.year ≤ 9999

instance (t : Instant) : Decidable t.HasPlainYear := inferInstanceAs (Decidable (_ ∧ _))

/-- The text of an instant is not taken for a number of seconds. -/
theorem readSigned64?_text {t : Instant} (hyear : t.HasPlainYear) :
    readSigned64? t.text = none := by
  have hyearText : yearText t.date.year = padded 4 t.date.year.toNat := if_pos hyear
  obtain ⟨c, digits, htext, hdigit⟩ := padded_eq_cons 4 t.date.year.toNat
  refine readSigned64?_of_hyphen (by rw [toList_text, hyearText, htext]; rfl) hdigit ?_
  simp

/-- **An instant, read again.**  The text of an instant is read as the instant, if its year needs no
sign. -/
theorem parse?_text {t : Instant} (h : t.IsPoint) (hyear : t.HasPlainYear) :
    parse? t.text = some t := by
  obtain ⟨⟨-, hmonth⟩, -, hday⟩ : (1 ≤ t.date.month ∧ t.date.month ≤ 12) ∧
      1 ≤ t.date.day ∧ t.date.day ≤ 31 := Date.bounds_of_isValid (Date.isValid_ofDays _)
  obtain ⟨hhour, hminute, hsecond⟩ := t.clock_bounds
  have hnanos := h.nanos_lt
  have hdate := takes_readDate (takes_yearText hyear)
    (takes_readTwo (by omega : t.date.month < 100)) (takes_readTwo (by omega : t.date.day < 100))
  have hclock := takes_readClock (takes_readTwo (by omega : t.clock.hour < 100))
    (takes_readTwo (by omega : t.clock.minute < 100))
    (takes_readTwo (by omega : t.clock.second < 100))
  have hfraction : t.fraction < nanosPerSecond := by
    rw [fraction]
    split <;> omega
  have hstrict : readStrict? t.text.toList =
      ofLocal? t.date { t.clock with nanos := t.fraction } 0 := by
    rw [toList_text]
    exact readStrict?_append hdate hclock (readNanos_fractionText hfraction (by simp; decide)) rfl
      (by decide)
  have hrange : yearRange.1 ≤ t.date.year ∧ t.date.year ≤ yearRange.2 := by
    obtain ⟨hfirst, hlast⟩ := hyear
    simp only [yearRange]
    omega
  rw [parse?, readSigned64?_text hyear, hstrict, ofLocal?_date h hrange]
  rfl

end ThreatGraph.Instant
