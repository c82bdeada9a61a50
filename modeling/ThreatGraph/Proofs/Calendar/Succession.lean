import ThreatGraph.Proofs.Calendar.Days

/-!
# Day after day

The dates with successive numbers are successive dates of the calendar (`Date.ofDays_succ`), and the
first of January 1970 has the number zero (`Date.ofDays_zero`).  So a number stands for the date
that is reached by walking through the calendar day by day.

Two dates have different numbers (`Date.toDays_inj`): first their years from March decide, then the
months, then the days.
-/

set_option autoImplicit false

namespace ThreatGraph.Date

/-- The date after a date. -/
def next (d : Date) : Date :=
  if d.day < daysInMonth d.year d.month then ⟨d.year, d.month, d.day + 1⟩
  else if d.month < 12 then ⟨d.year, d.month + 1, 1⟩
  else ⟨d.year + 1, 1, 1⟩

/-! ## Years from March

The count takes a year to begin in March, so that the leap day is its last one and does not shift
the months after it.  What follows puts the number of a date into these terms: the days before its
year, the days before its month, and its day. -/

/-- The year from March that a date belongs to. -/
def marchYear (d : Date) : Int := if d.month ≤ 2 then d.year - 1 else d.year

/-- The month of a date, counted from March. -/
def marchMonth (d : Date) : Int := ((d.month : Int) + 9) % 12

/-- The number of days from the first of March of year zero to that of another year. -/
def daysToYear (year : Int) : Int := 365 * year + year / 4 - year / 100 + year / 400

/-- A later year from March does not begin earlier.  Together with `monthEnd_le` this is what tells
the years of two dates apart. -/
theorem daysToYear_mono {year year' : Int} (h : year ≤ year') :
    daysToYear year ≤ daysToYear year' := by
  rw [daysToYear, daysToYear]
  omega

/-- A year from March has 365 days, and one more if the leap day at its end is in a leap year. -/
theorem daysToYear_succ (year : Int) : daysToYear (year + 1) =
    daysToYear year + 365 + if isLeapYear (year + 1) then 1 else 0 := by
  rw [daysToYear, daysToYear, isLeapYear]
  simp only [Bool.and_eq_true, Bool.or_eq_true, decide_eq_true_eq]
  split <;> omega

/-- The number of a date, by its year, its month and its day. -/
theorem toDays_eq (d : Date) :
    d.toDays = daysToYear d.marchYear + (daysToMonth d.marchMonth + d.day - 1) - epochOffset := by
  have hera : ∀ year : Int,
      year / 400 * 146097 + daysBefore (year % 400) = daysToYear year := fun year => by
    rw [daysBefore, daysToYear]
    omega
  rw [← hera, toDays, daysBefore, daysToMonth, marchYear, marchMonth]
  omega

/-- The day of the year from March on which the month after that of a date begins. -/
def monthEnd (d : Date) : Int :=
  if d.month = 2 then daysToYear (d.marchYear + 1) - daysToYear d.marchYear
  else daysToMonth (d.marchMonth + 1)

/-- A month ends after the days that it has. -/
theorem daysInMonth_eq {d : Date} (h : 1 ≤ d.month ∧ d.month ≤ 12) :
    daysToMonth d.marchMonth + daysInMonth d.year d.month = d.monthEnd := by
  obtain ⟨year, month, day⟩ := d
  obtain ⟨hfirst, hlast⟩ := h
  have hleap := daysToYear_succ (year - 1)
  rw [Int.sub_add_cancel] at hleap
  dsimp only [marchMonth, marchYear, monthEnd, daysToMonth] at *
  -- The days of the months are a table, so it is compared month by month.  Only February depends on
  -- the year.
  interval_cases month
  case «2» =>
    simp only [daysInMonth, if_true, Nat.le_refl, Int.sub_add_cancel, hleap]
    split <;> omega
  all_goals simp [daysInMonth]

/-- A month is within its year. -/
theorem monthEnd_le {d : Date} (h : 1 ≤ d.month ∧ d.month ≤ 12) :
    d.monthEnd ≤ daysToYear (d.marchYear + 1) - daysToYear d.marchYear := by
  have hyear := daysToYear_succ d.marchYear
  rw [monthEnd, marchMonth, daysToMonth]
  split
  · exact Int.le_refl _
  · split at hyear <;> omega

/-! ## Numbers and dates

Numbers keep the order of dates.  Of two dates the earlier one is that of the earlier year from
March, and in one year that of the earlier month, for the days of a month lie between its beginning
and its end. -/

variable {d d' : Date}

/-- A day is in its month. -/
theorem day_bounds (h : d.isValid = true) :
    1 ≤ (d.day : Int) ∧ daysToMonth d.marchMonth + d.day ≤ d.monthEnd := by
  have hmonth := (bounds_of_isValid h).1
  rw [isValid, Bool.and_eq_true, decide_eq_true_eq, decide_eq_true_eq] at h
  rw [← daysInMonth_eq hmonth]
  omega

/-- A date of an earlier year from March has a lower number. -/
theorem toDays_lt_of_marchYear (h : d.isValid = true) (h' : d'.isValid = true)
    (hlt : d.marchYear < d'.marchYear) : d.toDays < d'.toDays := by
  have hend := Int.le_trans (day_bounds h).2 (monthEnd_le (bounds_of_isValid h).1)
  have hmono := daysToYear_mono (Int.add_one_le_of_lt hlt)
  have hday := (day_bounds h').1
  have hmonth : 0 ≤ daysToMonth d'.marchMonth := by
    rw [daysToMonth, marchMonth]
    omega
  rw [toDays_eq, toDays_eq]
  omega

/-- In a year from March, a date of an earlier month has a lower number. -/
theorem toDays_lt_of_marchMonth (h : d.isValid = true) (h' : d'.isValid = true)
    (hyear : d.marchYear = d'.marchYear) (hlt : d.marchMonth < d'.marchMonth) :
    d.toDays < d'.toDays := by
  have hnext : d.monthEnd ≤ daysToMonth d'.marchMonth := by
    have hfew : d'.marchMonth < 12 := by
      rw [marchMonth]
      omega
    rw [monthEnd, if_neg (by rw [marchMonth] at hlt; omega), daysToMonth, daysToMonth]
    omega
  have hday := (day_bounds h).2
  have hday' := (day_bounds h').1
  rw [toDays_eq, toDays_eq, hyear]
  omega

/-- Two dates of the calendar have different numbers.  If the numbers are the same, then neither
year can be the earlier one, and then neither month can be, and the days are what is left. -/
theorem toDays_inj (h : d.isValid = true) (h' : d'.isValid = true) (heq : d.toDays = d'.toDays) :
    d = d' := by
  have hyear : d.marchYear = d'.marchYear := by
    rcases Int.lt_trichotomy d.marchYear d'.marchYear with hlt | hyear | hlt
    · exact absurd heq (Int.ne_of_lt (toDays_lt_of_marchYear h h' hlt))
    · exact hyear
    · exact absurd heq.symm (Int.ne_of_lt (toDays_lt_of_marchYear h' h hlt))
  have hmonth : d.marchMonth = d'.marchMonth := by
    rcases Int.lt_trichotomy d.marchMonth d'.marchMonth with hlt | hmonth | hlt
    · exact absurd heq (Int.ne_of_lt (toDays_lt_of_marchMonth h h' hyear hlt))
    · exact hmonth
    · exact absurd heq.symm (Int.ne_of_lt (toDays_lt_of_marchMonth h' h hyear.symm hlt))
  have hday : d.day = d'.day := by
    rw [toDays_eq, toDays_eq, hyear, hmonth] at heq
    omega
  have hfew := (bounds_of_isValid h).1
  have hfew' := (bounds_of_isValid h').1
  -- A year and a month from March come from one year and one month only.
  obtain ⟨year, month, day⟩ := d
  obtain ⟨year', month', day'⟩ := d'
  simp only [marchYear, marchMonth] at hyear hmonth hfew hfew'
  obtain rfl : month = month' := by omega
  obtain rfl : day = day' := hday
  obtain rfl : year = year' := by
    split at hyear <;> omega
  rfl

/-- The date with the number of a date is that date. -/
theorem ofDays_toDays (h : d.isValid = true) : ofDays d.toDays = d :=
  toDays_inj (isValid_ofDays _) h (toDays_ofDays _)

/-! ## The next day

`Date.next` follows the calendar and knows nothing of the count.  That the two agree is the point of
this module: a mistake in the count, at the end of a February or of a century, would be a day whose
number is not followed by that of the next. -/

/-- The number of the first day of a month. -/
theorem toDays_first (year : Int) (month : Nat) : toDays ⟨year, month, 1⟩ =
    daysToYear (if month ≤ 2 then year - 1 else year) + daysToMonth ((month + 9 : Int) % 12) -
      epochOffset := by
  rw [toDays_eq, marchYear, marchMonth]
  dsimp only
  omega

/-- The date after a date is one of the calendar, for every month has a first day. -/
theorem isValid_next (h : d.isValid = true) : d.next.isValid = true := by
  obtain ⟨⟨hfirst, hlast⟩, -⟩ := bounds_of_isValid h
  have hmonths : ∀ year month, 1 ≤ month → month ≤ 12 → 1 ≤ daysInMonth year month := by
    intro year month hfirst hlast
    interval_cases month <;> simp [daysInMonth]
    split <;> decide
  rw [next]
  split
  · next hday => simp [isValid, Nat.succ_le_of_lt hday]
  split
  · next hmonth => simp [isValid, hmonths d.year (d.month + 1) (by omega) (by omega)]
  · simp [isValid, hmonths (d.year + 1) 1 (by omega) (by omega)]

/-- The next date has the next number. -/
theorem toDays_next (h : d.isValid = true) : d.next.toDays = d.toDays + 1 := by
  obtain ⟨⟨hfirst, hlast⟩, -⟩ := bounds_of_isValid h
  have hend := daysInMonth_eq ⟨hfirst, hlast⟩
  rw [isValid, Bool.and_eq_true, decide_eq_true_eq, decide_eq_true_eq] at h
  rw [next]
  split
  · rw [toDays_eq, toDays_eq d, marchYear, marchYear, marchMonth, marchMonth]
    push_cast
    omega
  -- The day is the last one of its month, and the next day is the first one of another.
  have hnumber : d.toDays + 1 = daysToYear d.marchYear + d.monthEnd - epochOffset := by
    rw [toDays_eq, ← hend]
    omega
  rw [hnumber, monthEnd]
  by_cases hless : d.month < 12
  · rw [if_pos hless, toDays_first]
    by_cases hfebruary : d.month = 2
    · have hyear : (if d.month + 1 ≤ 2 then d.year - 1 else d.year) = d.marchYear + 1 := by
        rw [marchYear, if_neg (by omega), if_pos (by omega), Int.sub_add_cancel]
      rw [if_pos hfebruary, hyear, daysToMonth, hfebruary]
      omega
    · have hyear : (if d.month + 1 ≤ 2 then d.year - 1 else d.year) = d.marchYear := by
        rw [marchYear]
        split <;> split <;> omega
      rw [if_neg hfebruary, hyear, marchMonth, daysToMonth, daysToMonth]
      omega
  · have hdecember : d.month = 12 := by omega
    rw [if_neg hless, if_neg (by omega), toDays_first, if_pos (by decide), Int.add_sub_cancel,
      marchYear, if_neg (by omega), marchMonth, hdecember]
    rfl

/-- **Day after day.**  The date with the next number is the next date of the calendar. -/
theorem ofDays_succ (days : Int) : ofDays (days + 1) = (ofDays days).next := by
  have h := isValid_ofDays days
  rw [← ofDays_toDays (isValid_next h), toDays_next h, toDays_ofDays]

/-- The count begins with the year 1970. -/
theorem ofDays_zero : ofDays 0 = ⟨1970, 1, 1⟩ := by decide

end ThreatGraph.Date
