import Mathlib.Tactic.IntervalCases
import ThreatGraph.Calendar

/-!
# A date from its number, and back

The date with a number is one of the calendar (`Date.isValid_ofDays`), and its number is that number
(`Date.toDays_ofDays`).

Four hundred years are an era.  Of a day of the era the year is found by division, after the leap
days before it are taken out (`Date.of_dayOfEra`): one for each 1460 days, but for one of each
century, which has 36524 days.  Years begin in March, so that what remains is a day of the year in
which only the last month has a length of its own.
-/

set_option autoImplicit false

namespace ThreatGraph.Date

/-! ## The year in an era

Taking out the leap days makes all years equally long, so that the year is found by division; what
has to be shown is that the day left over is one of that year.  The only day in doubt is the last of
a year of 366 days.  It is there exactly if one more span of four years lies before the day than the
division would say. -/

section

/- A day of an era, the spans of four years and the centuries before it, whether it is the last day,
and the day that it were without leap days. -/
variable {day fours centuries last even : Int}

/-- A century has 36524 days, but for the last one, which has one day more. -/
def IsCentury (day centuries last : Int) : Prop :=
  0 ≤ centuries ∧ 36524 * centuries ≤ day ∧ day ≤ 36524 * centuries + 36523 ∧
    (centuries ≤ 3 ∧ last = 0 ∨ centuries = 4 ∧ last = 1 ∧ day = 146096)

/-- The century of a day is found in the same way from the day without leap days. -/
theorem century_even (hfours : fours = day / 1460) (h : IsCentury day centuries last)
    (heven : even = day - fours + centuries - last) : even / 36500 = centuries - last := by
  obtain ⟨h0, hle, hlt, hlast⟩ := h
  omega

/-- There are as many spans of four years before a day as before the day without leap days, or one
more. -/
theorem fours_even (hfours : fours = day / 1460) (h : IsCentury day centuries last)
    (heven : even = day - fours + centuries - last) :
    even / 1460 ≤ fours ∧ fours ≤ even / 1460 + 1 := by
  obtain ⟨h0, hle, hlt, hlast⟩ := h
  omega

/-- The last day of a year of 366 days is in front of a leap year that the calendar has. -/
theorem leap_even (hfours : fours = day / 1460) (h : IsCentury day centuries last)
    (heven : even = day - fours + centuries - last) (hlast : even % 365 = 364)
    (hmore : fours = even / 1460 + 1) :
    (even / 365 + 1) % 4 = 0 ∧ ((even / 365 + 1) % 100 ≠ 0 ∨ (even / 365 + 1) % 400 = 0) := by
  have hfour : even / 365 + 1 = 4 * fours := by
    obtain ⟨h0, hle, hlt, hcase⟩ := h
    have hfew : fours ≤ 100 := by omega
    have hmany : 1460 * fours ≤ day := by omega
    have hup : 0 ≤ centuries - last := by omega
    clear hcase hle hlt hfours
    omega
  have hcentury : fours ≠ 25 ∧ fours ≠ 50 ∧ fours ≠ 75 := by
    have hend : even + 1 = 1460 * fours := by omega
    obtain ⟨h0, hle, hlt, hcase⟩ := h
    clear hfours hlast hmore hfour
    omega
  have hfew : 0 ≤ fours ∧ fours ≤ 100 := by
    obtain ⟨h0, hle, hlt, hcase⟩ := h
    omega
  rw [hfour]
  omega

end

/-- The number of days of an era before a year of it. -/
def daysBefore (year : Int) : Int := year * 365 + year / 4 - year / 100

/-- A year of an era and a day of that year.  A year with a leap day has it at its end. -/
structure IsYearDay (year day : Int) : Prop where
  year_bounds : 0 ≤ year ∧ year ≤ 399
  day_bounds : 0 ≤ day ∧ day ≤ 365
  leap : day = 365 → (year + 1) % 4 = 0 ∧ ((year + 1) % 100 ≠ 0 ∨ (year + 1) % 400 = 0)

/-- **The year of a day.**  The year of a day of an era is found by division. -/
theorem of_dayOfEra {day : Int} (h : 0 ≤ day ∧ day < 146097) :
    IsYearDay ((day - day / 1460 + day / 36524 - day / 146096) / 365)
      (day - daysBefore ((day - day / 1460 + day / 36524 - day / 146096) / 365)) := by
  have hcentury : IsCentury day (day / 36524) (day / 146096) := by
    rw [IsCentury]
    omega
  generalize heven : day - day / 1460 + day / 36524 - day / 146096 = even
  generalize hfours : day / 1460 = fours at heven
  generalize day / 36524 = centuries at heven hcentury
  generalize day / 146096 = last at heven hcentury
  have h100 := century_even hfours.symm hcentury heven.symm
  have h4 := fours_even hfours.symm hcentury heven.symm
  have hleap := leap_even hfours.symm hcentury heven.symm
  have hdays : day - daysBefore (even / 365) = even % 365 + (fours - even / 1460) := by
    have hsplit : even / 365 / 4 = even / 1460 ∧ even / 365 / 100 = even / 36500 := by omega
    rw [daysBefore, hsplit.1, hsplit.2, h100]
    omega
  have heven0 : 0 ≤ even ∧ even < 146000 := by
    obtain ⟨h0, -, -, hcase⟩ := hcentury
    omega
  rw [hdays]
  exact {
    year_bounds := by omega
    day_bounds := by omega
    leap := fun hlast => hleap (by omega) (by omega) }

/-! ## Months from March

From March on the lengths of the months come in a pattern of five, so the month is found by division
too.  It is then checked month by month that the day is one that the month has; only in February,
the last one, does this depend on the year. -/

/-- The date of a day of a month, in years from March. -/
def ofMarch (year month day : Int) : Date :=
  let fromJanuary := if month < 10 then month + 3 else month - 9
  ⟨if fromJanuary ≤ 2 then year + 1 else year, fromJanuary.toNat, day.toNat⟩

/-- The number of days from March to a month. -/
def daysToMonth (month : Int) : Int := (153 * month + 2) / 5

/-- The month of a day of the year, and the day of the month. -/
theorem month_bounds {day : Int} (h : 0 ≤ day ∧ day ≤ 365) :
    (0 ≤ (5 * day + 2) / 153 ∧ (5 * day + 2) / 153 ≤ 11) ∧
      1 ≤ day - daysToMonth ((5 * day + 2) / 153) + 1 := by
  rw [daysToMonth]
  omega

/-- The number of a date from the day of its year. -/
theorem toDays_ofMarch {year month day : Int} (hmonth : 0 ≤ month ∧ month ≤ 11) (hday : 1 ≤ day) :
    (ofMarch year month day).toDays =
      year / 400 * 146097 + (daysBefore (year % 400) + (daysToMonth month + day - 1)) -
        epochOffset := by
  have hcast : ((day.toNat : Nat) : Int) = day := Int.toNat_of_nonneg (by omega)
  rw [ofMarch, toDays, daysBefore, daysToMonth]
  dsimp only
  rw [hcast]
  split
  · next hm =>
    have hm' : ((month + 3).toNat : Int) = month + 3 := Int.toNat_of_nonneg (by omega)
    rw [if_neg (by omega), if_neg (by omega), hm', show (month + 3 + 9) % 12 = month by omega]
  · next hm =>
    have hm' : ((month - 9).toNat : Int) = month - 9 := Int.toNat_of_nonneg (by omega)
    rw [if_pos (by omega), if_pos (by omega), hm', show (month - 9 + 9) % 12 = month by omega,
      Int.add_sub_cancel]

/-- The day of a month that a day of the year falls on is one that the month has. -/
theorem isValid_ofMarch {era year day : Int} (h : IsYearDay year day) :
    (ofMarch (year + era * 400) ((5 * day + 2) / 153)
      (day - daysToMonth ((5 * day + 2) / 153) + 1)).isValid = true := by
  obtain ⟨hyear, hday, hleap⟩ := h
  obtain ⟨⟨hmarch, hfebruary⟩, hfirst⟩ := month_bounds hday
  have hspan : 153 * ((5 * day + 2) / 153) ≤ 5 * day + 2 ∧
      5 * day + 2 < 153 * ((5 * day + 2) / 153) + 153 := by omega
  generalize (5 * day + 2) / 153 = month at *
  rw [daysToMonth] at *
  rw [isValid, ofMarch]
  simp only [Bool.and_eq_true, decide_eq_true_eq, daysInMonth, isLeapYear]
  refine ⟨by omega, ?_⟩
  interval_cases month <;> simp
  case «11» =>
    split
    · omega
    · next hcommon =>
      have hlast : day ≠ 365 := fun hlast => hcommon (by
        have := hleap hlast
        omega)
      omega
  all_goals omega

/-! ## Dates

The two parts together: a number is an era, a year of it and a day of the year, and the date is made
of these. -/

theorem ofDays_eq (days : Int) : ofDays days =
    let era := (days + epochOffset) / 146097
    let dayOfEra := (days + epochOffset) % 146097
    let year := (dayOfEra - dayOfEra / 1460 + dayOfEra / 36524 - dayOfEra / 146096) / 365
    let day := dayOfEra - daysBefore year
    ofMarch (year + era * 400) ((5 * day + 2) / 153)
      (day - daysToMonth ((5 * day + 2) / 153) + 1) := by
  have hbefore : ∀ year, daysBefore year = 365 * year + year / 4 - year / 100 := fun year => by
    rw [daysBefore, Int.mul_comm]
  simp only [hbefore]
  rfl

/-- The year in its era and the day of the year that a number stands for. -/
theorem ofDays_spec (days : Int) : ∃ era year day, IsYearDay year day ∧
    days + epochOffset = era * 146097 + (daysBefore year + day) ∧
    ofDays days = ofMarch (year + era * 400) ((5 * day + 2) / 153)
      (day - daysToMonth ((5 * day + 2) / 153) + 1) := by
  have hday : 0 ≤ (days + epochOffset) % 146097 ∧ (days + epochOffset) % 146097 < 146097 := by
    omega
  refine ⟨_, _, _, of_dayOfEra hday, ?_, ofDays_eq days⟩
  omega

/-- The months and the days of the calendar. -/
theorem bounds_of_isValid {d : Date} (h : d.isValid = true) :
    (1 ≤ d.month ∧ d.month ≤ 12) ∧ 1 ≤ d.day ∧ d.day ≤ 31 := by
  rw [isValid, Bool.and_eq_true, decide_eq_true_eq, decide_eq_true_eq] at h
  obtain ⟨hfirst, hlast⟩ := h
  have hmonth : d.month = 2 ∨ d.month ∈ [4, 6, 9, 11] ∨ 1 ≤ d.month ∧ d.month ≤ 12 := by
    rw [daysInMonth] at hlast
    split at hlast
    · next h2 => exact .inl h2
    split at hlast
    · next hshort => exact .inr (.inl (List.contains_iff_mem.1 hshort))
    split at hlast
    · next hlong => exact .inr (.inr hlong)
    · omega
  have hdays : daysInMonth d.year d.month ≤ 31 := by
    rw [daysInMonth]
    repeat' split
    all_goals omega
  simp only [List.mem_cons, List.not_mem_nil, or_false] at hmonth
  omega

/-- The date with a number is one of the calendar. -/
theorem isValid_ofDays (days : Int) : (ofDays days).isValid = true := by
  obtain ⟨era, year, day, hyear, -, hdate⟩ := ofDays_spec days
  rw [hdate]
  exact isValid_ofMarch hyear

/-- **A date, numbered again.**  The number of the date with a number is that number. -/
theorem toDays_ofDays (days : Int) : (ofDays days).toDays = days := by
  obtain ⟨era, year, day, hyear, hnumber, hdate⟩ := ofDays_spec days
  obtain ⟨hmonth, hfirst⟩ := month_bounds hyear.day_bounds
  obtain ⟨hnonneg, hle⟩ := hyear.year_bounds
  have hera : (year + era * 400) / 400 = era ∧ (year + era * 400) % 400 = year := by omega
  rw [hdate, toDays_ofMarch hmonth hfirst, hera.1, hera.2]
  omega

end ThreatGraph.Date
