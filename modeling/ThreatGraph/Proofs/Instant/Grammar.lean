import ThreatGraph.Proofs.Instant.Forms

/-!
# The grammar of dates and times

What the readers of dates and times take, as forms of texts.  A form relates values to the texts
that stand for them, and a reader agrees with a form (`Instant.Agrees`) if it takes texts of the
form and no others.  Readers take as many digits as they may, so the text has to end where no digit
follows.

* `Instant.StrictForm` is what `Instant.readStrict?` takes (`Instant.readStrict?_eq_some_iff`).
* `Instant.LooseForm` is what `Instant.readLoose` takes, from which `Instant.readOffset?` and
  `Instant.readPlain?` go on (`Instant.readOffset?_eq_some_iff`, `Instant.readPlain?_eq_some_iff`).
-/

set_option autoImplicit false

namespace ThreatGraph.Instant

variable {α : Type}

/-- The texts that stand for a value. -/
abbrev Form (α : Type) := α → List Char → Prop

/-- No digit stands in front. -/
def EndsDigits (cs : List Char) : Prop := ∀ c, cs.head? = some c → isDigit c = false

theorem endsDigits_nil : EndsDigits [] := nofun

theorem endsDigits_cons {c : Char} (hc : isDigit c = false) (cs : List Char) :
    EndsDigits (c :: cs) :=
  fun _ h => Option.some.inj h ▸ hc

/-- The reader takes a text of the form off the front, and takes each such text where no digit
follows it. -/
structure Agrees (reader : Reader α) (form : Form α) : Prop where
  sound : ∀ {cs : List Char} {a : α} {rest : List Char}, reader cs = some (a, rest) →
    ∃ text, form a text ∧ cs = text ++ rest
  complete : ∀ {a : α} {text rest : List Char}, form a text → EndsDigits rest →
    reader (text ++ rest) = some (a, rest)

/-! ## Numbers

A number of fixed width is followed by anything, and one of less than its full width must end where
it ends.  So a reader of numbers agrees with its form only in front of what is no digit, and this
condition goes through all forms that end in a number. -/

/-- A number in decimal digits, of which there are as many as there may be. -/
structure NumberForm (least most n : Nat) (cs : List Char) : Prop where
  value : digitsValue? cs = some n
  least_le : least ≤ cs.length
  le_most : cs.length ≤ most

/-- A number is taken if it has its full width or no digit follows. -/
theorem NumberForm.take {least most n : Nat} {digits : List Char}
    (h : NumberForm least most n digits) {rest : List Char}
    (hend : digits.length = most ∨ EndsDigits rest) :
    readNumber least most (digits ++ rest) = some (n, rest) :=
  readNumber_append (isDigit_of_digitsValue? h.value) h.value h.least_le h.le_most hend

/-- A number that is read has its form, and either its full width or no digit after it. -/
theorem numberForm_of_readNumber {least most n : Nat} {cs rest : List Char}
    (h : readNumber least most cs = some (n, rest)) :
    ∃ digits, NumberForm least most n digits ∧ cs = digits ++ rest ∧
      (digits.length = most ∨ EndsDigits rest) := by
  rw [readNumber] at h
  generalize hrun : (cs.take most).takeWhile isDigit = digits at h
  split at h
  · cases h
  · next hleast =>
    obtain ⟨value, hvalue, hpair⟩ := Option.map_eq_some_iff.1 h
    obtain ⟨rfl, rfl⟩ := Prod.mk.inj hpair
    have hprefix : digits <+: cs.take most := hrun ▸ List.takeWhile_prefix isDigit
    have hmost : digits.length ≤ most :=
      Nat.le_trans hprefix.length_le (List.length_take_le most cs)
    obtain ⟨rest, rfl⟩ := hprefix.trans (List.take_prefix most cs)
    rw [List.drop_left]
    refine ⟨digits, ⟨hvalue, Nat.le_of_not_lt hleast, hmost⟩, rfl, ?_⟩
    rcases Nat.eq_or_lt_of_le hmost with heq | hlt
    · exact .inl heq
    · -- The run stops before its full width, so the character after it is no digit.
      obtain ⟨k, hk⟩ := Nat.exists_eq_add_of_lt hlt
      refine .inr fun c hc => ?_
      obtain ⟨tail, rfl⟩ := List.head?_eq_some_iff.1 hc
      rw [hk, Nat.add_assoc, List.take_length_add_append, List.take_succ_cons,
        List.takeWhile_append_of_pos (isDigit_of_digitsValue? hvalue), List.takeWhile_cons] at hrun
      by_contra hdigit
      rw [if_pos (by simpa using hdigit)] at hrun
      simp at hrun

theorem agrees_readNumber (least most : Nat) :
    Agrees (readNumber least most) (NumberForm least most) where
  sound := fun h => by
    obtain ⟨digits, hdigits, hcs, -⟩ := numberForm_of_readNumber h
    exact ⟨digits, hdigits, hcs⟩
  complete := fun h hrest => h.take (.inr hrest)

/-! ## Blanks in front

Where blanks are skipped in front of a form, no text of the form may begin with one; otherwise the
blanks could be counted in two ways, and a reader would take only one of them. -/

/-- Blanks, and a text of the form after them. -/
inductive Blanked (form : Form α) : Form α where
  | mk {a : α} {blanks text : List Char} (hblanks : ∀ c ∈ blanks, isBlank c = true)
      (htext : form a text) : Blanked form a (blanks ++ text)

theorem Blanked.of {form : Form α} {a : α} {text : List Char} (h : form a text) :
    Blanked form a text :=
  .mk (List.forall_mem_nil _) h

/-- Texts of the form begin with no blank. -/
def StartsFirm (form : Form α) : Prop :=
  ∀ {a : α} {text : List Char}, form a text → ∃ c tail, text = c :: tail ∧ isBlank c = false

/-- A reader that skips blanks agrees with the form that has them in front. -/
theorem Agrees.blanked {reader : Reader α} {form : Form α} (h : Agrees reader form)
    (hfirm : StartsFirm form) : Agrees (fun cs => reader (trimStart cs)) (Blanked form) where
  sound := fun {cs a rest} hread => by
    obtain ⟨text, htext, hcs⟩ := h.sound hread
    have hblanks : ∀ c ∈ cs.takeWhile isBlank, isBlank c = true := fun c hc =>
      List.all_eq_true.1 List.all_takeWhile c hc
    refine ⟨_, .mk hblanks htext, ?_⟩
    rw [List.append_assoc, ← hcs]
    exact List.takeWhile_append_dropWhile.symm
  complete := fun {a text rest} htext hrest => by
    obtain ⟨hblanks, htext⟩ := htext
    have hread := h.complete htext hrest
    obtain ⟨c, tail, rfl, hc⟩ := hfirm htext
    rw [List.cons_append] at hread
    rw [List.append_assoc, trimStart, List.dropWhile_append_of_pos hblanks, List.cons_append,
      List.dropWhile_cons_of_neg (by simp [hc])]
    exact hread

/-- A number begins with a digit. -/
theorem startsFirm_numberForm (least most : Nat) : StartsFirm (NumberForm least most) := fun h => by
  obtain ⟨c, tail, htext, hc⟩ := eq_cons_of_digitsValue? h.value
  exact ⟨c, tail, htext, isBlank_of_isDigit hc⟩

/-- A number of one or two digits after blanks. -/
abbrev LooseTwoForm : Form Nat := Blanked (NumberForm 1 2)

theorem agrees_readLooseTwo : Agrees readLooseTwo LooseTwoForm :=
  (agrees_readNumber 1 2).blanked (startsFirm_numberForm 1 2)

/-! ## Years

The strict form has years of four digits.  The loose one lets a sign stand in front of any number of
digits, so that its years need not be within the range of an instant. -/

/-- A year of four digits. -/
inductive FullYearForm : Form Int where
  | mk {n : Nat} {digits : List Char} (h : NumberForm 4 4 n digits) : FullYearForm n digits

/-- A year of up to four digits, or of any number of digits after a sign. -/
inductive SignedYearForm : Form Int where
  | plain {n : Nat} {digits : List Char} (h : NumberForm 1 4 n digits) : SignedYearForm n digits
  | plus {n : Nat} {digits : List Char} (h : digitsValue? digits = some n) :
    SignedYearForm n ('+' :: digits)
  | minus {n : Nat} {digits : List Char} (h : digitsValue? digits = some n) :
    SignedYearForm (-n) ('-' :: digits)

/-- Such a year after blanks. -/
abbrev LooseYearForm : Form Int := Blanked SignedYearForm

/-- A year of the strict form is read exactly from its four digits. -/
theorem agrees_readFullYear : Agrees readFullYear FullYearForm where
  sound := fun h => by
    obtain ⟨⟨n, rest⟩, hn, heq⟩ := Option.map_eq_some_iff.1 h
    cases heq
    obtain ⟨digits, hdigits, hcs⟩ := (agrees_readNumber 4 4).sound hn
    exact ⟨digits, .mk hdigits, hcs⟩
  complete := fun h hrest => by
    obtain ⟨h⟩ := h
    rw [readFullYear, (agrees_readNumber 4 4).complete h hrest]
    rfl

/-- A year in the loose form, without blanks in front. -/
def readSignedYear : Reader Int
  | '-' :: rest => (readNumber 1 rest.length rest).map fun r => (-Int.ofNat r.1, r.2)
  | '+' :: rest => (readNumber 1 rest.length rest).map fun r => (Int.ofNat r.1, r.2)
  | rest => (readNumber 1 4 rest).map fun r => (Int.ofNat r.1, r.2)

/-- A year of the loose form is read exactly from its sign, if it has one, and its digits. -/
theorem agrees_readSignedYear : Agrees readSignedYear SignedYearForm where
  sound := fun h => by
    unfold readSignedYear at h
    split at h
    · obtain ⟨⟨n, rest⟩, hn, heq⟩ := Option.map_eq_some_iff.1 h
      cases heq
      obtain ⟨digits, hdigits, rfl⟩ := (agrees_readNumber _ _).sound hn
      exact ⟨_, .minus hdigits.value, rfl⟩
    · obtain ⟨⟨n, rest⟩, hn, heq⟩ := Option.map_eq_some_iff.1 h
      cases heq
      obtain ⟨digits, hdigits, rfl⟩ := (agrees_readNumber _ _).sound hn
      exact ⟨_, .plus hdigits.value, rfl⟩
    · obtain ⟨⟨n, rest⟩, hn, heq⟩ := Option.map_eq_some_iff.1 h
      cases heq
      obtain ⟨digits, hdigits, rfl⟩ := (agrees_readNumber _ _).sound hn
      exact ⟨_, .plain hdigits, rfl⟩
  complete := fun {a text rest} h hrest => by
    -- After a sign all digits are taken, and without one no more than four.
    have hsigned : ∀ {n digits}, digitsValue? digits = some n →
        readNumber 1 (digits ++ rest).length (digits ++ rest) = some (n, rest) := fun h => by
      obtain ⟨c, tail, rfl, -⟩ := eq_cons_of_digitsValue? h
      exact NumberForm.take ⟨h, by simp, by simp⟩ (.inr hrest)
    cases h with
    | plain h =>
      obtain ⟨c, tail, rfl, hc⟩ := eq_cons_of_digitsValue? h.value
      have hread := (agrees_readNumber 1 4).complete h hrest
      rw [List.cons_append] at hread ⊢
      unfold readSignedYear
      split
      · next heq => exact absurd (List.cons.inj heq).1 (ne_of_isDigit hc (by decide))
      · next heq => exact absurd (List.cons.inj heq).1 (ne_of_isDigit hc (by decide))
      · rw [hread]
        rfl
    | plus h =>
      rw [List.cons_append, readSignedYear, hsigned h]
      rfl
    | minus h =>
      rw [List.cons_append, readSignedYear, hsigned h]
      rfl

/-- A year begins with a digit or a sign. -/
theorem startsFirm_signedYearForm : StartsFirm SignedYearForm := fun h => by
  cases h with
  | plain h => exact startsFirm_numberForm 1 4 h
  | plus _ => exact ⟨'+', _, rfl, by decide⟩
  | minus _ => exact ⟨'-', _, rfl, by decide⟩

theorem agrees_readYear : Agrees readYear LooseYearForm :=
  agrees_readSignedYear.blanked startsFirm_signedYearForm

/-- A year of the strict form is one of the loose form. -/
theorem FullYearForm.signed {year : Int} {text : List Char} (h : FullYearForm year text) :
    SignedYearForm year text := by
  obtain ⟨h⟩ := h
  exact .plain ⟨h.value, Nat.le_trans (by decide) h.least_le, h.le_most⟩

/-! ## Dates and times of day

The two forms differ in their parts only: how a year is written, and whether a month, a day or an
hour may have one digit and blanks in front.  So dates and times are forms over the forms of their
parts, and agreeing goes from the parts to the whole. -/

/-- A date: a year, a month and a day with hyphens between them. -/
inductive DateForm (yearForm : Form Int) (partForm : Form Nat) : Form Date where
  | mk {year : Int} {month day : Nat} {yearText monthText dayText : List Char}
    (hyear : yearForm year yearText) (hmonth : partForm month monthText)
    (hday : partForm day dayText) : DateForm yearForm partForm ⟨year, month, day⟩
      (yearText ++ '-' :: (monthText ++ '-' :: dayText))

/-- A time of day: an hour, a minute and a second with colons between them. -/
inductive ClockForm (partForm : Form Nat) : Form ClockTime where
  | mk {hour minute second : Nat} {hourText minuteText secondText : List Char}
    (hhour : partForm hour hourText) (hminute : partForm minute minuteText)
    (hsecond : partForm second secondText) : ClockForm partForm ⟨hour, minute, second, 0⟩
      (hourText ++ ':' :: (minuteText ++ ':' :: secondText))

/-- Only the character itself is taken for it. -/
theorem eq_cons_of_readChar {c : Char} {cs rest : List Char}
    (h : readChar c cs = some ((), rest)) : cs = c :: rest := by
  unfold readChar at h
  split at h
  · split at h
    · next heq =>
      cases h
      rw [heq]
    · cases h
  · cases h

theorem readChar_cons (c : Char) (cs : List Char) : readChar c (c :: cs) = some ((), cs) :=
  if_pos rfl

section

variable {yearForm : Form Int} {partForm : Form Nat}

/-- A hyphen is no digit, so it ends the year and the month. -/
theorem Agrees.readDate {readYear : Reader Int} {readPart : Reader Nat}
    (hyear : Agrees readYear yearForm) (hpart : Agrees readPart partForm) :
    Agrees (readDate readYear readPart) (DateForm yearForm partForm) where
  sound := fun h => by
    obtain ⟨⟨year, cs⟩, hy, h⟩ := Option.bind_eq_some_iff.1 h
    obtain ⟨⟨⟨⟩, cs⟩, hhyphen, h⟩ := Option.bind_eq_some_iff.1 h
    obtain ⟨⟨month, cs⟩, hm, h⟩ := Option.bind_eq_some_iff.1 h
    obtain ⟨⟨⟨⟩, cs⟩, hhyphen', h⟩ := Option.bind_eq_some_iff.1 h
    obtain ⟨⟨day, cs⟩, hd, h⟩ := Option.bind_eq_some_iff.1 h
    cases h
    obtain ⟨yearText, hyearText, rfl⟩ := hyear.sound hy
    cases eq_cons_of_readChar hhyphen
    obtain ⟨monthText, hmonthText, rfl⟩ := hpart.sound hm
    cases eq_cons_of_readChar hhyphen'
    obtain ⟨dayText, hdayText, rfl⟩ := hpart.sound hd
    exact ⟨_, .mk hyearText hmonthText hdayText, by simp⟩
  complete := fun {a text rest} h hrest => by
    obtain ⟨hy, hm, hd⟩ := h
    have hhyphen : ∀ tail, EndsDigits ('-' :: tail) := endsDigits_cons (by decide)
    simp only [List.append_assoc, List.cons_append, Instant.readDate,
      hyear.complete hy (hhyphen _), hpart.complete hm (hhyphen _), hpart.complete hd hrest,
      readChar_cons, Option.bind_eq_bind, Option.bind_some, Option.pure_def]

/-- A colon is no digit, so it ends the hour and the minute. -/
theorem Agrees.readClock {readPart : Reader Nat} (hpart : Agrees readPart partForm) :
    Agrees (readClock readPart) (ClockForm partForm) where
  sound := fun h => by
    obtain ⟨⟨hour, cs⟩, hh, h⟩ := Option.bind_eq_some_iff.1 h
    obtain ⟨⟨⟨⟩, cs⟩, hcolon, h⟩ := Option.bind_eq_some_iff.1 h
    obtain ⟨⟨minute, cs⟩, hm, h⟩ := Option.bind_eq_some_iff.1 h
    obtain ⟨⟨⟨⟩, cs⟩, hcolon', h⟩ := Option.bind_eq_some_iff.1 h
    obtain ⟨⟨second, cs⟩, hs, h⟩ := Option.bind_eq_some_iff.1 h
    cases h
    obtain ⟨hourText, hhourText, rfl⟩ := hpart.sound hh
    cases eq_cons_of_readChar hcolon
    obtain ⟨minuteText, hminuteText, rfl⟩ := hpart.sound hm
    cases eq_cons_of_readChar hcolon'
    obtain ⟨secondText, hsecondText, rfl⟩ := hpart.sound hs
    exact ⟨_, .mk hhourText hminuteText hsecondText, by simp⟩
  complete := fun {a text rest} h hrest => by
    obtain ⟨hh, hm, hs⟩ := h
    have hcolon : ∀ tail, EndsDigits (':' :: tail) := endsDigits_cons (by decide)
    simp only [List.append_assoc, List.cons_append, Instant.readClock,
      hpart.complete hh (hcolon _), hpart.complete hm (hcolon _), hpart.complete hs hrest,
      readChar_cons, Option.bind_eq_bind, Option.bind_some, Option.pure_def]

end

/-- A date and a time in the loose form. -/
inductive LooseForm : Form (Date × ClockTime) where
  | mk {d : Date} {time : ClockTime} {dateText clockText : List Char}
    (hdate : DateForm LooseYearForm LooseTwoForm d dateText)
    (hclock : ClockForm LooseTwoForm time clockText) :
    LooseForm (d, time) (dateText ++ 'T' :: clockText)

theorem agrees_readLooseDate :
    Agrees (readDate readYear readLooseTwo) (DateForm LooseYearForm LooseTwoForm) :=
  agrees_readYear.readDate agrees_readLooseTwo

theorem agrees_readLoose : Agrees readLoose LooseForm where
  sound := fun h => by
    obtain ⟨⟨d, cs⟩, hd, h⟩ := Option.bind_eq_some_iff.1 h
    obtain ⟨⟨⟨⟩, cs⟩, hmark, h⟩ := Option.bind_eq_some_iff.1 h
    obtain ⟨⟨time, cs⟩, htime, h⟩ := Option.bind_eq_some_iff.1 h
    cases h
    obtain ⟨dateText, hdate, rfl⟩ := agrees_readLooseDate.sound hd
    cases eq_cons_of_readChar hmark
    obtain ⟨clockText, hclock, rfl⟩ := agrees_readLooseTwo.readClock.sound htime
    exact ⟨_, .mk hdate hclock, by simp⟩
  complete := fun {a text rest} h hrest => by
    obtain ⟨hdate, hclock⟩ := h
    have hmark : ∀ tail, EndsDigits ('T' :: tail) := endsDigits_cons (by decide)
    simp only [List.append_assoc, List.cons_append, readLoose,
      agrees_readLooseDate.complete hdate (hmark _),
      agrees_readLooseTwo.readClock.complete hclock hrest, readChar_cons, Option.bind_eq_bind,
      Option.bind_some, Option.pure_def]

/-! ## Offsets

The hours and the minutes of an offset have two digits each, and so it does not matter what stands
between them.  The strict form asks for a colon there; the loose one takes any colons and blanks,
also none. -/

/-- The sign of an offset, and whether it is behind universal time. -/
inductive SignForm : Bool → Char → Prop where
  | plus : SignForm false '+'
  | hyphen : SignForm true '-'
  | minus : SignForm true '−'

/-- An offset in seconds: a sign, two digits of hours, what may stand between, and two digits of
minutes. -/
inductive OffsetForm (between : List Char → Prop) : Form Int where
  | mk {negative : Bool} {sign : Char} {hours minutes : Nat}
    {hoursText gap minutesText : List Char} (hsign : SignForm negative sign)
    (hhours : NumberForm 2 2 hours hoursText) (hgap : between gap)
    (hminutes : NumberForm 2 2 minutes minutesText) (hle : minutes ≤ 59) :
    OffsetForm between
      (if negative then -((hours : Int) * 3600 + minutes * 60) else hours * 3600 + minutes * 60)
      (sign :: (hoursText ++ (gap ++ minutesText)))

/-- Between the hours and the minutes of a strict offset stands a colon. -/
def IsColon (gap : List Char) : Prop := gap = [':']

/-- Between the hours and the minutes of a loose offset stand any colons and blanks. -/
def IsGap (gap : List Char) : Prop := ∀ c ∈ gap, (decide (c = ':') || isBlank c) = true

/-- A strict offset: a letter for none, or hours and minutes with a colon. -/
inductive StrictOffsetForm : Form Int where
  | letter {c : Char} (h : c = 'Z' ∨ c = 'z') : StrictOffsetForm 0 [c]
  | numeric {offset : Int} {text : List Char} (h : OffsetForm IsColon offset text) :
    StrictOffsetForm offset text

/-- A loose offset: blanks, and hours and minutes with any colons and blanks between them. -/
abbrev LooseOffsetForm : Form Int := Blanked (OffsetForm IsGap)

theorem readSign_eq_some_iff {cs rest : List Char} {negative : Bool} :
    readSign cs = some (negative, rest) ↔ ∃ sign, SignForm negative sign ∧ cs = sign :: rest := by
  constructor
  · intro h
    unfold readSign at h
    split at h
    · cases h
      exact ⟨'+', .plus, rfl⟩
    · cases h
      exact ⟨'-', .hyphen, rfl⟩
    · cases h
      exact ⟨'−', .minus, rfl⟩
    · cases h
  · rintro ⟨sign, hsign, rfl⟩
    cases hsign <;> rfl

/-- An offset agrees with its form if what stands between hours and minutes is taken. -/
theorem agrees_readHoursMinutes {separator : Reader Unit} {between : List Char → Prop}
    (hsound : ∀ {cs rest}, separator cs = some ((), rest) → ∃ gap, between gap ∧ cs = gap ++ rest)
    (hcomplete : ∀ {gap n digits}, between gap → digitsValue? digits = some n → ∀ rest,
      separator (gap ++ (digits ++ rest)) = some ((), digits ++ rest)) :
    Agrees (readHoursMinutes separator) (OffsetForm between) where
  sound := fun h => by
    obtain ⟨⟨negative, cs⟩, hsign, h⟩ := Option.bind_eq_some_iff.1 h
    obtain ⟨⟨hours, cs⟩, hhours, h⟩ := Option.bind_eq_some_iff.1 h
    obtain ⟨⟨⟨⟩, cs⟩, hgap, h⟩ := Option.bind_eq_some_iff.1 h
    obtain ⟨⟨minutes, cs⟩, hminutes, h⟩ := Option.bind_eq_some_iff.1 h
    dsimp only at hhours hgap hminutes h
    split at h
    · cases h
    · next hle =>
      cases h
      obtain ⟨sign, hsignForm, rfl⟩ := readSign_eq_some_iff.1 hsign
      obtain ⟨hoursText, hhoursForm, rfl⟩ := (agrees_readNumber 2 2).sound hhours
      obtain ⟨gap, hbetween, rfl⟩ := hsound hgap
      obtain ⟨minutesText, hminutesForm, rfl⟩ := (agrees_readNumber 2 2).sound hminutes
      exact ⟨_, .mk hsignForm hhoursForm hbetween hminutesForm (Nat.le_of_not_lt hle), by simp⟩
  complete := fun {a text rest} h _ => by
    obtain ⟨hsign, hhours, hgap, hminutes, hle⟩ := h
    have hwidth : ∀ {n digits}, NumberForm 2 2 n digits → ∀ rest,
        readNumber 2 2 (digits ++ rest) = some (n, rest) := fun h rest =>
      h.take (.inl (Nat.le_antisymm h.le_most h.least_le))
    simp only [List.cons_append, List.append_assoc, readHoursMinutes,
      readSign_eq_some_iff.2 ⟨_, hsign, rfl⟩, hwidth hhours, hcomplete hgap hminutes.value,
      hwidth hminutes, Option.bind_eq_bind, Option.bind_some]
    rw [if_neg (Nat.not_lt.2 hle)]
    rfl

theorem agrees_readColonOffset : Agrees (readHoursMinutes (readChar ':')) (OffsetForm IsColon) :=
  agrees_readHoursMinutes (fun h => ⟨[':'], rfl, eq_cons_of_readChar h⟩) fun hgap _ _ => by
    rw [hgap]
    exact readChar_cons ':' _

theorem agrees_readGapOffset :
    Agrees (readHoursMinutes fun cs => some ((), cs.dropWhile fun c => c = ':' || isBlank c))
      (OffsetForm IsGap) := by
  refine agrees_readHoursMinutes (fun {cs rest} h => ?_) fun {gap n digits} hgap hvalue rest => ?_
  · cases h
    exact ⟨_, fun c hc => List.all_eq_true.1 List.all_takeWhile c hc,
      List.takeWhile_append_dropWhile.symm⟩
  · obtain ⟨c, tail, rfl, hc⟩ := eq_cons_of_digitsValue? hvalue
    have hstop : (decide (c = ':') || isBlank c) = false := by
      rw [isBlank_of_isDigit hc, decide_eq_false (ne_of_isDigit hc (by decide))]
      rfl
    rw [List.dropWhile_append_of_pos hgap, List.cons_append,
      List.dropWhile_cons_of_neg (by simp [hstop])]

/-- An offset begins with its sign. -/
theorem startsFirm_offsetForm (between : List Char → Prop) : StartsFirm (OffsetForm between) :=
  fun h => by
    obtain ⟨hsign, -, -, -, -⟩ := h
    cases hsign <;> exact ⟨_, _, rfl, by decide⟩

theorem agrees_readLooseOffset : Agrees readLooseOffset LooseOffsetForm :=
  agrees_readGapOffset.blanked (startsFirm_offsetForm IsGap)

theorem agrees_readStrictOffset : Agrees readStrictOffset StrictOffsetForm where
  sound := fun h => by
    unfold readStrictOffset at h
    split at h
    · cases h
      exact ⟨_, .letter (.inl rfl), rfl⟩
    · cases h
      exact ⟨_, .letter (.inr rfl), rfl⟩
    · obtain ⟨text, htext, hcs⟩ := agrees_readColonOffset.sound h
      exact ⟨text, .numeric htext, hcs⟩
  complete := fun {a text rest} h hrest => by
    cases h with
    | letter h => rcases h with rfl | rfl <;> rfl
    | numeric h =>
      have hread := agrees_readColonOffset.complete h hrest
      obtain ⟨hsign, -, -, -, -⟩ := h
      cases hsign <;> exact hread

/-- An offset begins with a letter or a sign, so neither a number nor a fraction goes on into it. -/
theorem StrictOffsetForm.ends {offset : Int} {text : List Char} (h : StrictOffsetForm offset text) :
    EndsDigits text ∧ text.head? ≠ some '.' := by
  cases h with
  | letter h => rcases h with rfl | rfl <;> exact ⟨endsDigits_cons (by decide) _, by decide⟩
  | numeric h =>
    obtain ⟨hsign, -, -, -, -⟩ := h
    cases hsign <;> exact ⟨endsDigits_cons (by decide) _, by rw [List.head?_cons]; decide⟩

theorem endsDigits_of_looseOffsetForm {offset : Int} {text : List Char}
    (h : LooseOffsetForm offset text) : EndsDigits text := by
  cases h with
  | @mk _ blanks text hblanks h =>
    cases blanks with
    | nil =>
      obtain ⟨hsign, -, -, -, -⟩ := h
      cases hsign <;> exact endsDigits_cons (by decide) _
    | cons c blanks =>
      have hc : isBlank c = true := hblanks c List.mem_cons_self
      refine endsDigits_cons (Bool.eq_false_iff.2 fun hdigit => ?_) _
      rw [isBlank_of_isDigit hdigit] at hc
      cases hc

/-! ## Fractions

More than nine digits of a fraction are read, but those after the ninth are dropped.  So a fraction
has many texts, and its value is that of its first nine digits, filled up with zeros. -/

/-- A fraction of a second in nanoseconds: nothing, or a point and digits, of which those after the
ninth count for nothing. -/
inductive NanosForm : Form Nat where
  | none : NanosForm 0 []
  | fraction {n : Nat} {first more : List Char} (hfirst : NumberForm 1 9 n first)
    (hmore : ∀ c ∈ more, isDigit c = true) (hcut : first.length = 9 ∨ more = []) :
    NanosForm (n * 10 ^ (9 - first.length)) ('.' :: (first ++ more))

theorem nanosForm_of_readNanos {cs rest : List Char} {nanos : Nat}
    (h : readNanos cs = some (nanos, rest)) : ∃ text, NanosForm nanos text ∧ cs = text ++ rest := by
  unfold readNanos at h
  split at h
  · obtain ⟨⟨n, tail⟩, hn, h⟩ := Option.bind_eq_some_iff.1 h
    cases h
    obtain ⟨first, hfirst, rfl, hend⟩ := numberForm_of_readNumber hn
    have hlength : (first ++ tail).length - tail.length = first.length := by
      rw [List.length_append, Nat.add_sub_cancel]
    have hcut : first.length = 9 ∨ tail.takeWhile isDigit = [] := hend.imp_right fun hend => by
      cases tail with
      | nil => rfl
      | cons c tail => rw [List.takeWhile_cons, hend c rfl]; rfl
    rw [hlength]
    refine ⟨_, .fraction hfirst (fun c hc => ?_) hcut, ?_⟩
    · exact List.all_eq_true.1 List.all_takeWhile c hc
    · rw [List.cons_append, List.append_assoc, List.takeWhile_append_dropWhile]
  · cases h
    exact ⟨[], .none, rfl⟩

/-- A fraction is read up to its last digit, in front of what is neither a digit nor a point. -/
theorem NanosForm.read {nanos : Nat} {text rest : List Char} (h : NanosForm nanos text)
    (hrest : EndsDigits rest ∧ rest.head? ≠ some '.') :
    readNanos (text ++ rest) = some (nanos, rest) := by
  cases h with
  | none =>
    rw [List.nil_append]
    unfold readNanos
    split
    · exact absurd rfl hrest.2
    · rfl
  | @fraction n first more hfirst hmore hcut =>
    have hread : readNumber 1 9 (first ++ (more ++ rest)) = some (n, more ++ rest) := by
      refine hfirst.take (hcut.imp_right fun hmore => ?_)
      rw [hmore]
      exact hrest.1
    have hdrop : (more ++ rest).dropWhile isDigit = rest := by
      rw [List.dropWhile_append_of_pos hmore]
      cases rest with
      | nil => rfl
      | cons c rest => rw [List.dropWhile_cons, hrest.1 c rfl]; rfl
    rw [List.cons_append, List.append_assoc, readNanos, readFraction, hread, Option.bind_eq_bind,
      Option.bind_some]
    dsimp only
    rw [hdrop, List.length_append, Nat.add_sub_cancel]
    rfl

/-- A fraction begins with a point, if there is one. -/
theorem NanosForm.ends {nanos : Nat} {text rest : List Char} (h : NanosForm nanos text)
    (hrest : EndsDigits rest) : EndsDigits (text ++ rest) := by
  cases h with
  | none => exact hrest
  | fraction _ _ _ => exact endsDigits_cons (by decide) _

/-! ## Whole texts

A text is read as a date, a time and an offset, and then has to end.  Each part is followed by a
character that cannot belong to it: a mark after the date, a point or an offset after the time. -/

/-- What stands between a date and a time in the strict form. -/
def IsMark (c : Char) : Prop := c = 'T' ∨ c = 't' ∨ c = ' '

theorem IsMark.ends {c : Char} (h : IsMark c) (cs : List Char) : EndsDigits (c :: cs) := by
  rcases h with rfl | rfl | rfl <;> exact endsDigits_cons (by decide) _

/-- A date and a time in the strict form, with the offset after them. -/
inductive StrictForm : Form (Date × ClockTime × Int) where
  | mk {d : Date} {time : ClockTime} {nanos : Nat} {offset : Int} {mark : Char}
    {dateText clockText fraction offsetText : List Char}
    (hdate : DateForm FullYearForm (NumberForm 2 2) d dateText)
    (hmark : IsMark mark) (hclock : ClockForm (NumberForm 2 2) time clockText)
    (hnanos : NanosForm nanos fraction) (hoffset : StrictOffsetForm offset offsetText) :
    StrictForm (d, { time with nanos := nanos }, offset)
      (dateText ++ mark :: (clockText ++ (fraction ++ offsetText)))

/-- A date and a time in the loose form, with an offset after them. -/
inductive ZonedForm : Form (Date × ClockTime × Int) where
  | mk {d : Date} {time : ClockTime} {offset : Int} {looseText offsetText : List Char}
    (hloose : LooseForm (d, time) looseText) (hoffset : LooseOffsetForm offset offsetText) :
    ZonedForm (d, time, offset) (looseText ++ offsetText)

/-- An instant at which a clock with an offset shows a date and a time. -/
def Shows (shown : Date × ClockTime × Int) (t : Instant) : Prop :=
  shown.2.2.natAbs ≤ greatestOffset.natAbs ∧ ofLocal? shown.1 shown.2.1 shown.2.2 = some t

/-- What is read of a date, a time and an offset with nothing after them. -/
theorem shows_iff {d : Date} {time : ClockTime} {offset : Int} {t : Instant} :
    (if ([] : List Char).isEmpty && offset.natAbs ≤ greatestOffset.natAbs then
      ofLocal? d time offset else none) = some t ↔ Shows (d, time, offset) t := by
  simp [Shows]

theorem agrees_readStrictDate :
    Agrees (readDate readFullYear (readTwo true)) (DateForm FullYearForm (NumberForm 2 2)) :=
  agrees_readFullYear.readDate (agrees_readNumber 2 2)

theorem agrees_readStrictClock : Agrees (readClock (readTwo true)) (ClockForm (NumberForm 2 2)) :=
  (agrees_readNumber 2 2).readClock

theorem readMark_eq_some_iff {cs rest : List Char} :
    readMark cs = some ((), rest) ↔ ∃ mark, IsMark mark ∧ cs = mark :: rest := by
  constructor
  · intro h
    unfold readMark at h
    split at h <;> cases h
    · exact ⟨'T', .inl rfl, rfl⟩
    · exact ⟨'t', .inr (.inl rfl), rfl⟩
    · exact ⟨' ', .inr (.inr rfl), rfl⟩
  · rintro ⟨mark, rfl | rfl | rfl, rfl⟩ <;> rfl

/-- **The strict form.** -/
theorem readStrict?_eq_some_iff {cs : List Char} {t : Instant} :
    readStrict? cs = some t ↔ ∃ shown, StrictForm shown cs ∧ Shows shown t := by
  constructor
  · intro h
    obtain ⟨⟨d, cs⟩, hd, h⟩ := Option.bind_eq_some_iff.1 h
    obtain ⟨⟨⟨⟩, cs⟩, hmark, h⟩ := Option.bind_eq_some_iff.1 h
    obtain ⟨⟨time, cs⟩, htime, h⟩ := Option.bind_eq_some_iff.1 h
    obtain ⟨⟨nanos, cs⟩, hnanos, h⟩ := Option.bind_eq_some_iff.1 h
    obtain ⟨⟨offset, cs⟩, hoffset, hinstant⟩ := Option.bind_eq_some_iff.1 h
    dsimp only at hmark htime hnanos hoffset hinstant
    cases cs with
    | cons c cs => cases hinstant
    | nil =>
      obtain ⟨dateText, hdateForm, rfl⟩ := agrees_readStrictDate.sound hd
      obtain ⟨mark, hmarkForm, rfl⟩ := readMark_eq_some_iff.1 hmark
      obtain ⟨clockText, hclockForm, rfl⟩ := agrees_readStrictClock.sound htime
      obtain ⟨fraction, hnanosForm, rfl⟩ := nanosForm_of_readNanos hnanos
      obtain ⟨offsetText, hoffsetForm, rfl⟩ := agrees_readStrictOffset.sound hoffset
      rw [List.append_nil]
      exact ⟨_, .mk hdateForm hmarkForm hclockForm hnanosForm hoffsetForm, shows_iff.1 hinstant⟩
  · rintro ⟨shown, ⟨hdate, hmark, hclock, hnanos, hoffset⟩, hshows⟩
    have hread := agrees_readStrictOffset.complete hoffset endsDigits_nil
    rw [List.append_nil] at hread
    simp only [readStrict?, agrees_readStrictDate.complete hdate (hmark.ends _),
      readMark_eq_some_iff.2 ⟨_, hmark, rfl⟩,
      agrees_readStrictClock.complete hclock (hnanos.ends hoffset.ends.1),
      hnanos.read hoffset.ends, hread, Option.bind_eq_bind, Option.bind_some]
    exact shows_iff.2 hshows

/-- **The loose form with an offset.** -/
theorem readOffset?_eq_some_iff {cs : List Char} {t : Instant} :
    readOffset? cs = some t ↔ ∃ shown, ZonedForm shown cs ∧ Shows shown t := by
  constructor
  · intro h
    obtain ⟨⟨⟨d, time⟩, cs⟩, hloose, h⟩ := Option.bind_eq_some_iff.1 h
    obtain ⟨⟨offset, cs⟩, hoffset, hinstant⟩ := Option.bind_eq_some_iff.1 h
    dsimp only at hoffset hinstant
    cases cs with
    | cons c cs => cases hinstant
    | nil =>
      obtain ⟨looseText, hlooseForm, rfl⟩ := agrees_readLoose.sound hloose
      obtain ⟨offsetText, hoffsetForm, rfl⟩ := agrees_readLooseOffset.sound hoffset
      rw [List.append_nil]
      exact ⟨_, .mk hlooseForm hoffsetForm, shows_iff.1 hinstant⟩
  · rintro ⟨shown, ⟨hloose, hoffset⟩, hshows⟩
    have hread := agrees_readLooseOffset.complete hoffset endsDigits_nil
    rw [List.append_nil] at hread
    simp only [readOffset?,
      agrees_readLoose.complete hloose (endsDigits_of_looseOffsetForm hoffset), hread,
      Option.bind_eq_bind, Option.bind_some]
    exact shows_iff.2 hshows

/-- **The loose form without an offset.** -/
theorem readPlain?_eq_some_iff {cs : List Char} {t : Instant} :
    readPlain? cs = some t ↔ ∃ d time, LooseForm (d, time) cs ∧ ofLocal? d time 0 = some t := by
  constructor
  · intro h
    obtain ⟨⟨⟨d, time⟩, cs⟩, hloose, hinstant⟩ := Option.bind_eq_some_iff.1 h
    dsimp only at hinstant
    cases cs with
    | cons c cs => cases hinstant
    | nil =>
      obtain ⟨looseText, hlooseForm, rfl⟩ := agrees_readLoose.sound hloose
      rw [List.append_nil]
      exact ⟨d, time, hlooseForm, hinstant⟩
  · rintro ⟨d, time, hloose, h⟩
    have hread := agrees_readLoose.complete hloose endsDigits_nil
    rw [List.append_nil] at hread
    rw [readPlain?, hread]
    exact h

end ThreatGraph.Instant
