import ThreatGraph.Instant.Reader
import ThreatGraph.Proofs.Text.Numeral

/-!
# What is read as an instant

An instant that was read from any text lies in the range of years, and is a leap second only at the
end of a minute (`Instant.isPoint_of_parse?`).  This holds since an offset is a whole number of
minutes, and a fraction is less than a second.

What an instant is made from is a date, a time and an offset.  `Instant.ofLocal?_eq_some_iff` says
exactly when there is one, and which; the readers are then looked at only for the offset and for the
fraction of a second.
-/

set_option autoImplicit false

namespace ThreatGraph.Instant

/-! ## Numbers

A number is read from digits up to some number of places.  How great it can be follows from the
number of characters that were taken, and it is in this form that it is used: the fraction of a
second is brought to nanoseconds with a power of ten that depends on the digits there are. -/

section

variable {least most n : Nat} {digits rest cs : List Char}

/-- A number is bounded by the number of its digits. -/
theorem lt_of_digitsValue? (h : digitsValue? digits = some n) : n < 10 ^ digits.length := by
  unfold digitsValue? at h
  split at h
  · cases h
  · have hlt := lt_of_digitsFrom? h (show 0 < 10 ^ 0 by decide)
    rwa [Nat.zero_add] at hlt

/-- A number that is read has no more digits than were taken, and no more than may be. -/
theorem lt_of_readNumber (h : readNumber least most cs = some (n, rest)) :
    n < 10 ^ (cs.length - rest.length) ∧ cs.length - rest.length ≤ most := by
  rw [readNumber] at h
  split at h
  · cases h
  · obtain ⟨value, hvalue, hpair⟩ := Option.map_eq_some_iff.1 h
    obtain ⟨rfl, rfl⟩ := Prod.mk.inj hpair
    generalize hrun : (cs.take most).takeWhile isDigit = run at hvalue ⊢
    have hle : run.length ≤ min most cs.length := by
      rw [← hrun, ← List.length_take]
      exact (List.takeWhile_sublist _).length_le
    have hlength : cs.length - (cs.drop run.length).length = run.length := by
      rw [List.length_drop]
      omega
    rw [hlength]
    exact ⟨lt_of_digitsValue? hvalue, by omega⟩

end

/-! ## What is read

A leap second is shown by a clock as the sixtieth second of a minute, and kept as the one before
with more than a second of nanoseconds.  Whole minutes of an offset leave the seconds of a minute
where they are, and so the clock and the instant agree on what ends a minute. -/

/-- An instant that is read: it is in the range, and a leap second only at the end of a minute. -/
structure IsPoint (t : Instant) : Prop where
  range : inRange t.seconds = true
  nanos_lt : t.nanos < 2 * nanosPerSecond
  leap : nanosPerSecond ≤ t.nanos → t.seconds % 60 = 59

/-- Whole seconds are no leap seconds. -/
theorem isPoint_of_ofUnix? {seconds : Int} {t : Instant} (h : ofUnix? seconds = some t) :
    t.IsPoint := by
  rw [ofUnix?] at h
  split at h
  · next hrange =>
    cases h
    exact ⟨hrange, Nat.zero_lt_succ _, fun hle => absurd hle (by simp [nanosPerSecond])⟩
  · cases h

/-- The instant at which a clock shows a date and a time. -/
theorem ofLocal?_eq_some_iff {date : Date} {time : ClockTime} {offset : Int} {t : Instant} :
    ofLocal? date time offset = some t ↔ date.isValid = true ∧ time.isValid = true ∧
      (yearRange.1 ≤ date.year ∧ date.year ≤ yearRange.2) ∧ inRange t.seconds = true ∧
      t.seconds = date.toDays * secondsPerDay + time.hour * 3600 + time.minute * 60 +
        (if time.second = 60 then 59 else time.second : Nat) - offset ∧
      t.nanos = if time.second = 60 then time.nanos + nanosPerSecond else time.nanos := by
  obtain ⟨seconds, nanos⟩ := t
  rw [ofLocal?]
  dsimp only
  generalize (if time.second = 60 then 59 else time.second) = second
  generalize (if time.second = 60 then time.nanos + nanosPerSecond else time.nanos) = total
  split
  · next hvalid =>
    simp only [Bool.and_eq_true, decide_eq_true_eq] at hvalid
    obtain ⟨⟨⟨hdate, htime⟩, hfirst⟩, hlast⟩ := hvalid
    simp only [hdate, htime, hfirst, hlast, true_and]
    split
    · next hrange =>
      rw [Option.some_inj, Instant.mk.injEq]
      constructor
      · rintro ⟨rfl, rfl⟩
        exact ⟨hrange, rfl, rfl⟩
      · exact fun h => ⟨h.2.1.symm, h.2.2.symm⟩
    · next hrange =>
      refine ⟨nofun, fun h => absurd h.1 ?_⟩
      rw [h.2.1]
      exact hrange
  · next hinvalid =>
    simp only [Bool.and_eq_true, decide_eq_true_eq, not_and] at hinvalid
    exact ⟨nofun, fun ⟨hdate, htime, hyear, _⟩ =>
      absurd hyear.2 (hinvalid ⟨⟨hdate, htime⟩, hyear.1⟩)⟩

/-- What is read for a date and a time that a clock shows some whole minutes ahead. -/
theorem isPoint_of_ofLocal? {date : Date} {time : ClockTime} {offset : Int} {t : Instant}
    (hnanos : time.nanos < nanosPerSecond) (hoffset : offset % 60 = 0)
    (h : ofLocal? date time offset = some t) : t.IsPoint := by
  obtain ⟨-, -, -, hrange, hseconds, hnanos'⟩ := ofLocal?_eq_some_iff.1 h
  rw [secondsPerDay] at hseconds
  refine ⟨hrange, ?_, fun hle => ?_⟩
  · split at hnanos' <;> omega
  · split at hnanos'
    · next hleap =>
      rw [if_pos hleap] at hseconds
      omega
    · omega

/-- An offset is a whole number of minutes. -/
theorem offset_of_readHoursMinutes {separator : Reader Unit} {cs rest : List Char} {offset : Int}
    (h : readHoursMinutes separator cs = some (offset, rest)) : offset % 60 = 0 := by
  rw [readHoursMinutes] at h
  obtain ⟨⟨negative, cs⟩, -, h⟩ := Option.bind_eq_some_iff.1 h
  obtain ⟨⟨hours, cs⟩, -, h⟩ := Option.bind_eq_some_iff.1 h
  obtain ⟨⟨⟨⟩, cs⟩, -, h⟩ := Option.bind_eq_some_iff.1 h
  obtain ⟨⟨minutes, cs⟩, -, h⟩ := Option.bind_eq_some_iff.1 h
  dsimp only at h
  split at h
  · cases h
  · obtain ⟨rfl, -⟩ := Prod.mk.inj (Option.some.inj h)
    split <;> omega

/-- The letter of an offset of nothing stands for no minutes at all. -/
theorem offset_of_readStrictOffset {cs rest : List Char} {offset : Int}
    (h : readStrictOffset cs = some (offset, rest)) : offset % 60 = 0 := by
  unfold readStrictOffset at h
  split at h
  · cases h
    rfl
  · cases h
    rfl
  · exact offset_of_readHoursMinutes h

/-- A fraction of a second is less than a second. -/
theorem lt_of_readFraction {cs rest : List Char} {nanos : Nat}
    (h : readFraction cs = some (nanos, rest)) : nanos < nanosPerSecond := by
  rw [readFraction] at h
  obtain ⟨⟨n, after⟩, hn, h⟩ := Option.bind_eq_some_iff.1 h
  obtain ⟨rfl, -⟩ := Prod.mk.inj (Option.some.inj h)
  obtain ⟨hlt, hle⟩ := lt_of_readNumber hn
  calc n * Nat.pow 10 (9 - (cs.length - after.length))
      < 10 ^ (cs.length - after.length) * 10 ^ (9 - (cs.length - after.length)) :=
        Nat.mul_lt_mul_of_pos_right hlt (Nat.pow_pos (by decide))
    _ = 10 ^ 9 := by rw [← Nat.pow_add, Nat.add_sub_cancel' hle]

/-- Where there is no fraction there are no nanoseconds. -/
theorem lt_of_readNanos {cs rest : List Char} {nanos : Nat}
    (h : readNanos cs = some (nanos, rest)) : nanos < nanosPerSecond := by
  unfold readNanos at h
  split at h
  · exact lt_of_readFraction h
  · cases h
    decide

/-- A clock that is read shows whole seconds.  The fraction is read after it. -/
theorem nanos_of_readClock {readPart : Reader Nat} {cs rest : List Char} {time : ClockTime}
    (h : readClock readPart cs = some (time, rest)) : time.nanos = 0 := by
  rw [readClock] at h
  obtain ⟨⟨hour, cs⟩, -, h⟩ := Option.bind_eq_some_iff.1 h
  obtain ⟨⟨⟨⟩, cs⟩, -, h⟩ := Option.bind_eq_some_iff.1 h
  obtain ⟨⟨minute, cs⟩, -, h⟩ := Option.bind_eq_some_iff.1 h
  obtain ⟨⟨⟨⟩, cs⟩, -, h⟩ := Option.bind_eq_some_iff.1 h
  obtain ⟨⟨second, cs⟩, -, h⟩ := Option.bind_eq_some_iff.1 h
  cases h
  rfl

theorem nanos_of_readLoose {cs rest : List Char} {date : Date} {time : ClockTime}
    (h : readLoose cs = some ((date, time), rest)) : time.nanos = 0 := by
  rw [readLoose] at h
  obtain ⟨⟨date', cs⟩, -, h⟩ := Option.bind_eq_some_iff.1 h
  obtain ⟨⟨⟨⟩, cs⟩, -, h⟩ := Option.bind_eq_some_iff.1 h
  obtain ⟨⟨time', cs⟩, hclock, h⟩ := Option.bind_eq_some_iff.1 h
  cases h
  exact nanos_of_readClock hclock

theorem isPoint_of_readStrict? {cs : List Char} {t : Instant} (h : readStrict? cs = some t) :
    t.IsPoint := by
  rw [readStrict?] at h
  obtain ⟨⟨date, cs⟩, -, h⟩ := Option.bind_eq_some_iff.1 h
  obtain ⟨⟨⟨⟩, cs⟩, -, h⟩ := Option.bind_eq_some_iff.1 h
  obtain ⟨⟨time, cs⟩, -, h⟩ := Option.bind_eq_some_iff.1 h
  obtain ⟨⟨nanos, cs⟩, hnanos, h⟩ := Option.bind_eq_some_iff.1 h
  obtain ⟨⟨offset, cs⟩, hoffset, h⟩ := Option.bind_eq_some_iff.1 h
  dsimp only at hnanos hoffset h
  split at h
  · exact isPoint_of_ofLocal? (lt_of_readNanos hnanos) (offset_of_readStrictOffset hoffset) h
  · cases h

theorem isPoint_of_readOffset? {cs : List Char} {t : Instant} (h : readOffset? cs = some t) :
    t.IsPoint := by
  rw [readOffset?] at h
  obtain ⟨⟨⟨date, time⟩, cs⟩, hloose, h⟩ := Option.bind_eq_some_iff.1 h
  obtain ⟨⟨offset, rest⟩, hoffset, h⟩ := Option.bind_eq_some_iff.1 h
  dsimp only at hoffset h
  split at h
  · refine isPoint_of_ofLocal? ?_ (offset_of_readHoursMinutes hoffset) h
    rw [nanos_of_readLoose hloose]
    decide
  · cases h

theorem isPoint_of_readPlain? {cs : List Char} {t : Instant} (h : readPlain? cs = some t) :
    t.IsPoint := by
  rw [readPlain?] at h
  obtain ⟨⟨⟨date, time⟩, cs⟩, hloose, h⟩ := Option.bind_eq_some_iff.1 h
  dsimp only at h
  split at h
  · refine isPoint_of_ofLocal? ?_ rfl h
    rw [nanos_of_readLoose hloose]
    decide
  · cases h

/-- **What is read of any text.**  It is in the range, and a leap second only at the end of a
minute. -/
theorem isPoint_of_parse? {s : String} {t : Instant} (h : parse? s = some t) : t.IsPoint := by
  rw [parse?] at h
  split at h
  · exact isPoint_of_ofUnix? h
  · simp only [Option.orElse_eq_orElse, Option.orElse_eq_or, Option.or_eq_some_iff] at h
    rcases h with h | ⟨-, h⟩
    · exact isPoint_of_readStrict? h
    · rcases h with h | ⟨-, h⟩
      · exact isPoint_of_readOffset? h
      · exact isPoint_of_readPlain? h

end ThreatGraph.Instant
