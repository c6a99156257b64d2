/-!
# The calendar

Days are counted from 1970-01-01 in the proleptic Gregorian calendar.

* `Date`: a year, month and day; `Date.Valid`: the day exists.
* `Date.dayNumber` and `Date.ofDayNumber`: a date as a day number and back. Every day number has a
  date that exists, and that date has this day number.
-/

namespace OnCall

/-- Whether a year has 366 days. -/
def leapYear (year : Int) : Bool :=
  year % 4 = 0 && (year % 100 ≠ 0 || year % 400 = 0)

/-- The days of each month of a year, January first. -/
def monthLengths (leap : Bool) : List Nat :=
  [31, if leap then 29 else 28, 31, 30, 31, 30, 31, 31, 30, 31, 30, 31]

/-- The days of some months together. -/
def totalDays : List Nat → Nat
  | [] => 0
  | length :: others => length + totalDays others

/-- A date of the proleptic Gregorian calendar. -/
structure Date where
  year : Int
  month : Nat
  day : Nat
deriving DecidableEq

/-- The number of days before the first of January of a year, counted from 1970-01-01. -/
def yearStart (year : Int) : Int :=
  365 * (year - 1970) + ((year - 1) / 4 - (year - 1) / 100 + (year - 1) / 400) - 477

/-- A year is as long as its months. -/
theorem yearStart_succ (y : Int) :
    yearStart (y + 1) = yearStart y + totalDays (monthLengths (leapYear y)) := by
  have hs : ∀ b, totalDays (monthLengths b) = if b then 366 else 365 := by decide
  rw [hs]
  unfold yearStart leapYear
  by_cases h4 : y % 4 = 0 <;> by_cases h100 : y % 100 = 0 <;> by_cases h400 : y % 400 = 0 <;>
    simp [h4, h100, h400] <;> omega

/-- A later year begins later. -/
theorem yearStart_mono {a b : Int} (h : a ≤ b) : yearStart a ≤ yearStart b := by
  unfold yearStart
  rcases Int.lt_or_eq_of_le h with h | rfl
  · omega
  · exact Int.le_refl _

/-- The year that a day number falls in. By the mean length of a year it is guessed within a year,
and the guess is put right. -/
def yearOf (days : Int) : Int :=
  let guess := (days * 400 + 287_812_000) / 146_097
  if days < yearStart guess then guess - 1
  else if yearStart (guess + 1) ≤ days then guess + 1
  else guess

/-- The year of a day has begun by then. -/
theorem yearStart_yearOf_le (days : Int) : yearStart (yearOf days) ≤ days := by
  unfold yearOf yearStart
  simp only
  split
  · omega
  · split <;> omega

/-- The year of a day ends after it. -/
theorem lt_yearStart_yearOf (days : Int) : days < yearStart (yearOf days + 1) := by
  unfold yearOf
  simp only
  split
  next h => rwa [Int.sub_add_cancel]
  next =>
    split
    · unfold yearStart
      omega
    next h => exact Int.not_le.mp h

/-- Split a day of the year, counted from zero, into a month and a day, both counted from one. -/
def monthDay (month : Nat) : List Nat → Nat → Nat × Nat
  | [], day => (month, day + 1)
  | length :: others, day =>
    if day < length then (month, day + 1) else monthDay (month + 1) others (day - length)

/-- The month and the day that a day of the year splits into: the days of the months before and
the day make up the day of the year again. -/
theorem monthDay_splits (month : Nat) (lengths : List Nat) (day : Nat)
    (h : day < totalDays lengths) :
    ∃ before length, (monthDay month lengths day).1 = month + before ∧
      lengths[before]? = some length ∧ 1 ≤ (monthDay month lengths day).2 ∧
      (monthDay month lengths day).2 ≤ length ∧
      totalDays (lengths.take before) + (monthDay month lengths day).2 = day + 1 := by
  induction lengths generalizing month day with
  | nil => exact absurd h (Nat.not_lt_zero _)
  | cons length others ih =>
    rw [totalDays] at h
    rw [monthDay]
    by_cases hd : day < length
    · rw [if_pos hd]
      exact ⟨0, length, by simp, rfl, by simp, hd, by simp [totalDays]⟩
    · rw [if_neg hd]
      obtain ⟨before, last, h₁, h₂, h₃, h₄, h₅⟩ := ih (month + 1) (day - length) (by omega)
      refine ⟨before + 1, last, by omega, by simpa using h₂, h₃, h₄, ?_⟩
      rw [List.take_succ_cons, totalDays]
      omega

namespace Date

/-- The date exists. -/
def Valid (d : Date) : Prop :=
  1 ≤ d.day ∧ 1 ≤ d.month ∧
    ∃ length, (monthLengths (leapYear d.year))[d.month - 1]? = some length ∧ d.day ≤ length

/-- Whether the date exists. -/
def exists? (d : Date) : Bool :=
  1 ≤ d.day && 1 ≤ d.month &&
    (monthLengths (leapYear d.year))[d.month - 1]?.any fun length => d.day ≤ length

theorem exists?_iff (d : Date) : d.exists? = true ↔ d.Valid := by
  unfold exists? Valid
  cases (monthLengths (leapYear d.year))[d.month - 1]? <;> simp [and_assoc]

theorem Valid.month_le {d : Date} (h : d.Valid) : d.month ≤ 12 := by
  obtain ⟨_, _, length, h, _⟩ := h
  have := (List.getElem?_eq_some_iff.mp h).1
  simp only [monthLengths, List.length_cons, List.length_nil] at this
  omega

theorem Valid.day_le {d : Date} (h : d.Valid) : d.day ≤ 31 := by
  obtain ⟨_, _, length, h, hle⟩ := h
  have hmem := List.mem_of_getElem? h
  have : ∀ b, ∀ n ∈ monthLengths b, n ≤ 31 := by decide
  exact Nat.le_trans hle (this _ _ hmem)

/-- Days since 1970-01-01. -/
def dayNumber (d : Date) : Int :=
  yearStart d.year +
    totalDays ((monthLengths (leapYear d.year)).take (d.month - 1)) + (d.day : Int) - 1

/-- The date of a day number. -/
def ofDayNumber (days : Int) : Date :=
  let year := yearOf days
  let (month, day) := monthDay 1 (monthLengths (leapYear year)) (days - yearStart year).toNat
  ⟨year, month, day⟩

/-- Every day has a date that exists. -/
theorem valid_ofDayNumber (days : Int) : (ofDayNumber days).Valid := by
  have h₁ := yearStart_yearOf_le days
  have h₂ := lt_yearStart_yearOf days
  rw [yearStart_succ] at h₂
  obtain ⟨before, length, hm, hl, hpos, hle, _⟩ :=
    monthDay_splits 1 (monthLengths (leapYear (yearOf days))) (days - yearStart (yearOf days)).toNat
      (by omega)
  refine ⟨hpos, ?_, length, ?_, hle⟩
  · simp only [ofDayNumber, hm]
    omega
  · simpa only [ofDayNumber, hm, Nat.add_sub_cancel_left] using hl

/-- A day is the day of its date. -/
theorem dayNumber_ofDayNumber (days : Int) : (ofDayNumber days).dayNumber = days := by
  have h₁ := yearStart_yearOf_le days
  have h₂ := lt_yearStart_yearOf days
  rw [yearStart_succ] at h₂
  obtain ⟨before, length, hm, _, _, _, hsum⟩ :=
    monthDay_splits 1 (monthLengths (leapYear (yearOf days))) (days - yearStart (yearOf days)).toNat
      (by omega)
  unfold ofDayNumber dayNumber
  simp only [hm, Nat.add_sub_cancel_left]
  omega

end Date

end OnCall
