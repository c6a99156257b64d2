import OnCall.Time.Span

/-!
# Moments in time

* `Instant`: a second since 1970-01-01 and the nanoseconds beyond it. A leap second is held as a
  second number of nanoseconds above the second before it, so the nanoseconds may reach two
  seconds, but only in the last second of a minute.
* The order is by second, then by nanosecond, so a leap second lies before the second after it.
* `Instant.since`: the nanoseconds from one moment to another, a leap second between them
  included.
* `Instant.back`: the moment so long before another one, held at the earliest moment.
-/

namespace OnCall

/-- A moment in time, from the first second of the year -262143 to the last of 262142. -/
structure Instant where
  second : Int
  nano : Nat
  earliest_le : -8_334_601_228_800 ≤ second
  le_latest : second ≤ 8_210_266_876_799
  nano_lt : nano < 2 * nanosPerSecond
  leap_last : nanosPerSecond ≤ nano → second % 60 = 59
deriving DecidableEq

namespace Instant

/-- The first moment there is. -/
def earliest : Instant :=
  ⟨-8_334_601_228_800, 0, by decide, by decide, by decide, by decide⟩

/-- The moment of a second and the nanoseconds beyond it, if it is between the first and the
last. -/
def of? (second : Int) (nano : Nat) : Option Instant :=
  if h : (-8_334_601_228_800 ≤ second ∧ second ≤ 8_210_266_876_799) ∧
      nano < 2 * nanosPerSecond ∧ (nanosPerSecond ≤ nano → second % 60 = 59)
  then some ⟨second, nano, h.1.1, h.1.2, h.2.1, h.2.2⟩
  else none

/-- The start of 1970. -/
def epoch : Instant := ⟨0, 0, by decide, by decide, by decide, by decide⟩

/-- A moment is what its second and its nanoseconds make. -/
theorem of?_self (a : Instant) : of? a.second a.nano = some a := by
  rw [of?, dif_pos ⟨⟨a.earliest_le, a.le_latest⟩, a.nano_lt, a.leap_last⟩]

theorem of?_eq_some {t : Instant} {second : Int} {nano : Nat} (hs : second = t.second)
    (hn : nano = t.nano) : of? second nano = some t := by
  rw [hs, hn, of?_self]

/-! ## 1. Order -/

instance : LE Instant :=
  ⟨fun a b => a.second < b.second ∨ (a.second = b.second ∧ a.nano ≤ b.nano)⟩

instance (a b : Instant) : Decidable (a ≤ b) :=
  inferInstanceAs (Decidable (_ ∨ _))

theorem le_def {a b : Instant} :
    a ≤ b ↔ a.second < b.second ∨ (a.second = b.second ∧ a.nano ≤ b.nano) := Iff.rfl

theorem le_refl (a : Instant) : a ≤ a := .inr ⟨rfl, Nat.le_refl _⟩

theorem le_trans {a b c : Instant} (h₁ : a ≤ b) (h₂ : b ≤ c) : a ≤ c := by
  rw [le_def] at h₁ h₂ ⊢
  omega

theorem le_total (a b : Instant) : a ≤ b ∨ b ≤ a := by
  simp only [le_def]
  omega

theorem earliest_le' (a : Instant) : earliest ≤ a := by
  have h := a.earliest_le
  rw [le_def]
  simp only [earliest]
  omega

/-- Whether the moment is a leap second. -/
def isLeap (a : Instant) : Bool := nanosPerSecond ≤ a.nano

/-! ## 2. Distances -/

/-- The second of the day. -/
def clock (a : Instant) : Int := a.second % 86_400

theorem clock_bounds (t : Instant) : 0 ≤ t.clock ∧ t.clock < 86_400 := by
  unfold clock
  omega

/-- The nanoseconds from `b` to `a`, negative if `a` lies before `b`. A leap second counts by the
times of day: one second more if it is `b` and `a` is later in its day, one less if it is `a` and
`a` is earlier in its day. -/
def since (a b : Instant) : Int :=
  let leaps : Int :=
    if b.clock < a.clock ∧ b.isLeap then 1
    else if a.clock < b.clock ∧ a.isLeap then -1
    else 0
  (a.second - b.second + leaps) * nanosPerSecond + ((a.nano : Int) - b.nano)

/-- The moment so many seconds and nanoseconds before `a`, or the earliest moment. Going back a
second or more leaves a leap second as the start of the second after it. -/
def back (a : Instant) (span : Span) : Instant :=
  let (second, nano) : Int × Int :=
    if a.isLeap then
      if 1 ≤ span.seconds then (a.second + 1, (a.nano : Int) - nanosPerSecond)
      else (a.second, a.nano)
    else (a.second, a.nano)
  let nano := nano - span.subsecond
  let second := second - span.seconds
  let (second, nano) := if nano < 0 then (second - 1, nano + nanosPerSecond) else (second, nano)
  (of? second nano.toNat).getD earliest

theorem of?_getD_le {a : Instant} {second : Int} {nano : Nat}
    (h : second < a.second ∨ second = a.second ∧ nano ≤ a.nano) :
    (of? second nano).getD earliest ≤ a := by
  unfold of?
  split
  · exact le_def.mpr h
  · exact earliest_le' a

/-- Going back does not lead into the future. -/
theorem back_le (a : Instant) (span : Span) : a.back span ≤ a := by
  have whole : nanosPerSecond = 1_000_000_000 := rfl
  have leap : a.isLeap = true ↔ nanosPerSecond ≤ a.nano := decide_eq_true_iff
  have sub : span.subsecond < nanosPerSecond := Nat.mod_lt _ (by decide)
  by_cases isLeap : a.isLeap = true
  · have late := leap.mp isLeap
    by_cases far : 1 ≤ span.seconds
    · simp only [back, if_pos isLeap, if_pos far]
      split <;> exact of?_getD_le (by simp only; omega)
    · simp only [back, if_pos isLeap, if_neg far]
      split <;> exact of?_getD_le (by simp only; omega)
  · simp only [back, if_neg isLeap]
    split <;> exact of?_getD_le (by simp only; omega)

end Instant

end OnCall
