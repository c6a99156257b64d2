import OnCall.Retry

/-!
# The delays between attempts

The exponential schedule holds its factor in 32 bits, then the product at the greatest span, then
the delay at the longest one.

* `Backoff.nanos_delay`: the greatest span never shows, since no delay is longer than that.
* `Backoff.delay_mono`, `Backoff.delay_le_longest`: delays do not get shorter, and none is longer
  than the longest.
* `Backoff.delay_eq_doubled_iff`: **when a delay is the base, doubled for each attempt after the
  first**, up to the longest. The 32 bits do show, if the longest delay is far enough away.
-/

namespace OnCall

namespace Backoff

theorem factor_of_le {attempt : Nat} (h : attempt ≤ 32) :
    factor attempt = Nat.pow 2 (attempt - 1) :=
  if_pos h

theorem factor_of_lt {attempt : Nat} (h : 32 < attempt) : factor attempt = UInt32.size - 1 :=
  if_neg (Nat.not_le_of_lt h)

/-- The power of two is out of reach of the factor from the 33rd attempt on. -/
theorem factor_lt_pow {attempt : Nat} (h : 32 < attempt) :
    factor attempt < Nat.pow 2 (attempt - 1) := by
  have reached : UInt32.size ≤ Nat.pow 2 (attempt - 1) :=
    Nat.pow_le_pow_right (n := 2) (by decide) (show 32 ≤ attempt - 1 by omega)
  have size : UInt32.size = 4294967296 := rfl
  rw [factor_of_lt h]
  omega

theorem factor_mono {a b : Nat} (h : a ≤ b) : factor a ≤ factor b := by
  by_cases hb : b ≤ 32
  · rw [factor_of_le hb, factor_of_le (Nat.le_trans h hb)]
    exact Nat.pow_le_pow_right (by decide) (by omega)
  · rw [factor_of_lt (Nat.lt_of_not_le hb)]
    by_cases ha : a ≤ 32
    · have small : Nat.pow 2 (a - 1) ≤ Nat.pow 2 31 := Nat.pow_le_pow_right (by decide) (by omega)
      rw [factor_of_le ha]
      exact Nat.le_trans small (by decide)
    · exact Nat.le_of_eq (factor_of_lt (Nat.lt_of_not_le ha))

/-- **What a delay comes to**: the product is held at the greatest span, but then the longest delay
is no longer than that. -/
theorem nanos_delay (base longest : Span) (attempt : Nat) :
    ((exponential base longest).delay attempt).nanos =
      min (base.nanos * factor attempt) longest.nanos := by
  have := longest.nanos_le_greatest
  rw [nanos_delay_exponential, Span.times_nanos]
  omega

/-- **Delays do not get shorter.** -/
theorem delay_mono (base longest : Span) {a b : Nat} (h : a ≤ b) :
    (exponential base longest).delay a ≤ (exponential base longest).delay b := by
  have products : base.nanos * factor a ≤ base.nanos * factor b :=
    Nat.mul_le_mul_left _ (factor_mono h)
  show Span.nanos _ ≤ Span.nanos _
  rw [nanos_delay, nanos_delay]
  omega

theorem delay_le_longest (base longest : Span) (attempt : Nat) :
    (exponential base longest).delay attempt ≤ longest := by
  show Span.nanos _ ≤ Span.nanos _
  rw [nanos_delay]
  exact Nat.min_le_right ..

/-- **When a delay is the base, doubled for each attempt after the first**, up to the longest one:
for the first 32 attempts; and after them where the base is nothing, or where the factor that is
held already reaches the longest delay. In every other case the factor stays what it is, and the
delay is shorter than that. -/
theorem delay_eq_doubled_iff (base longest : Span) (attempt : Nat) :
    let delay := ((exponential base longest).delay attempt).nanos
    let doubled := min (base.nanos * Nat.pow 2 (attempt - 1)) longest.nanos
    (delay = doubled ↔
      attempt ≤ 32 ∨ base.nanos = 0 ∨ longest.nanos ≤ base.nanos * (UInt32.size - 1)) ∧
    (delay ≠ doubled → delay = base.nanos * (UInt32.size - 1) ∧ delay < doubled) := by
  intro delay doubled
  have delayed : delay = min (base.nanos * factor attempt) longest.nanos := nanos_delay ..
  by_cases early : attempt ≤ 32
  · have same : delay = doubled := by rw [delayed, factor_of_le early]
    exact ⟨⟨fun _ => .inl early, fun _ => same⟩, fun other => absurd same other⟩
  · have late : 32 < attempt := Nat.lt_of_not_le early
    rw [factor_of_lt late] at delayed
    by_cases nothing : base.nanos = 0
    · have same : delay = doubled := by
        rw [delayed]
        show _ = min (base.nanos * Nat.pow 2 (attempt - 1)) longest.nanos
        rw [nothing, Nat.zero_mul, Nat.zero_mul]
      exact ⟨⟨fun _ => .inr (.inl nothing), fun _ => same⟩, fun other => absurd same other⟩
    · have more : base.nanos * (UInt32.size - 1) < base.nanos * Nat.pow 2 (attempt - 1) :=
        Nat.mul_lt_mul_of_pos_left (factor_of_lt late ▸ factor_lt_pow late)
          (Nat.pos_of_ne_zero nothing)
      have doubled_eq : doubled = min (base.nanos * Nat.pow 2 (attempt - 1)) longest.nanos := rfl
      omega

/-- At the 33rd attempt a delay of one nanosecond should have become 2^32 of them; it is one
less. -/
theorem delay_ne_doubled :
    let base := Span.ofNanos 1
    let longest := Span.ofSeconds 10
    ((exponential base longest).delay 33).nanos = 4294967295 ∧
      min (base.nanos * Nat.pow 2 (33 - 1)) longest.nanos = 4294967296 := by
  decide +kernel

end Backoff

end OnCall
