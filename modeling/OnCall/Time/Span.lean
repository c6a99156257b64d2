import OnCall.Text.Digits

/-!
# Lengths of time

* `Span`: a length of time to the nanosecond; it holds up to 2^64 seconds less one nanosecond.
* `Span.times`: a multiple, held at the greatest span.
* `Span.awaited`: how long a span is waited for.
* `Span.text`: the span in the largest unit that it fills, with the decimals that are exact.
-/

namespace OnCall

/-- Nanoseconds in a second. -/
def nanosPerSecond : Nat := 1_000_000_000

/-- A length of time, in nanoseconds. -/
structure Span where
  nanos : Nat
  nanos_lt : nanos < UInt64.size * nanosPerSecond
deriving DecidableEq

namespace Span

/-- The greatest span. -/
def greatest : Span := ⟨UInt64.size * nanosPerSecond - 1, by decide⟩

/-- So many nanoseconds, or the greatest span if that is too long. -/
def ofNanos (n : Nat) : Span :=
  if h : n < UInt64.size * nanosPerSecond then ⟨n, h⟩ else greatest

def ofMillis (n : Nat) : Span := ofNanos (n * 1_000_000)

def ofSeconds (n : Nat) : Span := ofNanos (n * nanosPerSecond)

def zero : Span := ofNanos 0

/-- The whole seconds of a span. -/
def seconds (s : Span) : Nat := s.nanos / nanosPerSecond

/-- The nanoseconds beyond the whole seconds. -/
def subsecond (s : Span) : Nat := s.nanos % nanosPerSecond

theorem ofNanos_nanos (n : Nat) : (ofNanos n).nanos = min n greatest.nanos := by
  have hg : greatest.nanos = UInt64.size * nanosPerSecond - 1 := rfl
  unfold ofNanos
  split <;> simp only [hg] <;> omega

theorem nanos_le_greatest (s : Span) : s.nanos ≤ greatest.nanos := by
  have hg : greatest.nanos = UInt64.size * nanosPerSecond - 1 := rfl
  have := s.nanos_lt
  omega

instance : LE Span := ⟨fun a b => a.nanos ≤ b.nanos⟩

instance (a b : Span) : Decidable (a ≤ b) := inferInstanceAs (Decidable (a.nanos ≤ b.nanos))

/-- The shorter of two spans. -/
def least (a b : Span) : Span := if a ≤ b then a else b

theorem least_nanos (a b : Span) : (least a b).nanos = min a.nanos b.nanos := by
  unfold least
  by_cases h : a ≤ b
  · rw [if_pos h, Nat.min_eq_left (show a.nanos ≤ b.nanos from h)]
  · rw [if_neg h, Nat.min_eq_right (Nat.le_of_not_le h)]

/-- `k` times a span, or the greatest span if that is too long. -/
def times (s : Span) (k : Nat) : Span := ofNanos (s.nanos * k)

theorem times_nanos (s : Span) (k : Nat) :
    (s.times k).nanos = min (s.nanos * k) greatest.nanos := ofNanos_nanos _

/-- The longest wait: thirty years of 365 days. -/
def longestWait : Span := ofSeconds (30 * 365 * 86_400)

/-- How long a span is waited for: no longer than the longest wait. -/
def awaited (s : Span) : Span := s.least longestWait

/-- A whole number of a unit and the exact decimals of the rest, `places` digits at most. -/
private def inUnit (whole places rest : Nat) (unit : String) : String :=
  match Text.shortFraction places rest with
  | [] => toString whole ++ unit
  | decimals => toString whole ++ "." ++ String.ofList decimals ++ unit

/-- A span as text: in seconds, milliseconds, microseconds or nanoseconds, the first of them that
it fills, with the decimals that are exact. -/
def text (s : Span) : String :=
  if nanosPerSecond ≤ s.nanos then inUnit s.seconds 9 s.subsecond "s"
  else if 1_000_000 ≤ s.nanos then inUnit (s.nanos / 1_000_000) 6 (s.nanos % 1_000_000) "ms"
  else if 1_000 ≤ s.nanos then inUnit (s.nanos / 1_000) 3 (s.nanos % 1_000) "µs"
  else toString s.nanos ++ "ns"

end Span

end OnCall
