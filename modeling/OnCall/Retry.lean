import OnCall.Failure.Basic

/-!
# Retrying

* `Backoff`: how long to wait after a failed attempt. The exponential schedule doubles, with a
  factor that is held in 32 bits, up to a longest delay.
* `RetryPolicy`: the number of attempts and the schedule between them.
* `RetryPolicy.run`: runs an operation until it succeeds, until a failure is not worth another
  attempt, or until the attempts are used up.
-/

namespace OnCall

/-- The delays between attempts. -/
inductive Backoff where
  /-- The same delay after every failed attempt. -/
  | fixed (delay : Span)
  /-- `base` after the first failed attempt, twice as long after each further one, and never longer
  than `longest`. -/
  | exponential (base longest : Span)
deriving DecidableEq

namespace Backoff

/-- The factor of the exponential schedule: doubled with every attempt, and held at the greatest
number of 32 bits. -/
def factor (attempt : Nat) : Nat :=
  if attempt ≤ 32 then Nat.pow 2 (attempt - 1) else UInt32.size - 1

/-- The delay after a failed attempt; attempts count from one. -/
def delay : Backoff → Nat → Span
  | fixed delay, _ => delay
  | exponential base longest, attempt => (base.times (factor attempt)).least longest

theorem nanos_delay_exponential (base longest : Span) (attempt : Nat) :
    ((exponential base longest).delay attempt).nanos =
      min (base.times (factor attempt)).nanos longest.nanos := Span.least_nanos _ _

end Backoff

/-- How often to try, and how long to wait in between. -/
structure RetryPolicy where
  /-- The greatest number of attempts, the first one included; there is always one. -/
  maxAttempts : Nat
  backoff : Backoff
deriving DecidableEq

namespace RetryPolicy

/-- Three attempts, with one second, two seconds, and so on up to ten between them. -/
def standard : RetryPolicy := ⟨3, .exponential (.ofSeconds 1) (.ofSeconds 10)⟩

/-- A single attempt. -/
def once : RetryPolicy := ⟨1, .fixed .zero⟩

/-- The number of attempts that are made at most. -/
def attempts (p : RetryPolicy) : Nat := max 1 p.maxAttempts

theorem one_le_attempts (p : RetryPolicy) : 1 ≤ p.attempts := Nat.le_max_left _ _

section Run

variable {m : Type → Type} [Monad m] {α : Type}

/-- The attempts from number `attempt` on, when `left` more may follow it. -/
def runFrom (backoff : Backoff) (pause : Span → m Unit) (again : Failure → m Bool)
    (operation : m (Except Failure α)) (attempt : Nat) : Nat → m (Except Failure α)
  | 0 => operation
  | left + 1 => do
    match ← operation with
    | .ok value => return .ok value
    | .error failure =>
      if ← again failure then
        pause (backoff.delay attempt)
        runFrom backoff pause again operation (attempt + 1) left
      else return .error failure

/-- Run an operation under the policy. After a failed attempt that is not the last, `again` says
whether another one is worth it; then the schedule's delay is waited. The outcome is that of the
last attempt made. -/
def run (p : RetryPolicy) (pause : Span → m Unit) (again : Failure → m Bool)
    (operation : m (Except Failure α)) : m (Except Failure α) :=
  runFrom p.backoff pause again operation 1 (p.attempts - 1)

end Run

end RetryPolicy

end OnCall
