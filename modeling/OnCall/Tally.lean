import OnCall.Json.Basic

/-!
# Counters

* `Counter`: what is counted.
* `Tally`: how often each counter was bumped.

A counter is a natural number. One that is kept in a word of 64 bits shows the same as long as its
total stays below 2^64; beyond that it wraps, which is not modelled.
-/

namespace OnCall

/-- What is counted. -/
inductive Counter where
  | alertsHandled
  | restrictionsSet
  | restrictionsRemoved
  | advisoriesSent
  | escalations
  | silences
  | infrastructureRetries
deriving DecidableEq

/-- The values of the counters, as totals that stay below 2^64. -/
structure Tally where
  alertsHandled : Nat
  restrictionsSet : Nat
  restrictionsRemoved : Nat
  advisoriesSent : Nat
  escalations : Nat
  silences : Nat
  infrastructureRetries : Nat
deriving DecidableEq

namespace Tally

def zero : Tally := ⟨0, 0, 0, 0, 0, 0, 0⟩

/-- The value of a counter. -/
def get (t : Tally) : Counter → Nat
  | .alertsHandled => t.alertsHandled
  | .restrictionsSet => t.restrictionsSet
  | .restrictionsRemoved => t.restrictionsRemoved
  | .advisoriesSent => t.advisoriesSent
  | .escalations => t.escalations
  | .silences => t.silences
  | .infrastructureRetries => t.infrastructureRetries

/-- Add one to a counter. -/
def bump (c : Counter) (t : Tally) : Tally :=
  match c with
  | .alertsHandled => { t with alertsHandled := t.alertsHandled + 1 }
  | .restrictionsSet => { t with restrictionsSet := t.restrictionsSet + 1 }
  | .restrictionsRemoved => { t with restrictionsRemoved := t.restrictionsRemoved + 1 }
  | .advisoriesSent => { t with advisoriesSent := t.advisoriesSent + 1 }
  | .escalations => { t with escalations := t.escalations + 1 }
  | .silences => { t with silences := t.silences + 1 }
  | .infrastructureRetries => { t with infrastructureRetries := t.infrastructureRetries + 1 }

/-- Bumping a counter adds one to it and leaves the others. -/
theorem get_bump (t : Tally) (c d : Counter) :
    (t.bump c).get d = t.get d + if c = d then 1 else 0 := by
  cases c <;> cases d <;> rfl

def toJson (t : Tally) : Json :=
  .record [("alerts_handled", .nat t.alertsHandled), ("restrictions_set", .nat t.restrictionsSet),
    ("restrictions_removed", .nat t.restrictionsRemoved), ("advisories_sent", .nat t.advisoriesSent),
    ("escalations", .nat t.escalations), ("silences", .nat t.silences),
    ("infrastructure_retries", .nat t.infrastructureRetries)]

end Tally

end OnCall
