import OnCall.Cluster

/-!
# Hibernation

* `HibernationPeriod.ofTransitions`: the periods that a cluster slept, from its changes of state in
  order of time. A second hibernation while asleep and a resume while awake do not count.
* `HibernationPeriod.resumedWithin`: whether the last resume lies within a window. A resume in the
  future does: the clocks differ.
-/

namespace OnCall

/-- One hibernation, until the cluster was resumed, if it was. -/
structure HibernationPeriod where
  hibernatedAt : Instant
  resumedAt : Option Instant
deriving DecidableEq

namespace HibernationPeriod

/-- The periods from a list of changes, when the cluster is awake or has slept since `asleep`. -/
def collect : Option Instant → List StateTransition → List HibernationPeriod
  | none, [] => []
  | some since, [] => [⟨since, none⟩]
  | asleep, t :: ts =>
    match t.state, asleep with
    | .hibernating, none => collect (some t.timestamp) ts
    | .resuming, some since => ⟨since, some t.timestamp⟩ :: collect none ts
    | _, asleep => collect asleep ts

/-- The periods from a list of changes, the first change first. -/
def ofTransitions (ts : List StateTransition) : List HibernationPeriod := collect none ts

/-- Whether the last resume was no longer ago than `window`. -/
def resumedWithin (periods : List HibernationPeriod) (now : Instant) (window : Span) : Bool :=
  match periods.reverse.findSome? HibernationPeriod.resumedAt with
  | none => false
  | some t => now.since t ≤ window.nanos

end HibernationPeriod

end OnCall
