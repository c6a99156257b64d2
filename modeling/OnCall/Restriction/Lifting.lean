import OnCall.Collaboration
import OnCall.Settings
import OnCall.Text.Occurs

/-!
# Lifting a restriction

A restriction that the automation sets and lifts again and again is flapping. Before one is lifted,
the changes that the automation itself made recently are counted in the history; too many of them
stop the lifting.

* `Settings.countsAsChange`, `changesWithin`: what counts as such a change, and their number.
* `Lifting`: what came of an attempt to lift; `Restriction.lift` makes one.

There is no lock across processes: two runs at one time may both pass the check. The history has
to show at once what was written to it.
-/

namespace OnCall

/-- What came of an attempt to lift a restriction. -/
inductive Lifting where
  /-- So many restrictions were deleted. -/
  | removed (count : Nat)
  /-- None was set for that reason. -/
  | notFound
  /-- So many recent changes were found, and nothing was deleted. -/
  | flapping (changes : Nat)
deriving DecidableEq

namespace Lifting

/-- Whether something was deleted. -/
def deletedAny : Lifting → Bool
  | removed count => 0 < count
  | _ => false

end Lifting

/-- Whether an entry of the history is a change, since `since`, that the automation made to the
restriction with this summary. -/
def Settings.countsAsChange (s : Settings) (summary : String) (since : Instant)
    (e : AdvisoryEntry) : Bool :=
  s.ownsAccount e.username && e.logType = AdvisoryEntry.restrictionChange &&
    since ≤ e.timestamp && Text.occursIn summary e.summary

/-- The number of recent changes to the restriction with this summary. -/
def changesWithin (s : Settings) (cluster : Cluster) (summary : String) (now : Instant) :
    Fallible Nat := do
  let since := now.back s.flappingWindow
  let history ← Work.listAdvisories cluster ⟨some AdvisoryEntry.restrictionChange, some since⟩
  return history.countP (s.countsAsChange summary since)

namespace Restriction

/-- The ids of the restrictions that are set for the same reason. -/
def idsFor (r : Restriction) (listed : List Restriction) : List String :=
  (listed.filter fun e => e.hasReasonOf r).filterMap Restriction.id

/-- Delete restrictions one after the other, each under the retry policy. -/
def deleteAll (retry : RetryPolicy) (clusterId : String) : List String → Fallible Unit
  | [] => return
  | id :: ids => do
    Work.retried retry (Work.deleteRestriction clusterId id)
    deleteAll retry clusterId ids

/-- Delete every restriction that is set for the same reason as `r`, unless it is flapping. -/
def lift (s : Settings) (cluster : Cluster) (r : Restriction) (now : Instant) :
    Fallible Lifting := do
  let changes ← changesWithin s cluster r.summary now
  if s.flappingThreshold ≤ changes then return .flapping changes
  let ids := r.idsFor (← Work.listRestrictions cluster.id)
  if ids.isEmpty then return .notFound
  deleteAll s.retry cluster.id ids
  return .removed ids.length

end Restriction

end OnCall
