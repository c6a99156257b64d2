import OnCall.Investigation.Actor
import OnCall.Investigation.Egress
import OnCall.Investigation.Hibernation
import OnCall.Investigation.Inquiry
import OnCall.Restriction.Lifting

/-!
# The cluster has gone missing

A triggered alert (`Unreachable.triggered`) asks, in this order:

1. Are instances not running? If none is, there is nobody to blame.
2. Who stopped them? An actor who was not allowed to restricts the cluster and silences the alert.
3. Was the cluster resumed from hibernation recently? That is a note only.
4. Is egress blocked? A blocked monitoring host restricts and silences; other blocked endpoints
   send an advisory and escalate.

Everything else escalates. A resolved alert (`Unreachable.recovered`) lifts the restrictions that
this investigation sets, unless they are flapping, once the expected nodes run again.
-/

namespace OnCall.Unreachable

def name : String := "ClusterHasGoneMissing"

/-- The part of a title by which the alert is known. -/
def titlePart : String := "has gone missing"

/-! ## 1. Restrictions -/

/-- The restriction for instances that the customer stopped. -/
def stoppedRestriction : Restriction.Change where
  summary := "Cluster is in Limited Support due to stopped instances"
  details :=
    "Your cluster is no longer reachable because some of its instances were stopped outside of " ++
    "the platform. Restart the stopped instances to restore support."
  label := "customer stopped infrastructure"

/-- The restriction for a cluster that cannot reach the monitoring. -/
def egressRestriction : Restriction.Change where
  summary := "Cluster is in Limited Support due to blocked egress"
  details :=
    "Your cluster cannot reach the monitoring endpoint it requires. Allow egress to the required " ++
    "endpoints in your firewall configuration to restore support."
  label := "egress blocked"

/-! ## 2. Triggered alerts -/

/-- What the instances and the audit trail show. -/
structure Findings where
  running : Nat
  expected : NodeCount
  stopped : List Instance
  /-- Nobody is to blame if no instance is stopped. -/
  judgement : Option Judgement

/-- Look at the instances, and at who stopped those that do not run. -/
def inspect (ctx : Context) (now : Instant) : Inquiry Findings := do
  let client ← MonadExcept.ofExcept ctx.cloudClient
  let infraId ← MonadExcept.ofExcept ctx.infraId
  let stopped ← Inquiry.require "could not retrieve non-running instances"
    (Work.stoppedInstances client infraId)
  let running ← Inquiry.require "could not retrieve running instances"
    (Work.runningInstances client infraId)
  let expected ← Inquiry.require "could not retrieve expected node count"
    (Work.expectedNodes ctx.cluster)
  if stopped.isEmpty then
    return ⟨running.length, expected, stopped, none⟩
  let events ← Inquiry.require "could not retrieve stop events"
    (Work.stopEvents client (stopped.map Instance.id)
      (now.back ctx.settings.auditLookback) ctx.settings.auditMaxResults)
  let judgement ← MonadExcept.ofExcept (Judgement.ofEvents .standard ctx.cluster.ccs events)
  return ⟨running.length, expected, stopped, some judgement⟩

/-- Note a recent resume, or that the history could not be read. -/
def noteHibernation (ctx : Context) (now : Instant) : Inquiry Unit := do
  match ← Inquiry.attempt (Work.stateTransitions ctx.cluster) with
  | .ok transitions =>
    let periods := HibernationPeriod.ofTransitions transitions
    if HibernationPeriod.resumedWithin periods now ctx.settings.recentResumeWindow then
      Inquiry.note .warning
        ("Cluster was resumed from hibernation recently; expired certificates may prevent it " ++
         "from checking in until they are renewed")
  | .error failure =>
    Inquiry.note .warning ("Could not check hibernation history: " ++ failure.full)

/-- Check the egress and conclude. -/
def concludeByEgress (ctx : Context) : Inquiry Conclusion := do
  match ← liftM (n := Inquiry) (EgressFinding.run ctx) with
  | .passed =>
    Inquiry.note .success "Network egress verification passed"
    return (← Inquiry.draft).escalate "no automated remediation available"
  | .blocked endpoints =>
    if Text.occursIn ctx.settings.monitorHost endpoints then
      Inquiry.note .warning
        ("Network egress verification failed, monitoring host is blocked: " ++ endpoints)
      Inquiry.note .automation "Setting restriction: egress blocked"
      return ((← Inquiry.draft).restrict egressRestriction).silence
        "cluster blocks egress to the monitoring host"
    else
      Inquiry.note .warning ("Network egress verification failed: " ++ endpoints)
      Inquiry.note .automation "Sending network misconfiguration advisory"
      return ((← Inquiry.draft).advise (egressAdvisory ctx.cluster.product endpoints)).escalate
        "cluster blocks required egress endpoints"
  | .toolingError failure =>
    Inquiry.note .warning ("Network egress verification could not run: " ++ failure.full)
    return (← Inquiry.draft).escalate "no automated remediation available"

/-- Investigate a triggered alert. -/
def triggered (ctx : Context) (now : Instant) : Inquiry Conclusion := do
  let found ← inspect ctx now
  Inquiry.note .info
    ("Running instances: " ++ toString found.running ++ " (expected " ++
      toString found.expected.min.toNat ++ " to " ++ toString found.expected.max.toNat ++ ")")
  match found.judgement with
  | none =>
    Inquiry.note .info
      "No non-running instances found; terminated instances may have already expired"
  | some ⟨actor, true⟩ =>
    Inquiry.note .success
      ("Instances were stopped by authorized account '" ++ actor.username ++ "'")
  | some ⟨actor, false⟩ =>
    Inquiry.note .warning
      ("Instances " ++ ", ".intercalate (found.stopped.map Instance.id) ++ " were stopped by '" ++
        actor.username ++ "', who is not authorized to do so")
    Inquiry.note .automation "Setting restriction: customer stopped infrastructure"
    return ((← Inquiry.draft).restrict stoppedRestriction).silence
      "customer stopped cluster infrastructure"
  noteHibernation ctx now
  concludeByEgress ctx

/-! ## 3. Resolved alerts -/

/-- Lift one restriction and note what came of it; the answer is whether it is flapping. -/
def liftOne (ctx : Context) (now : Instant) (change : Restriction.Change) : Inquiry Bool := do
  match ← Inquiry.require "could not remove restriction"
      (Restriction.lift ctx.settings ctx.cluster change.restriction now) with
  | .removed _ =>
    liftM (n := Inquiry) (Work.count .restrictionsRemoved)
    Inquiry.note .automation ("Removed restriction '" ++ change.summary ++ "'")
    return false
  | .flapping changes =>
    Inquiry.note .warning
      ("Restriction '" ++ change.summary ++ "' changed " ++ toString changes ++
        " times recently; not removing it")
    return true
  | .notFound => return false

/-- Investigate a resolved alert. -/
def recovered (ctx : Context) (now : Instant) : Inquiry Conclusion := do
  let client ← MonadExcept.ofExcept ctx.cloudClient
  let infraId ← MonadExcept.ofExcept ctx.infraId
  let running ← Inquiry.require "could not retrieve running instances"
    (Work.runningInstances client infraId)
  let expected ← Inquiry.require "could not retrieve expected node count"
    (Work.expectedNodes ctx.cluster)
  if running.length < expected.min.toNat then
    Inquiry.note .warning
      ("Alert resolved but only " ++ toString running.length ++ " of at least " ++
        toString expected.min.toNat ++ " instances are running")
    return (← Inquiry.draft).escalate "cluster has not fully recovered"
  Inquiry.note .success (toString running.length ++ " instances are running again")
  let stoppedFlaps ← liftOne ctx now stoppedRestriction
  let egressFlaps ← liftOne ctx now egressRestriction
  if stoppedFlaps || egressFlaps then
    return (← Inquiry.draft).escalate "restriction is flapping"
  return (← Inquiry.draft).silence "cluster recovered"

end OnCall.Unreachable
