import OnCall.Conclusion.Execution
import OnCall.Investigation.Credentials
import OnCall.Investigation.Roster

/-!
# Handling an alert

An alert goes to its investigation. The whole investigation is repeated after an infrastructure
failure, and its conclusion is carried out. What cannot be concluded is noted on the incident and
escalated, so handling fails only if even that failed.

* `Desk`: what is set up for the handling of alerts.
* `Desk.attempt`: one attempt: get the context, run the investigation.
* `Desk.handle`: the handling of one alert; `Outcome` says how it ended.
-/

namespace OnCall

/-- How the handling of an alert ended. -/
inductive OutcomeStatus where
  /-- The investigation concluded, and every step was applied. -/
  | concluded
  /-- No investigation is for this alert; it was escalated. -/
  | unmatched
  /-- The investigation kept failing; it was escalated. -/
  | investigationFailed
  /-- The conclusion could not be carried out; it was escalated. -/
  | executionFailed
deriving DecidableEq

def OutcomeStatus.name : OutcomeStatus → String
  | concluded => "concluded"
  | unmatched => "unmatched"
  | investigationFailed => "investigation_failed"
  | executionFailed => "execution_failed"

/-- How the handling of an alert ended, and the conclusion that was carried out last. -/
structure Outcome where
  investigation : String
  status : OutcomeStatus
  conclusion : Conclusion
deriving DecidableEq

def Outcome.toJson (o : Outcome) : Json :=
  .record [("investigation", .text o.investigation), ("status", .text o.status.name),
    ("conclusion", o.conclusion.toJson)]

/-- What is set up for the handling of alerts. -/
structure Desk where
  settings : Settings
  roster : Roster
  /-- An assisted analysis can be asked for. -/
  analyst : Bool
deriving DecidableEq

/-- The name under which alerts without an investigation are handled. -/
def unmatchedName : String := "unmatched"

namespace Desk

/-- The desk with all investigations. -/
def standard (settings : Settings) (analyst : Bool) : Desk :=
  ⟨settings, .standard settings.experimental, analyst⟩

/-! ## 1. Attempts -/

/-- A program that fills the dossier of an alert. -/
abbrev Filing (α : Type) := StateT Dossier (Program collaboration) α

/-- The text in front of a context that could not be made. -/
def unresolved (f : ResolutionFailure) : Failure :=
  f.failure.asInfrastructure "could not resolve alert context"

/-- The conclusion for revoked credentials. Its context needs no more than the cluster. -/
def concludeRevoked (d : Desk) (alert : Alert) (name : String) (revoked : ResolutionFailure) :
    Filing (Except Failure (Context × Conclusion)) := do
  match ← (Context.build alert d.settings d.analyst name .none).run with
  | .ok ctx => return .ok (ctx, Credentials.conclude revoked ctx.notes)
  | .error f => return .error (unresolved f)

/-- One attempt of an investigation. -/
def attempt (d : Desk) (i : Investigation) (alert : Alert) :
    Filing (Except Failure (Context × Conclusion)) := do
  match ← (Context.build alert d.settings d.analyst i.name i.needs).run with
  | .ok ctx =>
    let (result, _) ← liftM (n := Filing) ((i.run ctx).run.run ctx.notes)
    return result.map fun conclusion => (ctx, conclusion)
  | .error f =>
    if f.showsRevocation then d.concludeRevoked alert i.name f
    else return .error (unresolved f)

/-- Whether a failed attempt is repeated; repetitions are counted. -/
def repeatable (f : Failure) : Work Bool := do
  if f.isTransient then
    Work.count .infrastructureRetries
    return true
  else return false

/-- Attempts of an investigation under the retry policy. -/
def attempts (d : Desk) (i : Investigation) (alert : Alert) :
    Filing (Except Failure (Context × Conclusion)) :=
  d.settings.retry.run (fun span => liftM (n := Filing) (Work.pause span))
    (fun f => liftM (n := Filing) (repeatable f)) (d.attempt i alert)

/-! ## 2. Fallbacks -/

/-- Put one line on the incident and escalate it. -/
def fallBack (d : Desk) (alert : Alert) (cluster : Option Cluster) (name : String)
    (status : OutcomeStatus) (mark : Mark) (line reason : String) : Fallible Outcome := do
  let conclusion :=
    (Conclusion.Draft.ofNotes ((Notes.empty name).add mark line)).escalate reason
  (conclusion.execute ⟨alert.incidentId, cluster, d.settings.retry⟩).describe
    ("failed to escalate incident " ++ alert.incidentId)
  return ⟨name, status, conclusion⟩

/-- No investigation is for the alert. -/
def handleUnmatched (d : Desk) (alert : Alert) : Fallible Outcome := do
  Work.count .alertsHandled
  d.fallBack alert none unmatchedName .unmatched .info
    ("No automated investigation exists for \"" ++ alert.title ++ "\"")
    "no automated investigation available"

/-- The investigation failed for good. -/
def giveUp (d : Desk) (alert : Alert) (cluster : Option Cluster) (name : String)
    (failure : Failure) : Fallible Outcome :=
  d.fallBack alert cluster name .investigationFailed .warning
    ("Investigation failed after " ++ toString d.settings.retry.attempts ++ " attempts: " ++
      failure.full)
    "automated investigation failed"

/-- The conclusion could not be carried out. -/
def reportUnapplied (d : Desk) (ctx : Context) (failure : Failure) : Fallible Outcome :=
  d.fallBack ctx.alert (some ctx.cluster) ctx.investigation .executionFailed .warning
    ("Automated remediation failed: " ++ failure.full) "automated remediation failed"

/-! ## 3. Handling -/

/-- Carry out the conclusion of an investigation. -/
def carryOut (d : Desk) (name : String) (ctx : Context) (conclusion : Conclusion) :
    Fallible Outcome := do
  let site : Site := ⟨ctx.alert.incidentId, some ctx.cluster, ctx.settings.retry⟩
  match ← liftM (n := Fallible) (conclusion.execute site).run with
  | .ok () => return ⟨name, .concluded, conclusion⟩
  | .error failure => d.reportUnapplied ctx failure

/-- Handle an alert. It fails only if the incident could not be escalated. -/
def handle (d : Desk) (alert : Alert) : Fallible Outcome := do
  match d.roster.find alert.title with
  | none => d.handleUnmatched alert
  | some i =>
    Work.count .alertsHandled
    let (result, dossier) ← liftM (n := Fallible) ((d.attempts i alert).run .empty)
    match result with
    | .ok (ctx, conclusion) => d.carryOut i.name ctx conclusion
    | .error failure => d.giveUp alert dossier.cluster i.name failure

end Desk

end OnCall
