import OnCall.Handling
import OnCall.Rehearsal.Transcript

/-!
# Scripts of rehearsals

A script is a JSON object; what it does not mention keeps its value. The cluster and its deployment
are changed member by member, everything else as a whole, and null takes a thing away.

* `Rehearsal.patch?`: a rehearsal changed by a script.
* `Settings.ofScript?`: settings; attempts follow each other at once unless a delay is given.
* `Span.ofScript?`, `Failure.ofScript?`, `Restriction.Change.ofScript?`: the parts of a script.
-/

namespace OnCall

/-! ## 1. Parts -/

/-- A member that is there and not null, read by `value`; `default` if there is none. -/
def Json.getOr {α : Type} (name : String) (default : α) (value : Json → Option α) (j : Json) :
    Option α :=
  match j.get? name with
  | none => some default
  | some .null => some default
  | some v => value v

/-- A member that must be there. -/
def Json.need {α : Type} (name : String) (value : Json → Option α) (j : Json) : Option α :=
  j.get? name >>= value

/-- A whole number without sign. -/
def Json.nat? : Json → Option Nat
  | .number n => n.nat?
  | _ => none

/-- One object with the members of another one in place of its own. -/
def Json.patched (base patch : Json) : Json :=
  match base, patch with
  | .object a, .object b =>
    .object ((a.filter fun m => b.all fun n => n.1 ≠ m.1) ++ b)
  | _, _ => patch

/-- A span: milliseconds, or seconds and nanoseconds. -/
def Span.ofScript? (j : Json) : Option Span :=
  match j with
  | .number n => n.nat?.map .ofMillis
  | _ => do
    return .ofNanos ((← j.need "secs" Json.nat?) * nanosPerSecond +
      (← j.getOr "nanos" 0 Json.nat?))

def Span.toJson (s : Span) : Json :=
  .record [("secs", .nat s.seconds), ("nanos", .nat s.subsecond)]

def FailureKind.name : FailureKind → String
  | infrastructure => "infrastructure"
  | finding => "finding"

def FailureKind.ofJson? : Json → Option FailureKind :=
  Json.choice? ([infrastructure, finding].map fun k => (k.name, k)) none

/-- A failure: what a platform reports, or such a report with contexts and perhaps a kind. -/
def Failure.ofScript? : Json → Option Failure
  | .string text => text.map fun t => .root (.reported t)
  | j => do
    match ← j.need "chain" (Json.list? Json.string?) with
    | [] => none
    | cause :: contexts =>
      let f := contexts.foldl (fun f text => .context text f) (Failure.root (.reported cause))
      match ← j.getOr "kind" none fun k => some <$> FailureKind.ofJson? k with
      | none => return f
      | some kind => return f.classify kind (← j.getOr "context" "" Json.string?)

/-- The restrictions that investigations set, by name. -/
def Restriction.Change.builtIn : List (String × Restriction.Change) :=
  [("stopped_infrastructure", Unreachable.stoppedRestriction),
    ("egress_blocked", Unreachable.egressRestriction),
    ("credentials_invalid", Credentials.invalid)]

/-- A restriction that is to be set: one that an investigation sets, or any other. -/
def Restriction.Change.ofScript? : Json → Option Restriction.Change
  | .string name => name.bind fun n => builtIn.lookup n
  | j => do
    return ⟨← j.need "summary" Json.string?, ← j.need "details" Json.string?,
      ← j.getOr "context_label" "" Json.string?⟩

/-- A restriction that is set when a rehearsal starts. -/
def Restriction.ofScript? (j : Json) : Option Restriction :=
  match j with
  | .string _ => (Change.ofScript? j).map Change.restriction
  | _ => ofJson? j

def Backoff.ofScript? (j : Json) : Option Backoff :=
  match j.get? "fixed" with
  | some d => fixed <$> Span.ofScript? d
  | none => return exponential (← j.need "base" Span.ofScript?) (← j.need "max" Span.ofScript?)

/-- Settings; what is missing has its standard value, but attempts follow each other at once. -/
def Settings.ofScript? (j : Json) : Option Settings := do
  let s := standard
  return {
    experimental := ← j.getOr "experimental" s.experimental Json.bool?
    retry := ⟨← j.getOr "max_attempts" s.retry.maxAttempts Json.nat?,
      ← j.getOr "backoff" (.fixed .zero) Backoff.ofScript?⟩
    analysisTimeout := ← j.getOr "analysis_timeout" s.analysisTimeout Span.ofScript?
    commandTimeout := s.commandTimeout
    auditLookback := ← j.getOr "audit_lookback" s.auditLookback Span.ofScript?
    auditMaxResults := ← j.getOr "audit_max_results" s.auditMaxResults Json.nat?
    recentResumeWindow := ← j.getOr "recent_resume_window" s.recentResumeWindow Span.ofScript?
    flappingWindow := ← j.getOr "flapping_window" s.flappingWindow Span.ofScript?
    flappingThreshold := ← j.getOr "flapping_threshold" s.flappingThreshold Json.nat?
    serviceAccounts := ← j.getOr "service_accounts" s.serviceAccounts (Json.list? Json.string?)
    monitorHost := ← j.getOr "monitor_host" s.monitorHost Json.string? }

/-- An alert; what is missing is that of a triggered alert about a missing cluster. -/
def Alert.ofScript? (j : Json) : Option Alert :=
  let standard : Alert := ⟨"Q1", "cluster has gone missing", .triggered, "c1"⟩
  ofJson? (standard.toJson.patched j)

/-! ## 2. Scripts -/

namespace Rehearsal

/-- What calls of operations do: fail, or, for null, go through. -/
def faults? : Json → Option (List (Operation × List (Option Failure)))
  | .object members => members.mapM fun (name, queue) => do
      return (← name.bind Operation.ofName?,
        ← Json.list? (Json.nullable? Failure.ofScript?) queue)
  | _ => none

/-- A report of the egress probe: null for success, else the blocked endpoints. -/
def report? : Json → Option EgressReport
  | .null => some .success
  | j => .failure <$> j.string?

/-- The route tables of subnets. -/
def routeTables? : Json → Option (List (String × List RouteTable))
  | .object members => members.mapM fun (subnet, tables) => do
      return (← subnet, ← Json.list? RouteTable.ofJson? tables)
  | _ => none

/-- The analyst's answer and how long it takes. -/
def analysis? (j : Json) : Option (String × Span) := do
  return (← j.getOr "reply" "" Json.string?, ← j.getOr "delay_ms" .zero Span.ofScript?)

/-- A record with some members changed, or no record for null. -/
def patchRecord {α : Type} (toJson : α → Json) (ofJson? : Json → Option α)
    (standard current : Option α) : Json → Option (Option α)
  | .null => some none
  | j => some <$> ofJson? ((((current.or standard).map toJson).getD .null).patched j)

/-- Change one part of a rehearsal. -/
def patchMember (s : Rehearsal) (name : String) (j : Json) : Option Rehearsal := do
  match name with
  | "cluster" =>
    let cluster ← patchRecord Cluster.toJson Cluster.ofJson? standard.cluster s.cluster j
    return { s with cluster }
  | "deployment" =>
    let deployment ←
      patchRecord Deployment.toJson Deployment.ofJson? standard.deployment s.deployment j
    return { s with deployment }
  | "restrictions" => return s.setRestrictions (← Json.list? Restriction.ofScript? j)
  | "history" => return { s with history := ← Json.list? AdvisoryEntry.ofJson? j }
  | "transitions" => return { s with transitions := ← Json.list? StateTransition.ofJson? j }
  | "non_running" => return { s with stopped := ← Json.list? Instance.ofJson? j }
  | "running" => return { s with running := List.replicate (← j.nat?) ⟨"", .running, none⟩ }
  | "events" => return { s with events := ← Json.list? AuditEvent.ofJson? j }
  | "subnets" => return { s with subnets := ← Json.list? Json.string? j }
  | "route_tables" => return { s with routeTables := ← routeTables? j }
  | "security_group" => return { s with securityGroup := ← j.string? }
  | "node_count" => return { s with nodeCount := ← NodeCount.ofJson? j }
  | "access_protected" => return { s with accessProtected := ← j.bool? }
  | "organization_id" => return { s with organization := ← j.string? }
  | "verifier" => return { s with reports := ← Json.list? report? j }
  | "analysis" => return { s with analysis := ← Json.nullable? analysis? j }
  | "faults" => return { s with faults := ← faults? j }
  | "record_history" => return { s with recordHistory := ← j.bool? }
  | _ => return s

/-- Change a rehearsal by a script. -/
def patch? (s : Rehearsal) : Json → Option Rehearsal
  | .object members => members.foldlM (fun s m => do s.patchMember (← m.1) m.2) s
  | _ => none

end Rehearsal

end OnCall
