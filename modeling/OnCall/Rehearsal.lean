import OnCall.Collaboration
import OnCall.Conclusion.Basic

/-!
# Rehearsals

A rehearsal runs the responder against platforms that are played from a script: the cluster and the
cloud account are given, restrictions are kept as cluster management would keep them, and any call
can be made to fail. Pauses cost nothing and are added up.

* `Operation`: the operations of the platforms, by name.
* `Rehearsal`: the script and what has become of it.
* `Rehearsal.answer`: the reply to a request. A call that fails by the script has no effect.
* `Rehearsal.run`: runs a program in a rehearsal; the calls that it made are in the exchanges.
-/

namespace OnCall

/-! ## 1. Operations -/

/-- The operations of the platforms. -/
inductive Operation where
  | getCluster
  | getClusterDeployment
  | forCluster
  | getExpectedNodeCount
  | listRestrictions
  | postRestriction
  | deleteRestriction
  | postAdvisory
  | listAdvisories
  | listStateTransitions
  | getOrganizationId
  | isAccessProtected
  | addNote
  | escalate
  | silence
  | listNonRunningInstances
  | listRunningInstances
  | lookupStopEvents
  | routeTables
  | subnetIds
  | securityGroupId
  | verifyEgress
  | analyze
deriving DecidableEq

/-- The operation of a call. -/
def Call.operation : Call → Operation
  | .manager (.cluster _) => .getCluster
  | .manager (.expectedNodes _) => .getExpectedNodeCount
  | .manager (.restrictions _) => .listRestrictions
  | .manager (.postRestriction _ _) => .postRestriction
  | .manager (.deleteRestriction _ _) => .deleteRestriction
  | .manager (.postAdvisory _ _) => .postAdvisory
  | .manager (.advisories _ _) => .listAdvisories
  | .manager (.stateTransitions _) => .listStateTransitions
  | .manager (.organization _) => .getOrganizationId
  | .manager (.accessProtection _) => .isAccessProtected
  | .pager (.addNote _ _) => .addNote
  | .pager (.escalate _ _) => .escalate
  | .pager (.silence _ _) => .silence
  | .cloud _ (.stoppedInstances _) => .listNonRunningInstances
  | .cloud _ (.runningInstances _) => .listRunningInstances
  | .cloud _ (.stopEvents _ _ _) => .lookupStopEvents
  | .cloud _ (.routeTables _) => .routeTables
  | .cloud _ (.subnets _) => .subnetIds
  | .cloud _ (.securityGroup _) => .securityGroupId
  | .openCloud _ => .forCluster
  | .deployment _ => .getClusterDeployment
  | .verifyEgress _ => .verifyEgress

/-! ## 2. The script -/

/-- The script of a rehearsal and what has become of it. -/
structure Rehearsal where
  cluster : Option Cluster
  deployment : Option Deployment
  /-- The restrictions that are set, in the order in which they were. -/
  restrictions : List Restriction
  /-- How many ids restrictions have been given. -/
  idsGiven : Nat
  history : List AdvisoryEntry
  /-- Posted and deleted restrictions are written to the history. -/
  recordHistory : Bool
  transitions : List StateTransition
  stopped : List Instance
  running : List Instance
  events : List AuditEvent
  subnets : List String
  routeTables : List (String × List RouteTable)
  securityGroup : String
  nodeCount : NodeCount
  accessProtected : Bool
  organization : String
  /-- The reports of the egress probe in turn; the last one stays. -/
  reports : List EgressReport
  /-- The analyst's answer and how long it takes. -/
  analysis : Option (String × Span)
  /-- For an operation, what its next calls do: fail, or go through. -/
  faults : List (Operation × List (Option Failure))
  clock : Instant
  /-- The milliseconds that were spent waiting. -/
  waited : Nat
  tally : Tally

namespace Rehearsal

/-- The script with a cluster, its deployment and six running instances, where nothing fails. -/
def standard : Rehearsal where
  cluster := some {
    id := "c1", externalId := "uuid-1", name := "prod", state := .ready, product := .rosa
    ccs := true, cloudProvider := "aws", region := "us-east-1", hosted := false
    infraId := some "prod-x7k2p", subnetIds := [], subscriptionId := some "sub-1" }
  deployment := some {
    name := "prod", namespaceName := "uhc-production-c1", infraId := "prod-x7k2p"
    installed := true, powerState := some "Running" }
  restrictions := []
  idsGiven := 0
  history := []
  recordHistory := false
  transitions := []
  stopped := []
  running := List.replicate 6 ⟨"", .running, none⟩
  events := []
  subnets := ["subnet-a"]
  routeTables := []
  securityGroup := "sg-1"
  nodeCount := ⟨5, 8⟩
  accessProtected := false
  organization := "org-1"
  reports := []
  analysis := none
  faults := []
  clock := .epoch
  waited := 0
  tally := .zero

/-! ## 3. Replies -/

/-- The failure that the script has for the next call of an operation, if any; the call uses it
up. -/
def nextFault (op : Operation) : List (Operation × List (Option Failure)) →
    Option Failure × List (Operation × List (Option Failure))
  | [] => (none, [])
  | (o, queue) :: others =>
    if o = op then
      match queue with
      | [] => (none, (o, []) :: others)
      | fault :: queue => (fault, (o, queue) :: others)
    else
      let (fault, others) := nextFault op others
      (fault, (o, queue) :: others)

/-- Milliseconds that pass while a span is waited for: waiting ends with a whole one. -/
def ticks (span : Span) : Nat := (span.awaited.nanos + 999_999) / 1_000_000

/-- Write a change of a restriction to the history. -/
def record (r : Restriction) (s : Rehearsal) : Rehearsal :=
  if s.recordHistory then
    { s with history := s.history ++ [{
        id := "log-" ++ toString (s.history.length + 1)
        username := "service-account-cluster-triage"
        logType := AdvisoryEntry.restrictionChange
        summary := r.summary
        description := ""
        timestamp := s.clock }] }
  else s

/-- Give a restriction the next id and keep it. -/
def keep (r : Restriction) (s : Rehearsal) : Rehearsal :=
  { s with
    restrictions := s.restrictions ++ [{ r with id := some ("lsr-" ++ toString (s.idsGiven + 1)) }]
    idsGiven := s.idsGiven + 1 }

/-- Delete the first restriction with an id, if there is one. -/
def delete (id : String) (s : Rehearsal) : Rehearsal :=
  match s.restrictions.find? fun r => r.id = some id with
  | none => s
  | some r =>
    ({ s with restrictions := s.restrictions.eraseP fun r => r.id = some id }).record r

/-- The reply of cluster management to a call that goes through. -/
def manager (s : Rehearsal) : (c : ManagerCall) → Except Failure c.Answer × Rehearsal
  | .cluster id =>
    match s.cluster with
    | some c =>
      if c.id = id then (.ok c, s)
      else (.error (.root (.reported ("cluster " ++ id ++ " not found"))), s)
    | none => (.error (.root (.reported ("cluster " ++ id ++ " not found"))), s)
  | .expectedNodes _ => (.ok s.nodeCount, s)
  | .restrictions _ => (.ok s.restrictions, s)
  | .postRestriction _ r => (.ok (), (s.keep r).record r)
  | .deleteRestriction _ id => (.ok (), s.delete id)
  | .postAdvisory _ _ => (.ok (), s)
  | .advisories _ _ => (.ok s.history, s)
  | .stateTransitions _ => (.ok s.transitions, s)
  | .organization _ => (.ok s.organization, s)
  | .accessProtection _ => (.ok s.accessProtected, s)

/-- The reply of the cloud account to a call that goes through. -/
def cloud (s : Rehearsal) : (c : CloudCall) → Except Failure c.Answer
  | .stoppedInstances _ => .ok s.stopped
  | .runningInstances _ => .ok s.running
  | .stopEvents _ _ _ => .ok s.events
  | .routeTables subnet => .ok ((s.routeTables.lookup subnet).getD [])
  | .subnets _ => .ok s.subnets
  | .securityGroup _ => .ok s.securityGroup

/-- The next report of the egress probe. -/
def report (s : Rehearsal) : EgressReport × Rehearsal :=
  match s.reports with
  | [] => (.success, s)
  | [r] => (r, s)
  | r :: rs => (r, { s with reports := rs })

/-- The reply to a call that goes through. -/
def serve (s : Rehearsal) : (c : Call) → Except Failure c.Answer × Rehearsal
  | .manager c => s.manager c
  | .pager _ => (.ok (), s)
  | .cloud _ c => (s.cloud c, s)
  | .openCloud _ => (.ok ⟨0⟩, s)
  | .deployment id =>
    match s.deployment with
    | some d => (.ok d, s)
    | none => (.error (.root (.reported ("no deployment for " ++ id))), s)
  | .verifyEgress _ =>
    let (r, s) := s.report
    (.ok r, s)

/-- The reply of the analyst. It is in time if it comes with the millisecond in which the wait
ends. -/
def analyze (limit : Span) (s : Rehearsal) : Timed (Except Failure String) × Rehearsal :=
  let (fault, faults) := nextFault .analyze s.faults
  let s := { s with faults }
  let (summary, delay) := s.analysis.getD ("", .zero)
  let inTime := ticks delay ≤ ticks limit
  let reply : Except Failure String :=
    match fault with
    | some f => .error f
    | none => .ok summary
  (⟨if inTime then delay.least limit else delay, reply⟩,
    { s with waited := s.waited + ticks (if inTime then delay else limit) })

/-- The reply to a request, and the script after it. -/
def answer : (q : Ask) → Rehearsal → q.Reply × Rehearsal
  | .call c, s =>
    match nextFault c.operation s.faults with
    | (some f, faults) => (.error f, { s with faults })
    | (none, faults) => { s with faults }.serve c
  | .analyze _ limit, s => s.analyze limit
  | .pause span, s => ((), { s with waited := s.waited + ticks span })
  | .now, s => (s.clock, s)
  | .count counter, s => ((), { s with tally := s.tally.bump counter })

/-- Run a program in a rehearsal: its exchanges, its value, and the script after it. -/
def run {α : Type} (p : Work α) (s : Rehearsal) :
    List (Exchange collaboration) × α × Rehearsal :=
  p.play (fun q s => answer q s) s

/-! ## 4. Restrictions of a script -/

/-- Set the restrictions of a script: one without an id is given the next one, and one with an
empty id has none. -/
def setRestrictions (rs : List Restriction) (s : Rehearsal) : Rehearsal :=
  rs.foldl (fun s r =>
      match r.id with
      | none => s.keep r
      | some id =>
        { s with restrictions := s.restrictions ++ [if id.isEmpty then { r with id := none } else r] })
    { s with restrictions := [] }

end Rehearsal

end OnCall
