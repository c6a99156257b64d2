import OnCall.Rehearsal

/-!
# Transcripts of rehearsals

* `Operation.name`, `Operation.ofName?`: the operations by name.
* `transcript`: the calls of a run in order, each as its operation and arguments.
-/

namespace OnCall

/-- The operations with their names. -/
def Operation.names : List (Operation × String) :=
  [(.getCluster, "get_cluster"), (.getClusterDeployment, "get_cluster_deployment"),
    (.forCluster, "for_cluster"), (.getExpectedNodeCount, "get_expected_node_count"),
    (.listRestrictions, "list_restrictions"), (.postRestriction, "post_restriction"),
    (.deleteRestriction, "delete_restriction"), (.postAdvisory, "post_advisory"),
    (.listAdvisories, "list_advisories"), (.listStateTransitions, "list_state_transitions"),
    (.getOrganizationId, "get_organization_id"), (.isAccessProtected, "is_access_protected"),
    (.addNote, "add_note"), (.escalate, "escalate"), (.silence, "silence"),
    (.listNonRunningInstances, "list_non_running_instances"),
    (.listRunningInstances, "list_running_instances"), (.lookupStopEvents, "lookup_stop_events"),
    (.routeTables, "route_tables"), (.subnetIds, "subnet_ids"),
    (.securityGroupId, "security_group_id"), (.verifyEgress, "verify_egress"),
    (.analyze, "analyze")]

/-- The name of an operation. -/
def Operation.name (op : Operation) : String := (Operation.names.lookup op).getD ""

/-- The operation of a name. -/
def Operation.ofName? (name : String) : Option Operation :=
  (Operation.names.find? fun o => o.2 = name).map (·.1)

/-- The arguments of a call, as a transcript shows them. -/
def Call.arguments : Call → List Json
  | .manager (.cluster id) => [.text id]
  | .manager (.expectedNodes c) => [.text c.id]
  | .manager (.restrictions id) => [.text id]
  | .manager (.postRestriction id r) => [.text id, .text? r.id, .text r.summary, .text r.details]
  | .manager (.deleteRestriction id restrictionId) => [.text id, .text restrictionId]
  | .manager (.postAdvisory c a) => [.text c.id, a.toJson]
  | .manager (.advisories c f) =>
    [.text c.id, .text? f.logType, .text? (f.since.map Instant.offsetText)]
  | .manager (.stateTransitions c) => [.text c.id]
  | .manager (.organization c) => [.text c.id]
  | .manager (.accessProtection c) => [.text c.id]
  | .pager (.addNote id text) => [.text id, .text text]
  | .pager (.escalate id reason) => [.text id, .text reason]
  | .pager (.silence id reason) => [.text id, .text reason]
  | .cloud _ (.stoppedInstances infra) => [.text infra]
  | .cloud _ (.runningInstances infra) => [.text infra]
  | .cloud _ (.stopEvents ids since most) => [.texts ids, .text since.offsetText, .nat most]
  | .cloud _ (.routeTables subnet) => [.text subnet]
  | .cloud _ (.subnets infra) => [.text infra]
  | .cloud _ (.securityGroup infra) => [.text infra]
  | .openCloud c => [.text c.id]
  | .deployment id => [.text id]
  | .verifyEgress target => [target.toJson]

/-- The line of a request in a transcript; only calls have one. -/
def Ask.transcript? : Ask → Option Json
  | .call c => some (.array (.text c.operation.name :: c.arguments))
  | .analyze r _ => some (.array [.text Operation.analyze.name, r.toJson])
  | _ => none

/-- The calls of a run, in order. -/
def transcript (log : List (Exchange collaboration)) : List Json :=
  log.filterMap fun e => Ask.transcript? e.request

end OnCall
