import OnCall.Investigation.Egress
import OnCall.Investigation.Inquiry

/-!
# The installation takes too long

A cluster that still installs long after its creation usually has a problem in a network that the
customer brought. `Provisioning.run` asks, in this order:

1. Is the cluster ready by now? Then the alert is stale and silenced.
2. Do customer subnets lack a usable default route? Then an advisory is sent.
3. Is egress blocked? Then an advisory is sent, too.

Everything but the first case escalates.
-/

namespace OnCall

/-- Whether a route leads all traffic through an internet, NAT or transit gateway, and works. -/
def Route.isDefault (r : Route) : Bool :=
  r.destinationCidr = some "0.0.0.0/0" && r.state ≠ some "blackhole" &&
    ((r.gatewayId.any fun g => "igw-".toList.isPrefixOf g.toList) || r.natGatewayId.isSome ||
      r.transitGatewayId.isSome)

/-- Whether one of the tables of a subnet has a usable default route. -/
def leadsOut (tables : List RouteTable) : Bool :=
  tables.any fun t => t.routes.any Route.isDefault

namespace Provisioning

def name : String := "ClusterProvisioningDelay"

/-- The part of a title by which the alert is known. -/
def titlePart : String := "ClusterProvisioningDelay"

/-- The advisory about subnets without a default route. -/
def routeAdvisory (subnetIds : List String) : Advisory.Draft where
  severity := .warning
  summary := "Installation blocked: Missing route to internet"
  description :=
    "Your cluster's installation is blocked because subnets " ++ ", ".intercalate subnetIds ++
    " have no default route to an internet, NAT or transit gateway. Add a 0.0.0.0/0 route to the " ++
    "subnets' route tables so that installation can continue."
  serviceTag := manualActionService

/-- The subnets whose tables have no usable default route, in order. -/
def withoutRoute (client : CloudClient) : List String → Inquiry (List String)
  | [] => return []
  | subnet :: others => do
    let tables ← Inquiry.require ("could not retrieve route tables of " ++ subnet)
      (Work.routeTables client subnet)
    let missing ← withoutRoute client others
    return if leadsOut tables then missing else subnet :: missing

/-- Note whether access to the cluster needs the customer's approval. -/
def noteAccessProtection (ctx : Context) : Inquiry Unit := do
  match ← Inquiry.attempt (Work.accessProtection ctx.cluster) with
  | .ok true =>
    Inquiry.note .info "Access protection is enabled; cluster access needs customer approval"
  | .ok false => return
  | .error failure => Inquiry.note .warning ("Could not check access protection: " ++ failure.full)

/-- Check the egress and conclude. -/
def concludeByEgress (ctx : Context) : Inquiry Conclusion := do
  match ← liftM (n := Inquiry) (EgressFinding.run ctx) with
  | .passed =>
    Inquiry.note .success "Network egress verification passed"
    return (← Inquiry.draft).escalate "no automated remediation available"
  | .blocked endpoints =>
    Inquiry.note .warning ("Network egress verification failed: " ++ endpoints)
    return ((← Inquiry.draft).advise (egressAdvisory ctx.cluster.product endpoints)).escalate
      "cluster blocks required egress endpoints"
  | .toolingError failure =>
    Inquiry.note .warning ("Network egress verification could not run: " ++ failure.full)
    return (← Inquiry.draft).escalate "no automated remediation available"

/-- The customer's subnets that lack a usable default route. -/
def unroutedSubnets (ctx : Context) : Inquiry (List String) := do
  if ctx.cluster.subnetIds.isEmpty then return []
  let client ← MonadExcept.ofExcept ctx.cloudClient
  let missing ← withoutRoute client ctx.cluster.subnetIds
  if missing.isEmpty then
    Inquiry.note .success "All customer subnets have a default route"
  return missing

/-- Investigate an installation that takes too long. -/
def run (ctx : Context) : Inquiry Conclusion := do
  if ctx.cluster.state = .ready then
    Inquiry.note .success "Cluster finished installing; the alert is stale"
    return (← Inquiry.draft).silence "cluster is ready"
  Inquiry.note .info ("Cluster is in state '" ++ ctx.cluster.state.name ++ "'")
  noteAccessProtection ctx
  let missing ← unroutedSubnets ctx
  if missing.isEmpty then concludeByEgress ctx
  else
    Inquiry.note .warning ("Subnets without a default route: " ++ ", ".intercalate missing)
    return ((← Inquiry.draft).advise (routeAdvisory missing)).escalate
      "customer subnets have no route to the internet"

end Provisioning

end OnCall
