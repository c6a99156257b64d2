import OnCall.Conclusion.Basic
import OnCall.Dossier

/-!
# Egress of a cluster

* `EgressFinding.run`: probes the egress from the subnets of the cluster. What keeps the probe from
  running is an outcome of its own and fails nothing.
* `egressAdvisory`: tells the customer which endpoints the network blocks.
-/

namespace OnCall

/-- What a check of the egress came to. -/
inductive EgressFinding where
  | passed
  /-- Endpoints cannot be reached. -/
  | blocked (endpoints : String)
  /-- The probe came to no verdict. -/
  | toolingError (failure : Failure)

namespace EgressFinding

/-- Where to probe: the customer's subnets, else those of the infrastructure. A missing security
group is left out. -/
def target (ctx : Context) : Fallible EgressTarget := do
  let client ← MonadExcept.ofExcept ctx.cloudClient
  let infraId ← MonadExcept.ofExcept ctx.infraId
  let subnetIds ←
    if ctx.cluster.subnetIds.isEmpty then Work.subnets client infraId
    else pure ctx.cluster.subnetIds
  if subnetIds.isEmpty then throw (.root (.noSubnets infraId))
  let group ← liftM (n := Fallible) (Work.securityGroup client infraId).run
  return {
    clusterId := ctx.cluster.id
    region := ctx.cluster.region
    subnetIds := subnetIds
    securityGroupId := group.toOption
    hosted := ctx.cluster.hosted }

/-- Probe the egress of the cluster. -/
def run (ctx : Context) : Work EgressFinding := do
  match ← (target ctx >>= Work.verifyEgress).run with
  | .ok .success => return .passed
  | .ok (.failure endpoints) => return .blocked endpoints
  | .error failure => return .toolingError failure

end EgressFinding

/-- Where the firewall prerequisites of a product are documented. -/
def Product.firewallGuide : Product → String
  | .rosa => "https://docs.openshift.com/rosa/rosa_install_access_delete_clusters/rosa_getting_started_iam/rosa-aws-prereqs.html#osd-aws-privatelink-firewall-prerequisites_prerequisites"
  | .osd | .unknown => "https://docs.openshift.com/dedicated/osd_planning/aws-ccs.html#osd-aws-privatelink-firewall-prerequisites_aws-ccs"

/-- The tag of advisories that ask the customer to act. -/
def manualActionService : String := "SREManualAction"

/-- The advisory about blocked endpoints. -/
def egressAdvisory (product : Product) (endpoints : String) : Advisory.Draft where
  severity := .warning
  summary := "Action required: Network misconfiguration"
  description :=
    "Your cluster requires you to take action. The cluster is unable to reach the following " ++
    "required endpoints: " ++ endpoints ++ ". Please review your firewall and proxy " ++
    "configuration against " ++ Product.firewallGuide product ++ "."
  serviceTag := manualActionService

end OnCall
