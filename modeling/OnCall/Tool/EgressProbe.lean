import OnCall.Collaboration
import OnCall.Text.Occurs
import OnCall.Tool.Command

/-!
# Probing the egress of a cluster

The probe is an external tool that tries, from inside one subnet, the endpoints a cluster has to
reach, and writes a marked line for each one that it cannot reach.

* `EgressProbe.blocked`: the marked lines of an output.
* `EgressProbe.verdict`: what one run of the tool says about its subnet; a run that failed and
  marked nothing says nothing.
* `EgressProbe.verify`: every subnet once, in order, until a run says nothing.
-/

namespace OnCall

/-- The tool that probes the egress, and the credentials it uses. -/
structure EgressProbe where
  tool : Tool
  profile : Option String

namespace EgressProbe

/-- What stands in the line of an endpoint that cannot be reached. -/
def mark : String := "egressURL error"

/-- The marked lines of an output, without the blanks around them. -/
def blocked (output : String) : List String :=
  ((Text.lines output.toList).map fun line => String.ofList (Text.trim line)).filter
    (Text.occursIn mark)

/-- The arguments of the tool for one subnet. -/
def arguments (probe : EgressProbe) (target : EgressTarget) (subnetId : String) : List String :=
  ["egress", "--subnet-id", subnetId, "--region", target.region] ++
    (target.securityGroupId.map fun g => ["--security-group-id", g]).getD [] ++
    (if target.hosted then ["--platform", "hostedcluster"] else []) ++
    (probe.profile.map fun p => ["--profile", p]).getD []

/-- The marked lines of a run: those of the standard output before those of the error output. No
answer if the tool failed without marking any. -/
def verdict (run : Captured) : Except Cause (List String) :=
  let lines := blocked (run.stdout ++ "\n" ++ run.stderr)
  if lines.isEmpty && !run.succeeded then .error (.noVerdict run.code run.stderr) else .ok lines

/-- The marked lines of all subnets, subnet by subnet. -/
def probe (probe : EgressProbe) (target : EgressTarget) : List String → ToolWork (List String)
  | [] => return []
  | subnetId :: subnetIds => do
    let run ← probe.tool.capture (probe.arguments target subnetId)
    match verdict run with
    | .error cause => throw (.root cause)
    | .ok lines => return lines ++ (← probe.probe target subnetIds)

/-- Probe every subnet of a target. Without a subnet there is nothing to verify. -/
def verify (probe : EgressProbe) (target : EgressTarget) : ToolWork EgressReport := do
  if target.subnetIds.isEmpty then throw (.root (.nothingToVerify target.clusterId))
  match ← probe.probe target target.subnetIds with
  | [] => return .success
  | lines => return .failure ("\n".intercalate lines)

end EgressProbe

end OnCall
