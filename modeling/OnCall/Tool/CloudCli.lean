import OnCall.Collaboration
import OnCall.Tool.CloudReply
import OnCall.Tool.Command

/-!
# The cloud's command line

The cloud account of a cluster is reached through the cloud's own command line: each call starts
it with a service, an operation and the region, and reads the JSON it writes.

* `CloudCli`: the tool with the region and the profile of one account.
* `CloudCli.perform`: each `CloudCall` as starts of the tool.
* `CloudCli.stopEvents`: one look-up per instance, merged: every event once, by time.
* `CloudCliFactory.client`: the tool for one cluster, once its credentials are accepted.
-/

namespace OnCall

/-- The cloud's command line, for one account and region. -/
structure CloudCli where
  tool : Tool
  region : String
  profile : Option String

namespace CloudCli

/-! ## 1. Calls of the tool -/

/-- The arguments of one call. -/
def arguments (cli : CloudCli) (service operation : String) (more : List String) : List String :=
  [service, operation, "--output", "json", "--region", cli.region] ++
    (cli.profile.map fun p => ["--profile", p]).getD [] ++ more

/-- One call, its reply read by `value`. -/
def call {α : Type} (cli : CloudCli) (service operation : String) (value : Json → Option α)
    (more : List String) : ToolWork α :=
  (cli.tool.read value (cli.arguments service operation more)).describe
    ("aws " ++ service ++ " " ++ operation ++ " failed")

/-- Confirm that the credentials are accepted. -/
def validate (cli : CloudCli) : ToolWork Unit := do
  discard (cli.call "sts" "get-caller-identity" CloudReply.identity? [])

/-- What every resource of a cluster is tagged with. -/
def ownerTag (infraId : String) : String := "Name=tag:kubernetes.io/cluster/" ++ infraId

/-- The instances of a cluster in some states. -/
def instances (cli : CloudCli) (infraId : String) (states : List InstanceState) :
    ToolWork (List Instance) :=
  cli.call "ec2" "describe-instances" CloudReply.instances?
    ["--filters", ownerTag infraId ++ ",Values=owned",
      "Name=instance-state-name,Values=" ++ ",".intercalate (states.map InstanceState.name)]

def stoppedInstances (cli : CloudCli) (infraId : String) : ToolWork (List Instance) :=
  cli.instances infraId [.pending, .stopping, .stopped, .shuttingDown, .terminated]

def runningInstances (cli : CloudCli) (infraId : String) : ToolWork (List Instance) :=
  cli.instances infraId [.running]

def routeTables (cli : CloudCli) (subnetId : String) : ToolWork (List RouteTable) :=
  cli.call "ec2" "describe-route-tables" CloudReply.routeTables?
    ["--filters", "Name=association.subnet-id,Values=" ++ subnetId]

def subnets (cli : CloudCli) (infraId : String) : ToolWork (List String) :=
  cli.call "ec2" "describe-subnets" CloudReply.subnets?
    ["--filters", ownerTag infraId ++ ",Values=owned,shared"]

/-- The security group of the control plane: the first one of either name. -/
def securityGroup (cli : CloudCli) (infraId : String) : ToolWork String := do
  let groups ← cli.call "ec2" "describe-security-groups" CloudReply.securityGroups?
    ["--filters", "Name=tag:Name,Values=" ++ infraId ++ "-master-sg," ++ infraId ++ "-controlplane"]
  match groups with
  | group :: _ => return group
  | [] => throw (.root (.noSecurityGroup infraId))

/-! ## 2. Stop events -/

/-- The largest page of events that the tool accepts. -/
def largestPage : Nat := 50

/-- The events of one instance since a moment. -/
def stopEventsOf (cli : CloudCli) (since : Instant) (most : Nat) (instanceId : String) :
    ToolWork (List AuditEvent) := do
  let events ← cli.call "cloudtrail" "lookup-events" CloudReply.loggedEvents?
    ["--lookup-attributes", "AttributeKey=ResourceName,AttributeValue=" ++ instanceId,
      "--start-time", since.offsetText, "--max-results", toString (min most largestPage)]
  match CloudReply.LoggedEvent.stops events with
  | .ok stops => return stops
  | .error f => throw f

/-- Append the events whose id is not known yet. -/
def mergeEvents (known : List AuditEvent) : List AuditEvent → List AuditEvent
  | [] => known
  | e :: events =>
    mergeEvents (if known.any fun k => k.eventId = e.eventId then known else known ++ [e]) events

/-- The events of the instances, after those that are known. -/
def gatherEvents (cli : CloudCli) (since : Instant) (most : Nat) :
    List AuditEvent → List String → ToolWork (List AuditEvent)
  | known, [] => return known
  | known, instanceId :: instanceIds => do
    cli.gatherEvents since most (mergeEvents known (← cli.stopEventsOf since most instanceId))
      instanceIds

/-- The events by time; events of the same time stay in their order. -/
def byTime (events : List AuditEvent) : List AuditEvent :=
  events.mergeSort fun a b => decide (a.eventTime ≤ b.eventTime)

/-- The events that stopped or removed some instances. -/
def stopEvents (cli : CloudCli) (instanceIds : List String) (since : Instant) (most : Nat) :
    ToolWork (List AuditEvent) := do
  return byTime (← cli.gatherEvents since most [] instanceIds)

/-! ## 3. All calls -/

/-- Make a call to the cloud account. -/
def perform (cli : CloudCli) : (call : CloudCall) → ToolWork call.Answer
  | .stoppedInstances infraId => cli.stoppedInstances infraId
  | .runningInstances infraId => cli.runningInstances infraId
  | .stopEvents instanceIds since most => cli.stopEvents instanceIds since most
  | .routeTables subnetId => cli.routeTables subnetId
  | .subnets infraId => cli.subnets infraId
  | .securityGroup infraId => cli.securityGroup infraId

end CloudCli

/-- What is needed to reach the account of any cluster. -/
structure CloudCliFactory where
  tool : Tool
  profile : Option String

/-- The command line for the account of a cluster, once its credentials are accepted. Only one
cloud has such a command line. -/
def CloudCliFactory.client (factory : CloudCliFactory) (cluster : Cluster) : ToolWork CloudCli := do
  if cluster.cloudProvider ≠ "aws" then
    throw (.root (.unsupportedCloud cluster.cloudProvider cluster.id))
  let cli : CloudCli := ⟨factory.tool, cluster.region, factory.profile⟩
  cli.validate.describe ("cannot access the cloud account of " ++ cluster.id)
  return cli

end OnCall
