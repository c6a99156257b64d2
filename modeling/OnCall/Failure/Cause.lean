import OnCall.Text.Quoted
import OnCall.Time.Span

/-!
# Causes of failures

A cause is where a failure starts. It has a text, and below it the texts of what another system
said, if the cause passes them on.

* `ApiFault`, `CommandFault`, `DeploymentFault`: what can go wrong with a web service, an external
  tool and the lookup of deployments.
* `Cause`: any cause; `Cause.text` and `Cause.beneath` are its texts.
-/

namespace OnCall

/-- An exit code as it is shown: a process that a signal ended has none. -/
def exitCodeText : Option Int → String
  | none => "None"
  | some code => "Some(" ++ toString code ++ ")"

/-- What is said of a request that could not be put together, the nearest text first. -/
def unsentTexts : List String := ["builder error", "failed to parse header value"]

/-- What can go wrong with a request to a web service. -/
inductive ApiFault where
  /-- The request could not be put together. -/
  | unsent
  /-- The request was not answered, or the answer could not be read. -/
  | http (report : String)
  /-- The service answered with a status other than success. -/
  | status (code : Nat) (message : String)
  /-- The service does not know the resource. -/
  | notFound (resource : String)
  /-- The answer misses what it should hold. -/
  | unexpected (report : String)
deriving DecidableEq

namespace ApiFault

def text : ApiFault → String
  | unsent => "HTTP error: builder error"
  | http report => "HTTP error: " ++ report
  | status code message => "API error: " ++ toString code ++ " - " ++ message
  | notFound resource => "Resource not found: " ++ resource
  | unexpected report => "Unexpected response: " ++ report

def beneath : ApiFault → List String
  | unsent => unsentTexts
  | http report => [report]
  | _ => []

end ApiFault

/-- What can go wrong with an external tool. -/
inductive CommandFault where
  /-- The tool could not be started. -/
  | spawn (program report : String)
  /-- The tool did not end in time and was stopped. -/
  | timeout (program : String) (limit : Span)
  /-- The tool ended without success. -/
  | failed (program : String) (code : Option Int) (stdout stderr : String)
  /-- The tool succeeded, but its output could not be read. -/
  | output (program report : String)
deriving DecidableEq

namespace CommandFault

def text : CommandFault → String
  | spawn program _ => "failed to execute " ++ program
  | timeout program limit => program ++ " did not finish within " ++ limit.text
  | failed program code _ stderr => program ++ " exited with " ++ exitCodeText code ++ ": " ++ stderr
  | output program _ => "unexpected output from " ++ program

def beneath : CommandFault → List String
  | spawn _ report => [report]
  | output _ report => [report]
  | _ => []

end CommandFault

/-- What the service of deployment records says when it refuses a request. -/
structure Refusal where
  status : String
  message : String
  reason : String
  code : Nat
deriving DecidableEq

namespace Refusal

def text (r : Refusal) : String := r.message ++ ": " ++ r.reason

/-- All parts of a refusal. -/
def parts (r : Refusal) : String :=
  "ErrorResponse \x7b status: " ++ Text.quoted r.status ++ ", message: " ++ Text.quoted r.message ++
    ", reason: " ++ Text.quoted r.reason ++ ", code: " ++ toString r.code ++ " \x7d"

/-- The text of a refusal and all its parts. -/
def report (r : Refusal) : String := "ApiError: " ++ r.text ++ " (" ++ r.parts ++ ")"

end Refusal

/-- What can go wrong with the lookup of a deployment. -/
inductive DeploymentFault where
  /-- The lookup was not answered, or the answer could not be read. -/
  | kube (report : String)
  | refused (refusal : Refusal)
  | notFound (clusterId : String)
  | ambiguous (clusterId : String) (count : Nat)
  | missingField (name field : String)
deriving DecidableEq

namespace DeploymentFault

def text : DeploymentFault → String
  | kube report => "kubernetes API error: " ++ report
  | refused refusal => "kubernetes API error: " ++ refusal.report
  | notFound clusterId => "no ClusterDeployment labelled for cluster " ++ clusterId
  | ambiguous clusterId count =>
    toString count ++ " ClusterDeployments labelled for cluster " ++ clusterId
  | missingField name field => "ClusterDeployment " ++ name ++ " has no " ++ field

def beneath : DeploymentFault → List String
  | kube report => [report]
  | refused refusal => [refusal.report, refusal.text]
  | _ => []

end DeploymentFault

/-- Where a failure starts. -/
inductive Cause where
  /-- What a platform said. -/
  | reported (text : String)
  /-- A request to a web service could not be put together. -/
  | unsent
  | api (fault : ApiFault)
  | command (fault : CommandFault)
  | deployment (fault : DeploymentFault)
  /-- A text is not JSON of the form that is expected, as its reader reports. -/
  | malformedJson (report : String)
  /-- An investigation needs the cloud account and did not ask for it. -/
  | cloudNotRequested (investigation : String)
  | noInfraId (clusterId : String)
  | noSubnets (infraId : String)
  /-- A restriction or an advisory needs a cluster. -/
  | noCluster (action : String)
  /-- The version of an audit event is not of the form `major.minor`. -/
  | malformedVersion (version : String)
  /-- The version of an audit event is too old, or of another kind. -/
  | unsupportedVersion (version : String)
  | noStopEvents
  | nothingToVerify (clusterId : String)
  | noVerdict (code : Option Int) (stderr : String)
  | noSecurityGroup (infraId : String)
  | unsupportedCloud (cloudProvider clusterId : String)
  | invalidEventTime (eventId : String)
deriving DecidableEq

namespace Cause

/-- The text of a cause. -/
def text : Cause → String
  | reported text => text
  | unsent => "builder error"
  | api fault => fault.text
  | command fault => fault.text
  | deployment fault => fault.text
  | malformedJson report => report
  | cloudNotRequested investigation => investigation ++ " did not request a cloud provider"
  | noInfraId clusterId => "no infrastructure id known for cluster " ++ clusterId
  | noSubnets infraId => "no subnets found for " ++ infraId
  | noCluster action => "cannot " ++ action ++ " without a resolved cluster"
  | malformedVersion version => "malformed audit event version '" ++ version ++ "'"
  | unsupportedVersion version =>
    "unsupported audit event version " ++ version ++ ", need 1.8 or newer"
  | noStopEvents => "no stop or terminate events found"
  | nothingToVerify clusterId => "no subnets to verify egress from for cluster " ++ clusterId
  | noVerdict code stderr =>
    "egress verifier exited with " ++ exitCodeText code ++ " without a verdict: " ++ stderr
  | noSecurityGroup infraId => "no control plane security group found for " ++ infraId
  | unsupportedCloud cloudProvider clusterId =>
    "unsupported cloud provider '" ++ cloudProvider ++ "' for cluster " ++ clusterId
  | invalidEventTime eventId => "invalid time on audit event " ++ eventId

/-- The texts that the cause passes on, the nearest first. -/
def beneath : Cause → List String
  | unsent => unsentTexts.tail
  | api fault => fault.beneath
  | command fault => fault.beneath
  | deployment fault => fault.beneath
  | _ => []

end Cause

end OnCall
