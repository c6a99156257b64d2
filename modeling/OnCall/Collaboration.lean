import OnCall.Advisory
import OnCall.Cloud.Records
import OnCall.Failure.Basic
import OnCall.Program
import OnCall.Restriction
import OnCall.Retry
import OnCall.Tally

/-!
# What investigations ask of the platforms

* `ManagerCall`, `PagerCall`, `CloudCall`: calls to cluster management, to the paging platform and
  to the cloud account of a cluster; `Call` is any call to a platform, `Call.Answer` what it
  answers with if it does not fail.
* `Ask`: a call, the assisted analysis, a pause, a look at the clock, or a count.
* `collaboration`: the interface of these requests. A call is answered with a failure or an answer,
  and a failing call says nothing about what it did.
-/

namespace OnCall

/-! ## 1. Values that only travel with calls -/

/-- A client of the cloud account of one cluster, as opened by the platform. -/
structure CloudClient where
  session : Nat
deriving DecidableEq

/-- Where to probe the egress of a cluster. -/
structure EgressTarget where
  clusterId : String
  region : String
  subnetIds : List String
  securityGroupId : Option String
  hosted : Bool
deriving DecidableEq

def EgressTarget.toJson (t : EgressTarget) : Json :=
  .record [("cluster_id", .text t.clusterId), ("region", .text t.region),
    ("subnet_ids", .texts t.subnetIds), ("security_group_id", .text? t.securityGroupId),
    ("hosted_control_plane", .bool t.hosted)]

/-- What a probe of the egress found. -/
inductive EgressReport where
  | success
  /-- The blocked endpoints, one per line. -/
  | failure (text : String)
deriving DecidableEq

/-- What an assisted analysis is given. -/
structure AnalysisRequest where
  clusterId : String
  externalId : String
  organizationId : Option String
  alertTitle : String
  notes : List String
deriving DecidableEq

def AnalysisRequest.toJson (r : AnalysisRequest) : Json :=
  .record [("cluster_id", .text r.clusterId), ("external_id", .text r.externalId),
    ("organization_id", .text? r.organizationId), ("alert_title", .text r.alertTitle),
    ("notes", .texts r.notes)]

/-! ## 2. Calls -/

/-- Calls to cluster management. -/
inductive ManagerCall where
  | cluster (clusterId : String)
  | expectedNodes (cluster : Cluster)
  | restrictions (clusterId : String)
  | postRestriction (clusterId : String) (restriction : Restriction)
  | deleteRestriction (clusterId restrictionId : String)
  | postAdvisory (cluster : Cluster) (advisory : Advisory)
  | advisories (cluster : Cluster) (filter : AdvisoryFilter)
  | stateTransitions (cluster : Cluster)
  | organization (cluster : Cluster)
  | accessProtection (cluster : Cluster)
deriving DecidableEq

def ManagerCall.Answer : ManagerCall → Type
  | cluster _ => Cluster
  | expectedNodes _ => NodeCount
  | restrictions _ => List Restriction
  | postRestriction _ _ => Unit
  | deleteRestriction _ _ => Unit
  | postAdvisory _ _ => Unit
  | advisories _ _ => List AdvisoryEntry
  | stateTransitions _ => List StateTransition
  | organization _ => String
  | accessProtection _ => Bool

/-- Calls to the paging platform. -/
inductive PagerCall where
  | addNote (incidentId text : String)
  | escalate (incidentId reason : String)
  | silence (incidentId reason : String)
deriving DecidableEq

/-- Calls to the cloud account of a cluster. -/
inductive CloudCall where
  | stoppedInstances (infraId : String)
  | runningInstances (infraId : String)
  | stopEvents (instanceIds : List String) (since : Instant) (most : Nat)
  | routeTables (subnetId : String)
  | subnets (infraId : String)
  | securityGroup (infraId : String)
deriving DecidableEq

def CloudCall.Answer : CloudCall → Type
  | stoppedInstances _ => List Instance
  | runningInstances _ => List Instance
  | stopEvents _ _ _ => List AuditEvent
  | routeTables _ => List RouteTable
  | subnets _ => List String
  | securityGroup _ => String

/-- A call to a platform. -/
inductive Call where
  | manager (call : ManagerCall)
  | pager (call : PagerCall)
  | cloud (client : CloudClient) (call : CloudCall)
  | openCloud (cluster : Cluster)
  | deployment (clusterId : String)
  | verifyEgress (target : EgressTarget)
deriving DecidableEq

def Call.Answer : Call → Type
  | manager call => call.Answer
  | pager _ => Unit
  | cloud _ call => call.Answer
  | openCloud _ => CloudClient
  | deployment _ => Deployment
  | verifyEgress _ => EgressReport

/-! ## 3. Requests -/

/-- A reply that took a while. -/
structure Timed (α : Type) where
  elapsed : Span
  reply : α

/-- A request of an investigation. -/
inductive Ask where
  | call (call : Call)
  /-- An assisted analysis; nobody waits for it longer than `limit`. -/
  | analyze (request : AnalysisRequest) (limit : Span)
  | pause (span : Span)
  | now
  | count (counter : Counter)
deriving DecidableEq

/-- What a request is answered with. -/
def Ask.Reply : Ask → Type
  | call c => Except Failure c.Answer
  | analyze _ _ => Timed (Except Failure String)
  | pause _ => Unit
  | now => Instant
  | count _ => Unit

/-- The requests of an investigation and their replies. -/
def collaboration : Interface := ⟨Ask, Ask.Reply⟩

/-- A program that works with the platforms. -/
abbrev Work (α : Type) := Program collaboration α

/-- A program that works with the platforms and may fail. -/
abbrev Fallible (α : Type) := ExceptT Failure (Program collaboration) α

/-- The same program, with a text added to its failure. -/
def Fallible.describe {α : Type} (text : String) (x : Fallible α) : Fallible α :=
  ExceptT.adapt (Failure.context text) x

namespace Work

/-- Make a call. -/
def call (c : Call) : Fallible c.Answer :=
  ExceptT.mk (Program.request (I := collaboration) (.call c))

/-- Wait. -/
def pause (span : Span) : Work Unit :=
  Program.request (I := collaboration) (.pause span)

/-- Look at the clock. -/
def now : Work Instant :=
  Program.request (I := collaboration) .now

/-- Bump a counter. -/
def count (counter : Counter) : Work Unit :=
  Program.request (I := collaboration) (.count counter)

/-- Ask for an assisted analysis. -/
def analyze (request : AnalysisRequest) (limit : Span) : Work (Timed (Except Failure String)) :=
  Program.request (I := collaboration) (.analyze request limit)

/-- Try again under a policy, whatever the failure. -/
def retried {α : Type} (policy : RetryPolicy) (x : Fallible α) : Fallible α :=
  ExceptT.mk (policy.run pause (fun _ => pure true) x.run)

/-! ## 4. Single calls -/

def fetchCluster (clusterId : String) : Fallible Cluster :=
  call (.manager (.cluster clusterId))

def expectedNodes (cluster : Cluster) : Fallible NodeCount :=
  call (.manager (.expectedNodes cluster))

def listRestrictions (clusterId : String) : Fallible (List Restriction) :=
  call (.manager (.restrictions clusterId))

def postRestriction (clusterId : String) (r : Restriction) : Fallible Unit :=
  call (.manager (.postRestriction clusterId r))

def deleteRestriction (clusterId restrictionId : String) : Fallible Unit :=
  call (.manager (.deleteRestriction clusterId restrictionId))

def postAdvisory (cluster : Cluster) (advisory : Advisory) : Fallible Unit :=
  call (.manager (.postAdvisory cluster advisory))

def listAdvisories (cluster : Cluster) (filter : AdvisoryFilter) : Fallible (List AdvisoryEntry) :=
  call (.manager (.advisories cluster filter))

def stateTransitions (cluster : Cluster) : Fallible (List StateTransition) :=
  call (.manager (.stateTransitions cluster))

def organization (cluster : Cluster) : Fallible String :=
  call (.manager (.organization cluster))

def accessProtection (cluster : Cluster) : Fallible Bool :=
  call (.manager (.accessProtection cluster))

def addNote (incidentId text : String) : Fallible Unit :=
  call (.pager (.addNote incidentId text))

def escalate (incidentId reason : String) : Fallible Unit :=
  call (.pager (.escalate incidentId reason))

def silence (incidentId reason : String) : Fallible Unit :=
  call (.pager (.silence incidentId reason))

def stoppedInstances (client : CloudClient) (infraId : String) : Fallible (List Instance) :=
  call (.cloud client (.stoppedInstances infraId))

def runningInstances (client : CloudClient) (infraId : String) : Fallible (List Instance) :=
  call (.cloud client (.runningInstances infraId))

def stopEvents (client : CloudClient) (instanceIds : List String) (since : Instant) (most : Nat) :
    Fallible (List AuditEvent) :=
  call (.cloud client (.stopEvents instanceIds since most))

def routeTables (client : CloudClient) (subnetId : String) : Fallible (List RouteTable) :=
  call (.cloud client (.routeTables subnetId))

def subnets (client : CloudClient) (infraId : String) : Fallible (List String) :=
  call (.cloud client (.subnets infraId))

def securityGroup (client : CloudClient) (infraId : String) : Fallible String :=
  call (.cloud client (.securityGroup infraId))

def openCloud (cluster : Cluster) : Fallible CloudClient :=
  call (.openCloud cluster)

def fetchDeployment (clusterId : String) : Fallible Deployment :=
  call (.deployment clusterId)

def verifyEgress (target : EgressTarget) : Fallible EgressReport :=
  call (.verifyEgress target)

end Work

end OnCall
