import OnCall.Collaboration
import OnCall.Service.ManagementReply
import OnCall.Web.Message

/-!
# Cluster management as a web service

* `ManagementService`: the address of the service and the token that it is asked with.
* `ManagementService.perform`: each `ManagerCall` as requests.
* `searchFor`: the search expression of an `AdvisoryFilter`.
-/

namespace OnCall

/-- Cluster management, reached over the web. -/
structure ManagementService where
  address : String
  token : String

namespace ManagementService

open ManagementReply

/-- The address of the service, unless another one is given. -/
def standardAddress : String := "https://api.openshift.com"

/-! ## 1. Requests -/

/-- A request for a path of the service. -/
def request (s : ManagementService) (method : WebMethod) (path : String)
    (query : List (String × String)) (body : Option Json) : WebRequest where
  method := method
  address := s.address ++ path
  query := query
  headers := [("authorization", "Bearer " ++ s.token)]
  body := body
  limit := some (.ofSeconds 30)

/-- What a path holds. -/
def fetch {α : Type} (s : ManagementService) (path : String) (value : Json → Option α) :
    WebWork α := do
  WebWork.settle ((← WebWork.send (s.request .get path [] none)).read .asFault path value)

/-- Send something whose reply says no more than whether it succeeded. -/
def submit (s : ManagementService) (method : WebMethod) (path : String) (body : Option Json)
    (what : String) : WebWork Unit := do
  match ← WebWork.send (s.request method path [] body) with
  | reply@(.answered _ _) => (discard (WebWork.settle (reply.content .bare path))).describe what
  | reply => discard (WebWork.settle (reply.content .bare path))

/-! ## 2. Clusters -/

def clusterPath (clusterId : String) : String := "/api/clusters_mgmt/v1/clusters/" ++ clusterId

def cluster (s : ManagementService) (clusterId : String) : WebWork Cluster := do
  let reply ← (s.fetch (clusterPath clusterId) cluster?).describe
    ("failed to fetch cluster " ++ clusterId)
  return reply.cluster

/-- The range of the number of nodes: fixed ones only count where the control plane runs in the
account of the customer. -/
def expectedNodes (s : ManagementService) (c : Cluster) : WebWork NodeCount := do
  let path := clusterPath c.id ++ if c.hosted then "/node_pools" else "/machine_pools"
  let pools ← (s.fetch path (items? pool?)).describe ("failed to list machine pools of " ++ c.id)
  if c.hosted then return .expected 0 pools
  else return .expected (← s.fetch (clusterPath c.id) cluster?).fixedNodes pools

/-! ## 3. Restrictions -/

def restrictionsPath (clusterId : String) : String :=
  clusterPath clusterId ++ "/limited_support_reasons"

def restrictions (s : ManagementService) (clusterId : String) : WebWork (List Restriction) :=
  (s.fetch (restrictionsPath clusterId) (items? restriction?)).describe
    ("failed to list restrictions of " ++ clusterId)

def postRestriction (s : ManagementService) (clusterId : String) (r : Restriction) : WebWork Unit :=
  s.submit .post (restrictionsPath clusterId)
    (some (.record [("summary", .text r.summary), ("details", .text r.details),
      ("detection_type", .text "auto")]))
    ("failed to post restriction on " ++ clusterId)

def deleteRestriction (s : ManagementService) (clusterId restrictionId : String) : WebWork Unit :=
  s.submit .delete (restrictionsPath clusterId ++ "/" ++ restrictionId) none
    ("failed to delete restriction " ++ restrictionId)

/-! ## 4. The log -/

def postAdvisory (s : ManagementService) (c : Cluster) (a : Advisory) : WebWork Unit :=
  s.submit .post "/api/service_logs/v1/cluster_logs"
    (some (.record [("cluster_id", .text c.id), ("cluster_uuid", .text c.externalId),
      ("severity", a.severity.toJson), ("service_name", .text a.serviceName),
      ("summary", .text a.summary), ("description", .text a.description),
      ("internal_only", .bool a.internalOnly)]))
    ("failed to post advisory on " ++ c.id)

/-- The entries of a cluster's log that a search finds, the oldest first. -/
def entries (s : ManagementService) (c : Cluster) (search : Option String) :
    WebWork (List AdvisoryEntry) := do
  let path := "/api/service_logs/v1/clusters/" ++ c.externalId ++ "/cluster_logs"
  let query := [("orderBy", "timestamp asc"), ("size", "500")] ++
    (search.map fun e => [("search", e)]).getD []
  WebWork.settle ((← WebWork.send (s.request .get path query none)).read .asFault path
    (items? logEntry?))

/-- The search for what a filter admits, nothing if it admits everything. -/
def searchFor (f : AdvisoryFilter) : Option String :=
  match (f.logType.map fun t => "log_type = '" ++ t ++ "'").toList ++
      (f.since.map fun t => "timestamp >= '" ++ t.offsetText ++ "'").toList with
  | [] => none
  | clauses => some (" and ".intercalate clauses)

def advisories (s : ManagementService) (c : Cluster) (f : AdvisoryFilter) :
    WebWork (List AdvisoryEntry) :=
  (s.entries c (searchFor f)).describe ("failed to list advisories of " ++ c.id)

/-- The search for entries that may tell of hibernation. -/
def hibernationSearch : String := "summary ilike '%hibernat%' or summary ilike '%resum%'"

def stateTransitions (s : ManagementService) (c : Cluster) : WebWork (List StateTransition) := do
  let entries ← (s.entries c (some hibernationSearch)).describe
    ("failed to list state history of " ++ c.id)
  return entries.filterMap transition?

/-! ## 5. Accounts -/

def organization (s : ManagementService) (c : Cluster) : WebWork String :=
  match c.subscriptionId with
  | none => throw (.root (.api (.notFound ("subscription of cluster " ++ c.id))))
  | some id => s.fetch ("/api/accounts_mgmt/v1/subscriptions/" ++ id) organization?

def accessProtection (s : ManagementService) (c : Cluster) : WebWork Bool := do
  let reply ← WebWork.send
    (s.request .get "/api/access_transparency/v1/access_protection" [("clusterId", c.id)] none)
  WebWork.settle (reply.read .bare "access_protection" enabled?)

/-! ## 6. All calls -/

/-- Make a call to cluster management. -/
def perform (s : ManagementService) : (call : ManagerCall) → WebWork call.Answer
  | .cluster clusterId => s.cluster clusterId
  | .expectedNodes c => s.expectedNodes c
  | .restrictions clusterId => s.restrictions clusterId
  | .postRestriction clusterId r => s.postRestriction clusterId r
  | .deleteRestriction clusterId restrictionId => s.deleteRestriction clusterId restrictionId
  | .postAdvisory c a => s.postAdvisory c a
  | .advisories c f => s.advisories c f
  | .stateTransitions c => s.stateTransitions c
  | .organization c => s.organization c
  | .accessProtection c => s.accessProtection c

end ManagementService

end OnCall
