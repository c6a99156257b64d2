import OnCall.Collaboration
import OnCall.Web.Message

/-!
# The paging platform as a web service

An incident is escalated by moving it to a policy that pages a person, and silenced by moving it to
one that pages nobody.

* `PagingService`: the address, the account and the two policies.
* `PagingService.perform`: each `PagerCall` as a request.
* `PagingService.clusterOf`: the cluster that an incident is about.
-/

namespace OnCall

/-- The paging platform, reached over the web. -/
structure PagingService where
  address : String
  token : String
  /-- The address of the account that acts on incidents. -/
  sender : String
  escalationPolicy : String
  silentPolicy : String

namespace PagingService

def standardAddress : String := "https://api.pagerduty.com"

/-- A request for a path of the platform. -/
def request (s : PagingService) (method : WebMethod) (path : String) (body : Option Json) :
    WebRequest where
  method := method
  address := s.address ++ path
  query := []
  headers := [("authorization", "Token token=" ++ s.token),
    ("accept", "application/vnd.pagerduty+json;version=2"), ("from", s.sender)]
  body := body
  limit := some (.ofSeconds 30)

/-- Move an incident to another policy. -/
def move (s : PagingService) (incidentId policy : String) : WebWork Unit := do
  let body := Json.record [("incident", .record [("type", .text "incident_reference"),
    ("escalation_policy", .record [("id", .text policy),
      ("type", .text "escalation_policy_reference")])])]
  let reply ← WebWork.send (s.request .put ("/incidents/" ++ incidentId) (some body))
  discard (WebWork.settle (reply.content .asFault incidentId))

def addNote (s : PagingService) (incidentId text : String) : WebWork Unit := do
  let body := Json.record [("note", .record [("content", .text text)])]
  let reply ← WebWork.send (s.request .post ("/incidents/" ++ incidentId ++ "/notes") (some body))
  discard (WebWork.settle (reply.content .bare incidentId))

def escalate (s : PagingService) (incidentId : String) : WebWork Unit :=
  (s.move incidentId s.escalationPolicy).describe ("failed to escalate incident " ++ incidentId)

def silence (s : PagingService) (incidentId : String) : WebWork Unit :=
  (s.move incidentId s.silentPolicy).describe ("failed to silence incident " ++ incidentId)

/-- Make a call to the paging platform. The reason of a move is not sent. -/
def perform (s : PagingService) : PagerCall → WebWork Unit
  | .addNote incidentId text => s.addNote incidentId text
  | .escalate incidentId _ => s.escalate incidentId
  | .silence incidentId _ => s.silence incidentId

/-! ## The cluster of an incident -/

/-- The only field of a record, which may be missing. -/
def only? {α : Type} (name : String) (value : Json → Option α) (j : Json) : Option (Option α) := do
  match ← Json.fields? [name] j with
  | [field] => field.optional value
  | _ => none

/-- The cluster that an alert of an incident names in the details of its body. -/
def alertCluster? (j : Json) : Option (Option String) :=
  (only? "body" (only? "details" (only? "cluster_id" Json.string?)) j).map
    fun body => body.join.join

def alertClusters? (j : Json) : Option (List (Option String)) := do
  match ← Json.fields? ["alerts"] j with
  | [alerts] => alerts.defaulted [] (Json.list? alertCluster?)
  | _ => none

/-- The cluster of an incident: the one that the first alert with a cluster names. -/
def clusterOf (s : PagingService) (incidentId : String) : WebWork String := do
  let reply ← WebWork.send (s.request .get ("/incidents/" ++ incidentId ++ "/alerts") none)
  let clusters ← WebWork.settle (reply.read .bare incidentId alertClusters?)
  match clusters.findSome? id with
  | some clusterId => return clusterId
  | none =>
    throw (.root (.api (.unexpected ("no cluster_id in alerts of incident " ++ incidentId))))

end PagingService

end OnCall
