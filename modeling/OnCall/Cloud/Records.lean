import OnCall.Cluster

/-!
# Records of the cloud account

* `Instance`: a machine of a cluster.
* `AuditEvent`: a record of who stopped or removed machines.
* `RouteTable`: the routes of a subnet.

Each record is read by `ofJson?` and written by `toJson`.
-/

namespace OnCall

/-- The lifecycle state of an instance. -/
inductive InstanceState where
  | pending
  | running
  | shuttingDown
  | terminated
  | stopping
  | stopped
  | unknown
deriving DecidableEq

namespace InstanceState

/-- The name of a state, as it is shown and written. -/
def name : InstanceState → String
  | pending => "pending"
  | running => "running"
  | shuttingDown => "shutting-down"
  | terminated => "terminated"
  | stopping => "stopping"
  | stopped => "stopped"
  | unknown => "unknown"

/-- The states that have a name of their own. -/
def known : List InstanceState :=
  [pending, running, shuttingDown, terminated, stopping, stopped]

def ofJson? : Json → Option InstanceState :=
  Json.choice? (known.map fun s => (s.name, s)) (some unknown)

def toJson (s : InstanceState) : Json := .text s.name

end InstanceState

/-- A machine that belongs to a cluster. -/
structure Instance where
  id : String
  state : InstanceState
  instanceType : Option String
deriving DecidableEq

namespace Instance

def ofJson? (j : Json) : Option Instance := do
  match ← Json.fields? ["id", "state", "instance_type"] j with
  | [id, state, instanceType] =>
    return {
      id := ← id.required Json.string?
      state := ← state.required InstanceState.ofJson?
      instanceType := ← instanceType.optional Json.string? }
  | _ => none

def toJson (i : Instance) : Json :=
  .record [("id", .text i.id), ("state", i.state.toJson), ("instance_type", .text? i.instanceType)]

end Instance

/-- A record of the audit trail. -/
structure AuditEvent where
  eventId : String
  eventName : String
  eventTime : Instant
  /-- The user that the audit trail names outside of the payload. -/
  username : Option String
  /-- The event as the cloud wrote it, in JSON. -/
  payload : String
deriving DecidableEq

namespace AuditEvent

def ofJson? (j : Json) : Option AuditEvent := do
  match ← Json.fields? ["event_id", "event_name", "event_time", "username", "payload"] j with
  | [eventId, eventName, eventTime, username, payload] =>
    return {
      eventId := ← eventId.required Json.string?
      eventName := ← eventName.required Json.string?
      eventTime := ← eventTime.required Instant.ofJson?
      username := ← username.optional Json.string?
      payload := ← payload.required Json.string? }
  | _ => none

def toJson (e : AuditEvent) : Json :=
  .record [("event_id", .text e.eventId), ("event_name", .text e.eventName),
    ("event_time", e.eventTime.toJson), ("username", .text? e.username),
    ("payload", .text e.payload)]

end AuditEvent

/-- An entry of a route table. -/
structure Route where
  destinationCidr : Option String
  gatewayId : Option String
  natGatewayId : Option String
  transitGatewayId : Option String
  state : Option String
deriving DecidableEq

namespace Route

def ofJson? (j : Json) : Option Route := do
  match ← Json.fields? ["destination_cidr", "gateway_id", "nat_gateway_id", "transit_gateway_id",
      "state"] j with
  | [destinationCidr, gatewayId, natGatewayId, transitGatewayId, state] =>
    return {
      destinationCidr := ← destinationCidr.optional Json.string?
      gatewayId := ← gatewayId.optional Json.string?
      natGatewayId := ← natGatewayId.optional Json.string?
      transitGatewayId := ← transitGatewayId.optional Json.string?
      state := ← state.optional Json.string? }
  | _ => none

def toJson (r : Route) : Json :=
  .record [("destination_cidr", .text? r.destinationCidr), ("gateway_id", .text? r.gatewayId),
    ("nat_gateway_id", .text? r.natGatewayId), ("transit_gateway_id", .text? r.transitGatewayId),
    ("state", .text? r.state)]

end Route

/-- A route table of a subnet. -/
structure RouteTable where
  id : String
  routes : List Route
deriving DecidableEq

namespace RouteTable

def ofJson? (j : Json) : Option RouteTable := do
  match ← Json.fields? ["id", "routes"] j with
  | [id, routes] =>
    return {
      id := ← id.required Json.string?
      routes := ← routes.required (Json.list? Route.ofJson?) }
  | _ => none

def toJson (t : RouteTable) : Json :=
  .record [("id", .text t.id), ("routes", .array (t.routes.map Route.toJson))]

end RouteTable

end OnCall
