import OnCall.Cloud.Records
import OnCall.Failure.Basic
import OnCall.Json.Quantity

/-!
# Replies of the cloud's command line

Each reply is an object whose only field of interest is a list, which may be missing. Names start
with a capital letter, and everything else in a reply is passed over.

* `instances?`, `routeTables?`, `subnets?`, `securityGroups?`, `identity?`: readers of the replies.
* `LoggedEvent`, `loggedEvents?`: events of the audit trail. Their time is a timestamp or a number
  of seconds since 1970, and only `LoggedEvent.auditEvent` settles whether that is a moment.
-/

namespace OnCall.CloudReply

/-- A record that consists of one list, empty if it is missing. -/
def listing? {α : Type} (name : String) (item : Json → Option α) (j : Json) : Option (List α) := do
  match ← Json.fields? [name] j with
  | [items] => items.defaulted [] (Json.list? item)
  | _ => none

/-! ## 1. Machines and networks -/

def instanceState? (j : Json) : Option InstanceState := do
  match ← Json.fields? ["Name"] j with
  | [name] => name.required InstanceState.ofJson?
  | _ => none

def instance? (j : Json) : Option Instance := do
  match ← Json.fields? ["InstanceId", "InstanceType", "State"] j with
  | [id, instanceType, state] =>
    return {
      id := ← id.required Json.string?
      instanceType := ← instanceType.optional Json.string?
      state := ← state.required instanceState? }
  | _ => none

/-- The instances of all reservations, in their order. -/
def instances? (j : Json) : Option (List Instance) :=
  (listing? "Reservations" (listing? "Instances" instance?) j).map List.flatten

def route? (j : Json) : Option Route := do
  match ← Json.fields? ["DestinationCidrBlock", "GatewayId", "NatGatewayId", "TransitGatewayId",
      "State"] j with
  | [destinationCidr, gatewayId, natGatewayId, transitGatewayId, state] =>
    return {
      destinationCidr := ← destinationCidr.optional Json.string?
      gatewayId := ← gatewayId.optional Json.string?
      natGatewayId := ← natGatewayId.optional Json.string?
      transitGatewayId := ← transitGatewayId.optional Json.string?
      state := ← state.optional Json.string? }
  | _ => none

def routeTable? (j : Json) : Option RouteTable := do
  match ← Json.fields? ["RouteTableId", "Routes"] j with
  | [id, routes] =>
    return {
      id := ← id.required Json.string?
      routes := ← routes.defaulted [] (Json.list? route?) }
  | _ => none

def routeTables? : Json → Option (List RouteTable) := listing? "RouteTables" routeTable?

/-- A record that consists of one text. -/
def named? (name : String) (j : Json) : Option String := do
  match ← Json.fields? [name] j with
  | [value] => value.required Json.string?
  | _ => none

def subnets? : Json → Option (List String) := listing? "Subnets" (named? "SubnetId")

def securityGroups? : Json → Option (List String) := listing? "SecurityGroups" (named? "GroupId")

/-- Whom the credentials belong to. -/
structure Identity where
  account : String
  arn : String

def identity? (j : Json) : Option Identity := do
  match ← Json.fields? ["Account", "Arn"] j with
  | [account, arn] => return ⟨← account.required Json.string?, ← arn.required Json.string?⟩
  | _ => none

/-! ## 2. The audit trail -/

/-- The time of an event as it is written. -/
inductive EventTime where
  | moment (instant : Instant)
  /-- Seconds since 1970. -/
  | seconds (quantity : Quantity)
deriving DecidableEq

def EventTime.ofJson? : Json → Option EventTime
  | .number n => n.quantity?.map .seconds
  | j => (Instant.ofJson? j).map .moment

/-- The moment of a time, if there is one. Seconds before 1970 are taken without what stands after
the point. -/
def EventTime.instant? : EventTime → Option Instant
  | moment t => some t
  | seconds (.whole s) => Instant.of? s 0
  | seconds (.real negative size) =>
    if negative then Instant.of? (-size.whole) 0
    else Instant.of? size.whole (size.fraction.mul (.ofNat nanosPerSecond)).whole

/-- An event of the audit trail as the reply holds it. -/
structure LoggedEvent where
  id : String
  name : String
  time : EventTime
  username : Option String
  payload : String
deriving DecidableEq

def loggedEvent? (j : Json) : Option LoggedEvent := do
  match ← Json.fields? ["EventId", "EventName", "EventTime", "Username", "CloudTrailEvent"] j with
  | [id, name, time, username, payload] =>
    return {
      id := ← id.required Json.string?
      name := ← name.required Json.string?
      time := ← time.required EventTime.ofJson?
      username := ← username.optional Json.string?
      payload := ← payload.defaulted "" Json.string? }
  | _ => none

def loggedEvents? : Json → Option (List LoggedEvent) := listing? "Events" loggedEvent?

namespace LoggedEvent

/-- The names of events that stop or remove an instance. -/
def stopNames : List String := ["StopInstances", "TerminateInstances"]

/-- The event as a record of the audit trail. -/
def auditEvent (e : LoggedEvent) : Except Failure AuditEvent :=
  match e.time.instant? with
  | some t => .ok ⟨e.id, e.name, t, e.username, e.payload⟩
  | none => .error (.root (.invalidEventTime e.id))

/-- The events that stop or remove an instance; one of them without a moment spoils the reply. -/
def stops (events : List LoggedEvent) : Except Failure (List AuditEvent) :=
  (events.filter fun e => stopNames.contains e.name).mapM auditEvent

end LoggedEvent

end OnCall.CloudReply
