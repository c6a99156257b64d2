import OnCall.Json.Record

/-!
# Alerts

* `Alert`: an alert raised against one cluster, with the incident it belongs to.
* `Webhook`: the message by which the paging platform reports an incident;
  `Webhook.status?` is the status of the alert it stands for, if it stands for one.
-/

namespace OnCall

/-- Whether the alert fired or cleared. -/
inductive AlertStatus where
  | triggered
  | resolved
deriving DecidableEq

namespace AlertStatus

def name : AlertStatus → String
  | triggered => "triggered"
  | resolved => "resolved"

def ofJson? : Json → Option AlertStatus :=
  Json.choice? ([triggered, resolved].map fun s => (s.name, s)) none

def toJson (s : AlertStatus) : Json := .text s.name

end AlertStatus

/-- An alert raised against one cluster. -/
structure Alert where
  incidentId : String
  title : String
  status : AlertStatus
  clusterId : String
deriving DecidableEq

namespace Alert

/-- Whether the alert has cleared. -/
def hasCleared (a : Alert) : Bool := a.status = .resolved

def ofJson? (j : Json) : Option Alert := do
  match ← Json.fields? ["incident_id", "title", "status", "cluster_id"] j with
  | [incidentId, title, status, clusterId] =>
    return {
      incidentId := ← incidentId.required Json.string?
      title := ← title.required Json.string?
      status := ← status.required AlertStatus.ofJson?
      clusterId := ← clusterId.required Json.string? }
  | _ => none

def toJson (a : Alert) : Json :=
  .record [("incident_id", .text a.incidentId), ("title", .text a.title),
    ("status", a.status.toJson), ("cluster_id", .text a.clusterId)]

end Alert

/-- A report on an incident from the paging platform. -/
structure Webhook where
  eventType : String
  incidentId : String
  title : String
deriving DecidableEq

namespace Webhook

/-- The incident that an event is about: its id and title. -/
private def incident? (j : Json) : Option (String × String) := do
  match ← Json.fields? ["id", "title"] j with
  | [id, title] => return (← id.required Json.string?, ← title.required Json.string?)
  | _ => none

/-- An event: its type and the incident. -/
private def event? (j : Json) : Option Webhook := do
  match ← Json.fields? ["event_type", "data"] j with
  | [eventType, data] =>
    let eventType ← eventType.required Json.string?
    let (incidentId, title) ← data.required incident?
    return { eventType, incidentId, title }
  | _ => none

def ofJson? (j : Json) : Option Webhook := do
  match ← Json.fields? ["event"] j with
  | [event] => event.required event?
  | _ => none

def toJson (w : Webhook) : Json :=
  .record [("event", .record [("event_type", .text w.eventType),
    ("data", .record [("id", .text w.incidentId), ("title", .text w.title)])])]

/-- The status of the alert that an event stands for. Other events are not acted on. -/
def status? (w : Webhook) : Option AlertStatus :=
  if w.eventType = "incident.triggered" ∨ w.eventType = "incident.reopened" then some .triggered
  else if w.eventType = "incident.resolved" then some .resolved
  else none

end Webhook

end OnCall
