import OnCall.Cluster

/-!
# Advisories to the customer

* `Advisory`: a message to the customer that is to be posted.
* `AdvisoryEntry`: an entry of the history that cluster management keeps.
* `AdvisoryFilter`: what narrows a listing of that history.
* `Advisory.Draft`: an advisory that an investigation wants to be sent.
-/

namespace OnCall

/-- The severity of an advisory. -/
inductive Severity where
  | debug
  | info
  | warning
  | major
  | critical
deriving DecidableEq

namespace Severity

def name : Severity → String
  | debug => "Debug"
  | info => "Info"
  | warning => "Warning"
  | major => "Major"
  | critical => "Critical"

def all : List Severity := [debug, info, warning, major, critical]

def ofJson? : Json → Option Severity :=
  Json.choice? (all.map fun s => (s.name, s)) none

def toJson (s : Severity) : Json := .text s.name

end Severity

/-- An advisory as it is posted. -/
structure Advisory where
  severity : Severity
  summary : String
  description : String
  /-- The tag by which the advisory is routed. -/
  serviceName : String
  internalOnly : Bool
deriving DecidableEq

namespace Advisory

def ofJson? (j : Json) : Option Advisory := do
  match ← Json.fields? ["severity", "summary", "description", "service_name", "internal_only"] j
    with
  | [severity, summary, description, serviceName, internalOnly] =>
    return {
      severity := ← severity.required Severity.ofJson?
      summary := ← summary.required Json.string?
      description := ← description.required Json.string?
      serviceName := ← serviceName.required Json.string?
      internalOnly := ← internalOnly.required Json.bool? }
  | _ => none

def toJson (a : Advisory) : Json :=
  .record [("severity", a.severity.toJson), ("summary", .text a.summary),
    ("description", .text a.description), ("service_name", .text a.serviceName),
    ("internal_only", .bool a.internalOnly)]

/-- An advisory that an investigation wants to be sent to the customer. -/
structure Draft where
  severity : Severity
  summary : String
  description : String
  /-- The tag by which the advisory is routed. -/
  serviceTag : String
deriving DecidableEq

namespace Draft

/-- The advisory that is posted: the customer sees it. -/
def advisory (d : Draft) : Advisory :=
  ⟨d.severity, d.summary, d.description, d.serviceTag, false⟩

def members (d : Draft) : List (String × Json) :=
  [("severity", d.severity.toJson), ("summary", .text d.summary),
    ("description", .text d.description), ("service_tag", .text d.serviceTag)]

end Draft

end Advisory

/-- An entry of the advisory history of a cluster. -/
structure AdvisoryEntry where
  id : String
  /-- The account that wrote the entry. -/
  username : String
  logType : String
  summary : String
  description : String
  timestamp : Instant
deriving DecidableEq

namespace AdvisoryEntry

/-- The type of the entries that are written when a restriction is set or lifted. -/
def restrictionChange : String := "cluster-state-updates"

def ofJson? (j : Json) : Option AdvisoryEntry := do
  match ← Json.fields? ["id", "username", "log_type", "summary", "description", "timestamp"] j with
  | [id, username, logType, summary, description, timestamp] =>
    return {
      id := ← id.required Json.string?
      username := ← username.required Json.string?
      logType := ← logType.required Json.string?
      summary := ← summary.required Json.string?
      description := ← description.required Json.string?
      timestamp := ← timestamp.required Instant.ofJson? }
  | _ => none

def toJson (e : AdvisoryEntry) : Json :=
  .record [("id", .text e.id), ("username", .text e.username), ("log_type", .text e.logType),
    ("summary", .text e.summary), ("description", .text e.description),
    ("timestamp", e.timestamp.toJson)]

end AdvisoryEntry

/-- What narrows a listing of the advisory history. -/
structure AdvisoryFilter where
  logType : Option String
  since : Option Instant
deriving DecidableEq

namespace AdvisoryFilter

/-- Whether an entry satisfies the filter. -/
def admits (f : AdvisoryFilter) (e : AdvisoryEntry) : Bool :=
  (f.logType.all fun t => e.logType = t) && (f.since.all fun t => t ≤ e.timestamp)

end AdvisoryFilter

end OnCall
