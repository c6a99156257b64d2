import OnCall.Cluster
import OnCall.Json.Plain
import OnCall.Web.Message

/-!
# The deployment records as a web service

The record of a deployment is found by a label that holds the id of its cluster.

* `DeploymentService.deployment`: the only record with the label of a cluster.
* `DeploymentObject`: a record as the service holds it. Its metadata have types
  (`Metadata.objectShapes`), and `DeploymentObject.deployment` takes the other fields out of a
  specification that has none.

What has a type is read by it and may hold names that are not known, whatever stands under them.
What has none has to be plain, and the nesting of the whole reply counts for that: the number of
levels that are left is written where a plain value may begin.
-/

namespace OnCall

/-! ## 1. Metadata -/

namespace Metadata

/-- The shapes of the members of an object, by their names. -/
abbrev Shapes := List (String × (Json → Bool))

def isText (j : Json) : Bool := j.string?.isSome

def isFlag (j : Json) : Bool := j.bool?.isSome

def isTime (j : Json) : Bool := (Instant.ofJson? j).isSome

/-- A whole number of 64 bits with sign. -/
def isWord : Json → Bool
  | .number n => n.integer?.any fun (v : Int) => v < UInt64.size / 2
  | _ => false

/-- An object whose values are texts. -/
def isTextTable : Json → Bool
  | .object members => members.all fun (name, value) => name.isSome && isText value
  | _ => false

/-- An array whose items have a shape. -/
def isListOf (shape : Json → Bool) : Json → Bool
  | .array items => items.all shape
  | _ => false

/-- An object whose members have the shapes of their names, each time that a name stands. Null
always will do, and a name without a shape may have any value. -/
def hasShapes (shapes : Shapes) : Json → Bool
  | .object members => members.all fun (name, value) =>
    match name with
    | none => false
    | some name =>
      match shapes.lookup name, value with
      | none, _ => true
      | some _, .null => true
      | some shape, value => shape value
  | _ => false

/-- The metadata of a listing. -/
def listingShapes : Shapes :=
  [("continue", isText), ("remainingItemCount", isWord), ("resourceVersion", isText),
    ("selfLink", isText)]

/-- An object that another one belongs to. -/
def ownerShapes : Shapes :=
  [("apiVersion", isText), ("blockOwnerDeletion", isFlag), ("controller", isFlag),
    ("kind", isText), ("name", isText), ("uid", isText)]

/-- What a manager has set in an object. -/
def managerShapes : Shapes :=
  [("apiVersion", isText), ("fieldsType", isText), ("fieldsV1", Json.plainWithin 121),
    ("manager", isText), ("operation", isText), ("subresource", isText), ("time", isTime)]

/-- The metadata of an object. -/
def objectShapes : Shapes :=
  [("annotations", isTextTable), ("creationTimestamp", isTime),
    ("deletionGracePeriodSeconds", isWord), ("deletionTimestamp", isTime),
    ("finalizers", isListOf isText), ("generateName", isText), ("generation", isWord),
    ("labels", isTextTable), ("managedFields", isListOf (hasShapes managerShapes)),
    ("name", isText), ("namespace", isText), ("ownerReferences", isListOf (hasShapes ownerShapes)),
    ("resourceVersion", isText), ("selfLink", isText), ("uid", isText)]

/-- The metadata among the members of an object, empty if they are missing. -/
def ofMembers? (shapes : Shapes) (members : List (Option String × Json)) : Option Json := do
  match ← Json.member? "metadata" members with
  | .given j => if hasShapes shapes j then some j else none
  | _ => some (.object [])

end Metadata

/-! ## 2. Objects -/

/-- A record of the service: its name, its namespace and its specification. -/
structure DeploymentObject where
  name : Option String
  namespaceName : Option String
  specification : Option Json

namespace DeploymentObject

def ofJson? : Json → Option DeploymentObject
  | j@(.object members) => do
    let metadata ← Metadata.ofMembers? Metadata.objectShapes members
    if Json.membersPlainWithin 124 (Json.others ["metadata"] members) then
      some ⟨metadata.get? "name" >>= Json.string?, metadata.get? "namespace" >>= Json.string?,
        j.get? "spec"⟩
    else none
  | _ => none

/-- The record with the fields that count. It needs an infrastructure id; a state that is not
given means not installed. -/
def deployment (o : DeploymentObject) : Except DeploymentFault Deployment :=
  let name := o.name.getD "unknown"
  let infraId := do (← (← o.specification).get? "clusterMetadata").get? "infraID" >>= Json.string?
  match infraId.filter fun i => !i.isEmpty with
  | none => .error (.missingField name "spec.clusterMetadata.infraID")
  | some infraId => .ok {
      name := name
      namespaceName := o.namespaceName.getD ""
      infraId := infraId
      installed := (o.specification >>= Json.get? "installed" >>= Json.bool?).getD false
      powerState := o.specification >>= Json.get? "powerState" >>= Json.string? }

end DeploymentObject

/-! ## 3. Refusals -/

/-- A refusal in the body of a reply; its message and its reason may be left out. -/
def Refusal.ofJson? (j : Json) : Option Refusal := do
  match ← Json.fields? ["status", "message", "reason", "code"] j with
  | [status, message, reason, code] =>
    some {
      status := ← status.required Json.string?
      message := ← message.defaulted "" Json.string?
      reason := ← reason.defaulted "" Json.string?
      code := ← code.required fun j => (Json.word32? j).filter (· < UInt16.size) }
  | _ => none

/-- The fault that a body tells of: a refusal, or whatever is written there. -/
def DeploymentFault.ofBody (body : String) : DeploymentFault :=
  match Json.decode? Refusal.ofJson? body with
  | some refusal => .refused refusal
  | none => .kube (Text.quoted body)

/-! ## 4. The service -/

/-- The service that holds the deployment records. -/
structure DeploymentService where
  address : String

namespace DeploymentService

/-- The label that holds the id of a cluster. -/
def clusterLabel : String := "api.openshift.com/id"

/-- The objects of a listing; null stands for none. -/
def objects? : Json → Option (List DeploymentObject)
  | .object members => do
    let _ ← Metadata.ofMembers? Metadata.listingShapes members
    if Json.membersPlainWithin 126 (Json.others ["metadata", "items"] members) then
      match ← Json.member? "items" members with
      | .given .null => some []
      | .given items => Json.list? DeploymentObject.ofJson? items
      | _ => none
    else none
  | _ => none

/-- The objects of a reply. A status that is not an error is taken as success. -/
def objects : WebReply → Except DeploymentFault (List DeploymentObject)
  | .unsent => .error (.kube Cause.unsent.text)
  | .unanswered report => .error (.kube report)
  | .answered status body =>
    if 400 ≤ status ∧ status < 600 then .error (.ofBody body)
    else match Json.decode? objects? body with
      | some found => .ok found
      | none => .error (.kube Json.unreadableReport)

/-- The only one of the objects that were found for a cluster. -/
def only (clusterId : String) : List DeploymentObject → Except DeploymentFault DeploymentObject
  | [] => .error (.notFound clusterId)
  | [o] => .ok o
  | found => .error (.ambiguous clusterId found.length)

/-- The record of the deployment of a cluster. -/
def deployment (s : DeploymentService) (clusterId : String) : WebWork Deployment := do
  let reply ← WebWork.send {
    method := .get
    address := s.address ++ "/apis/hive.openshift.io/v1/clusterdeployments"
    query := [("labelSelector", clusterLabel ++ "=" ++ clusterId)]
    headers := []
    body := none
    limit := none }
  match do (← only clusterId (← objects reply)).deployment with
  | .ok d => return d
  | .error fault => throw (.root (.deployment fault))

end DeploymentService

end OnCall
