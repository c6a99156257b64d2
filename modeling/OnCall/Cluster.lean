import OnCall.Json.Record
import OnCall.Time.Timestamp

/-!
# Managed clusters

* `Cluster`: the record that cluster management keeps of a cluster.
* `Deployment`: the record that the provisioning side keeps of it.
* `NodeCount`: the range of node counts that is expected.
* `StateTransition`: a change of state that was observed.

Each record is read by `ofJson?` and written by `toJson`.
-/

namespace OnCall

/-! ## 1. States and products -/

/-- The lifecycle state of a cluster. -/
inductive ClusterState where
  | installing
  | ready
  | error
  | hibernating
  | resuming
  | poweringDown
  | uninstalling
  | unknown
deriving DecidableEq

namespace ClusterState

/-- The name of a state, as it is shown and written. -/
def name : ClusterState → String
  | installing => "installing"
  | ready => "ready"
  | error => "error"
  | hibernating => "hibernating"
  | resuming => "resuming"
  | poweringDown => "powering_down"
  | uninstalling => "uninstalling"
  | unknown => "unknown"

/-- The states that have a name of their own. -/
def known : List ClusterState :=
  [installing, ready, error, hibernating, resuming, poweringDown, uninstalling]

def ofJson? : Json → Option ClusterState :=
  Json.choice? (known.map fun s => (s.name, s)) (some unknown)

def toJson (s : ClusterState) : Json := .text s.name

end ClusterState

/-- The flavour of the managed product. -/
inductive Product where
  | osd
  | rosa
  | unknown
deriving DecidableEq

namespace Product

def name : Product → String
  | osd => "osd"
  | rosa => "rosa"
  | unknown => "unknown"

def ofJson? : Json → Option Product :=
  Json.choice? ([osd, rosa].map fun p => (p.name, p)) (some unknown)

def toJson (p : Product) : Json := .text p.name

end Product

/-! ## 2. Records -/

/-- A managed cluster as cluster management knows it. -/
structure Cluster where
  id : String
  /-- The identifier that the customer sees. -/
  externalId : String
  name : String
  state : ClusterState
  product : Product
  /-- The customer owns the cloud account. -/
  ccs : Bool
  cloudProvider : String
  region : String
  /-- The control plane runs outside of the customer's account. -/
  hosted : Bool
  infraId : Option String
  /-- Subnets that the customer brought; empty if the installer made the network. -/
  subnetIds : List String
  subscriptionId : Option String
deriving DecidableEq

namespace Cluster

def ofJson? (j : Json) : Option Cluster := do
  match ← Json.fields? ["id", "external_id", "name", "state", "product", "ccs", "cloud_provider",
      "region", "hypershift", "infra_id", "subnet_ids", "subscription_id"] j with
  | [id, externalId, name, state, product, ccs, cloudProvider, region, hosted, infraId, subnetIds,
      subscriptionId] =>
    return {
      id := ← id.required Json.string?
      externalId := ← externalId.required Json.string?
      name := ← name.required Json.string?
      state := ← state.required ClusterState.ofJson?
      product := ← product.required Product.ofJson?
      ccs := ← ccs.required Json.bool?
      cloudProvider := ← cloudProvider.required Json.string?
      region := ← region.required Json.string?
      hosted := ← hosted.required Json.bool?
      infraId := ← infraId.optional Json.string?
      subnetIds := ← subnetIds.required (Json.list? Json.string?)
      subscriptionId := ← subscriptionId.optional Json.string? }
  | _ => none

def toJson (c : Cluster) : Json :=
  .record [("id", .text c.id), ("external_id", .text c.externalId), ("name", .text c.name),
    ("state", c.state.toJson), ("product", c.product.toJson), ("ccs", .bool c.ccs),
    ("cloud_provider", .text c.cloudProvider), ("region", .text c.region),
    ("hypershift", .bool c.hosted), ("infra_id", .text? c.infraId),
    ("subnet_ids", .texts c.subnetIds), ("subscription_id", .text? c.subscriptionId)]

end Cluster

/-- The record of a cluster on the side that provisions it. -/
structure Deployment where
  name : String
  namespaceName : String
  infraId : String
  installed : Bool
  powerState : Option String
deriving DecidableEq

namespace Deployment

def ofJson? (j : Json) : Option Deployment := do
  match ← Json.fields? ["name", "namespace", "infra_id", "installed", "power_state"] j with
  | [name, namespaceName, infraId, installed, powerState] =>
    return {
      name := ← name.required Json.string?
      namespaceName := ← namespaceName.required Json.string?
      infraId := ← infraId.required Json.string?
      installed := ← installed.required Json.bool?
      powerState := ← powerState.optional Json.string? }
  | _ => none

def toJson (d : Deployment) : Json :=
  .record [("name", .text d.name), ("namespace", .text d.namespaceName),
    ("infra_id", .text d.infraId), ("installed", .bool d.installed),
    ("power_state", .text? d.powerState)]

end Deployment

/-- The range of the number of nodes that a cluster is expected to run. -/
structure NodeCount where
  min : UInt32
  max : UInt32
deriving DecidableEq

namespace NodeCount

/-- A count of nodes: a whole number of 32 bits. -/
def word? (j : Json) : Option UInt32 := (Json.word32? j).map UInt32.ofNat

def ofJson? (j : Json) : Option NodeCount := do
  match ← Json.fields? ["min", "max"] j with
  | [min, max] => return { min := ← min.required word?, max := ← max.required word? }
  | _ => none

def toJson (n : NodeCount) : Json :=
  .record [("min", .nat n.min.toNat), ("max", .nat n.max.toNat)]

end NodeCount

/-! ## 3. Changes of state -/

/-- The moment of a timestamp in JSON. -/
def Instant.ofJson? (j : Json) : Option Instant := j.string?.bind Instant.read?

def Instant.toJson (t : Instant) : Json := .text t.text

/-- A change of state that was observed on a cluster. -/
structure StateTransition where
  state : ClusterState
  timestamp : Instant
deriving DecidableEq

namespace StateTransition

def ofJson? (j : Json) : Option StateTransition := do
  match ← Json.fields? ["state", "timestamp"] j with
  | [state, timestamp] =>
    return {
      state := ← state.required ClusterState.ofJson?
      timestamp := ← timestamp.required Instant.ofJson? }
  | _ => none

def toJson (t : StateTransition) : Json :=
  .record [("state", t.state.toJson), ("timestamp", t.timestamp.toJson)]

end StateTransition

end OnCall
