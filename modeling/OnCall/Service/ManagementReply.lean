import OnCall.Advisory
import OnCall.Restriction
import OnCall.Text.Occurs

/-!
# Replies of cluster management

* `ClusterReply`: a cluster with the number of its fixed nodes.
* `NodePool`: a group of machines, of fixed or varying size; `NodeCount.expected` is the range of
  all nodes: the fixed ones and those of every pool.
* `restriction?`, `logEntry?`, `organization?`, `protection?`: the other records.
* `transition?`: what an entry of the log says about hibernation.
-/

namespace OnCall

/-! ## 1. Counting nodes -/

namespace NodeCount

/-- The range of two groups of nodes together. -/
def add (a b : NodeCount) : NodeCount := ⟨a.min + b.min, a.max + b.max⟩

/-- The range of a group whose size is fixed. -/
def fixed (n : UInt32) : NodeCount := ⟨n, n⟩

end NodeCount

/-- A group of machines of a cluster. -/
structure NodePool where
  replicas : Option UInt32
  /-- The range in which the size varies with the load. -/
  autoscaling : Option NodeCount

/-- The range of a pool: that of its autoscaling, or else its size; none counts as zero. -/
def NodePool.range (p : NodePool) : NodeCount :=
  match p.autoscaling, p.replicas with
  | some range, _ => range
  | none, some n => .fixed n
  | none, none => .fixed 0

/-- The range of the nodes of a cluster: the fixed ones and those of every pool. -/
def NodeCount.expected (fixed : UInt32) (pools : List NodePool) : NodeCount :=
  pools.foldl (fun count p => count.add p.range) (.fixed fixed)

namespace ManagementReply

/-! ## 2. Parts of records -/

/-- A record with a field `items`, empty if it is missing. -/
def items? {α : Type} (item : Json → Option α) (j : Json) : Option (List α) := do
  match ← Json.fields? ["items"] j with
  | [items] => items.defaulted [] (Json.list? item)
  | _ => none

/-- A record that consists of an id. -/
def id? (j : Json) : Option String := do
  match ← Json.fields? ["id"] j with
  | [id] => id.required Json.string?
  | _ => none

/-- A record that consists of a switch, off if it is missing. -/
def enabled? (j : Json) : Option Bool := do
  match ← Json.fields? ["enabled"] j with
  | [enabled] => enabled.defaulted false Json.bool?
  | _ => none

/-- The number of fixed nodes: those of the control plane and those of the infrastructure. -/
def fixedNodes? (j : Json) : Option UInt32 := do
  match ← Json.fields? ["master", "infra"] j with
  | [master, infra] =>
    return (← master.defaulted 0 NodeCount.word?) + (← infra.defaulted 0 NodeCount.word?)
  | _ => none

def network? (j : Json) : Option (List String) := do
  match ← Json.fields? ["subnet_ids"] j with
  | [subnetIds] => subnetIds.defaulted [] (Json.list? Json.string?)
  | _ => none

/-! ## 3. Records -/

/-- The product of an id; products that are not known by name are alike. -/
def product (id : Option String) : Product :=
  match id with
  | some "osd" => .osd
  | some "rosa" => .rosa
  | _ => .unknown

/-- A cluster and the number of its fixed nodes. -/
structure ClusterReply where
  cluster : Cluster
  fixedNodes : UInt32

def cluster? (j : Json) : Option ClusterReply := do
  match ← Json.fields? ["id", "external_id", "name", "state", "product", "ccs", "cloud_provider",
      "region", "hypershift", "infra_id", "aws", "subscription", "nodes"] j with
  | [id, externalId, name, state, productId, ccs, cloudProvider, region, hosted, infraId, network,
      subscription, nodes] =>
    let cluster : Cluster := {
      id := ← id.required Json.string?
      externalId := ← externalId.defaulted "" Json.string?
      name := ← name.defaulted "" Json.string?
      state := ← state.required ClusterState.ofJson?
      product := product (← productId.optional id?)
      ccs := (← ccs.optional enabled?).getD false
      cloudProvider := (← cloudProvider.optional id?).getD ""
      region := (← region.optional id?).getD ""
      hosted := (← hosted.optional enabled?).getD false
      infraId := (← infraId.optional Json.string?).filter fun i => !i.isEmpty
      subnetIds := (← network.optional network?).getD []
      subscriptionId := ← subscription.optional id? }
    return ⟨cluster, (← nodes.optional fixedNodes?).getD 0⟩
  | _ => none

def autoscaling? (j : Json) : Option NodeCount := do
  match ← Json.fields? ["min_replicas", "max_replicas"] j with
  | [min, max] => return ⟨← min.required NodeCount.word?, ← max.required NodeCount.word?⟩
  | _ => none

def pool? (j : Json) : Option NodePool := do
  match ← Json.fields? ["replicas", "autoscaling"] j with
  | [replicas, autoscaling] =>
    return ⟨← replicas.optional NodeCount.word?, ← autoscaling.optional autoscaling?⟩
  | _ => none

def restriction? (j : Json) : Option Restriction := do
  match ← Json.fields? ["id", "summary", "details"] j with
  | [id, summary, details] =>
    return {
      id := some (← id.required Json.string?)
      summary := ← summary.defaulted "" Json.string?
      details := ← details.defaulted "" Json.string? }
  | _ => none

def logEntry? (j : Json) : Option AdvisoryEntry := do
  match ← Json.fields? ["id", "username", "log_type", "summary", "description", "timestamp"] j with
  | [id, username, logType, summary, description, timestamp] =>
    return {
      id := ← id.required Json.string?
      username := ← username.defaulted "" Json.string?
      logType := ← logType.defaulted "" Json.string?
      summary := ← summary.defaulted "" Json.string?
      description := ← description.defaulted "" Json.string?
      timestamp := ← timestamp.required Instant.ofJson? }
  | _ => none

def organization? (j : Json) : Option String := do
  match ← Json.fields? ["organization_id"] j with
  | [id] => id.required Json.string?
  | _ => none

/-! ## 4. Hibernation in the log -/

/-- The change of state that an entry of the log tells of, by words of its summary in any case. A
word of resuming counts before one of hibernating. No letter beyond ASCII is another case of a
letter in these words. -/
def transition? (e : AdvisoryEntry) : Option StateTransition :=
  let summary := e.summary.toLower
  if Text.occursIn "resumed" summary || Text.occursIn "resuming" summary then
    some ⟨.resuming, e.timestamp⟩
  else if Text.occursIn "hibernat" summary then some ⟨.hibernating, e.timestamp⟩
  else none

end ManagementReply

end OnCall
