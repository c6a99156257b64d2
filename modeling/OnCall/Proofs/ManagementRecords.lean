import OnCall.Proofs.RecordFormats
import OnCall.Service.ManagementReply

/-!
# What spells the records of cluster management

Cluster management leaves out what it has nothing to say of. A field may be null or missing, or
stand for its default; what a record has beyond the fields that are asked for is passed over.

* `Json.Field.maybe`, `Json.Field.byDefault`: fields that may be missing.
* `ClusterRecord`: all that is read of a cluster, with its numbers of fixed nodes (`FixedNodes`).
* `ManagementReply.cluster?_iff`: **a cluster is read from what spells a record of it**.
* `ManagementReply.pools?_iff`: and so is a list of pools.
* `ManagementReply.shaped_bareTree`, `ManagementReply.isItems_poolsTree`: whatever the fixed nodes
  and the pools are, they can be spelled.
-/

namespace OnCall

open Json (Field Shaped IsCount IsList)

namespace Json

/-! ## 1. Fields that may be missing -/

/-- A field with a value if there is one; if there is none, it is null or left out. -/
@[simp] def Field.maybe {α : Type} (name : String) (spells : α → Json → Prop) (o : Option α) :
    Field :=
  ⟨name, if o = none then .optional else .required, fun j => ∃ a, o = some a ∧ spells a j⟩

/-- A field with a value; it may be left out if the value is the default. -/
@[simp] def Field.byDefault {α : Type} (name : String) (default : α) (spells : α → Json → Prop)
    (a : α) [Decidable (a = default)] : Field :=
  ⟨name, if a = default then .defaulted else .required, spells a⟩

theorem not_shaped_null {fields : List Field} : ¬ Shaped fields .null :=
  fun shaped => nomatch shaped.record

namespace Slot

variable {α β : Type} {value : Json → Option α} {slot : Slot} {a : α}

theorem defaulted_iff (spells : α → Json → Prop) (reads : ∀ j a, value j = some a ↔ spells a j)
    {default : α} [Decidable (a = default)] :
    slot.defaulted default value = some a ↔
      slot.Fits (if a = default then .defaulted else .required) (spells a) := by
  by_cases same : a = default
  · rw [if_pos same]
    cases slot with
    | given j => simp [defaulted, Fits, reads]
    | unnamed => simp [defaulted, Fits, same]
    | beyond => simp [defaulted, Fits, same]
  · rw [if_neg same]
    cases slot with
    | given j => simp [defaulted, Fits, reads]
    | unnamed => simpa [defaulted, Fits, eq_comm] using same
    | beyond => simpa [defaulted, Fits, eq_comm] using same

/-- Something that may be missing, of which a part is kept. -/
theorem optional_kept_iff (spells : β → Json → Prop) (kept : β → α)
    (reads : ∀ j a, value j = some a ↔ ∃ b, spells b j ∧ kept b = a)
    (solid : ∀ b, ¬ spells b .null) {o : Option α} :
    slot.optional value = some o ↔
      ∃ b : Option β, slot.Fits (if b = none then .optional else .required)
        (fun j => ∃ x, b = some x ∧ spells x j) ∧ b.map kept = o := by
  cases slot with
  | given j =>
    by_cases null : j = .null
    · subst null
      simp [optional, nullable?, Fits, solid]
    · rw [optional, nullable?_of_ne null, Option.map_eq_some_iff]
      simp [reads, Fits, Option.exists, null]
  | unnamed => simp [optional, Fits]
  | beyond => simp [optional, Fits, Option.exists]

/-- What is spelled out where it is there, and null where it is not. -/
theorem fits_maybe (spells : α → Json → Prop) (tree : α → Json) (spelled : ∀ a, spells a (tree a))
    (o : Option α) :
    (given ((o.map tree).getD .null)).Fits (if o = none then .optional else .required)
      fun j => ∃ a, o = some a ∧ spells a j := by
  cases o with
  | none => exact .inr ⟨rfl, rfl⟩
  | some a => exact .inl ⟨a, rfl, spelled a⟩

end Slot

/-- A record with these members and no others has its shape if each of them fits. -/
theorem shaped_record_iff {fields : List Field} {members : List (String × Json)}
    (same : members.map (·.1) = names fields) (distinct : (names fields).Nodup) :
    Shaped fields (.record members) ↔
      List.Forall₂ (fun field m => (Slot.given m.2).Fits field.presence field.value) fields
        members := by
  rw [shaped_iff distinct (fields?_record same distinct), List.forall₂_map_right_iff]

/-- A record of one field. -/
theorem read_one_iff {α : Type} (field : Field) (read : Slot → Option α) {a : α} {j : Json}
    (reads : ∀ slot, read slot = some a ↔ slot.Fits field.presence field.value) :
    ((fields? [field.name] j).bind fun
      | [slot] => read slot
      | _ => none) = some a ↔ Shaped [field] j := by
  have distinct : (names [field]).Nodup := List.nodup_singleton field.name
  refine read_shaped_iff distinct fun slots stand => ?_
  obtain _ | ⟨_, ⟨⟩⟩ := stand
  simp only [reads, List.forall₂_cons, List.Forall₂.nil, and_true]

/-- **A reader that keeps a part of a record** reads what spells one of the records with this part.
-/
theorem read_kept_iff {α β : Type} {shape : List String} {fields : β → List Field} {kept : β → α}
    {read : List Slot → Option α} {a : α} {j : Json} (distinct : shape.Nodup)
    (named : ∀ b, names (fields b) = shape)
    (reads : ∀ slots, List.Forall₂ (fun name slot => Stands shape name j slot) shape slots →
      (read slots = some a ↔
        ∃ b, List.Forall₂ (fun field slot => slot.Fits field.presence field.value)
          (fields b) slots ∧ kept b = a)) :
    (fields? shape j).bind read = some a ↔ ∃ b, Shaped (fields b) j ∧ kept b = a := by
  cases found : fields? shape j with
  | none =>
    constructor
    · intro none
      cases none
    · intro spelled
      obtain ⟨b, shaped, _⟩ := spelled
      obtain ⟨slots, there⟩ := shaped.exists_fields? (named b ▸ distinct)
      rw [named, found] at there
      cases there
  | some slots =>
    rw [Option.bind_some, reads slots ((fields?_iff distinct).mp found).2]
    refine exists_congr fun b => and_congr_left' (shaped_iff ?_ ?_).symm
    · rwa [named]
    · rwa [named]

end Json

namespace ManagementReply

/-! ## 2. Parts of records -/

/-- A record that consists of an id. -/
def IsId (s : String) : Json → Prop := Shaped [.text "id" s]

/-- A record that consists of a switch, off if it is missing. -/
def IsSwitch (b : Bool) : Json → Prop :=
  Shaped [.byDefault "enabled" false (fun b j => j = .bool b) b]

/-- A record of subnets. -/
def IsNetwork (ids : List String) : Json → Prop :=
  Shaped [.byDefault "subnet_ids" [] (IsList fun s j => j = .text s) ids]

/-- A record that consists of a list. -/
def IsItems {α : Type} (spells : α → Json → Prop) (as : List α) : Json → Prop :=
  Shaped [.byDefault "items" [] (IsList spells) as]

/-- **The nodes whose number is fixed**: those of the control plane and those of the infrastructure.
-/
structure FixedNodes where
  master : UInt32
  infra : UInt32

def FixedNodes.fields (n : FixedNodes) : List Field :=
  [.byDefault "master" 0 (fun w => IsCount w.toNat) n.master,
    .byDefault "infra" 0 (fun w => IsCount w.toNat) n.infra]

theorem id?_iff (j : Json) (s : String) : id? j = some s ↔ IsId s j :=
  Json.read_one_iff (.text "id" s) (Json.Slot.required Json.string?) fun _ =>
    Json.Slot.required_string?_iff

theorem enabled?_iff (j : Json) (b : Bool) : enabled? j = some b ↔ IsSwitch b j :=
  Json.read_one_iff (.byDefault "enabled" false _ b) (Json.Slot.defaulted false Json.bool?)
    fun _ => Json.Slot.defaulted_iff _ fun _ _ => Json.bool?_iff

theorem network?_iff (j : Json) (ids : List String) : network? j = some ids ↔ IsNetwork ids j :=
  Json.read_one_iff (.byDefault "subnet_ids" [] _ ids)
    (Json.Slot.defaulted [] (Json.list? Json.string?)) fun _ =>
      Json.Slot.defaulted_iff _ fun _ _ => Json.list?_iff fun _ _ => Json.string?_iff

theorem items?_iff {α : Type} {item : Json → Option α} (spells : α → Json → Prop)
    (reads : ∀ j a, item j = some a ↔ spells a j) (j : Json) (as : List α) :
    items? item j = some as ↔ IsItems spells as j :=
  Json.read_one_iff (.byDefault "items" [] _ as) (Json.Slot.defaulted [] (Json.list? item))
    fun _ => Json.Slot.defaulted_iff _ fun _ _ => Json.list?_iff reads

theorem fixedNodes?_iff (j : Json) (w : UInt32) :
    fixedNodes? j = some w ↔ ∃ n : FixedNodes, Shaped n.fields j ∧ n.master + n.infra = w := by
  refine Json.read_kept_iff (by decide) (fun n => rfl) fun slots stand => ?_
  iterate 2 obtain _ | ⟨_, stand⟩ := stand
  cases stand
  simp only [Option.bind_eq_bind, Option.bind_eq_some_iff, Option.pure_def, Option.some.injEq,
    Json.Slot.defaulted_iff _ NodeCount.word?_iff]
  constructor
  · intro read
    obtain ⟨master, fits, infra, fits', rfl⟩ := read
    exact ⟨⟨master, infra⟩, .cons fits (.cons fits' .nil), rfl⟩
  · intro spelled
    obtain ⟨n, _ | ⟨fits, _ | ⟨fits', _⟩⟩, rfl⟩ := spelled
    exact ⟨n.master, fits, n.infra, fits', rfl⟩

/-! ## 3. Pools -/

/-- The range in which the size of a pool varies. -/
def rangeFields (range : NodeCount) : List Field :=
  [.must "min_replicas" (IsCount range.min.toNat), .must "max_replicas" (IsCount range.max.toNat)]

theorem autoscaling?_iff (j : Json) (range : NodeCount) :
    autoscaling? j = some range ↔ Shaped (rangeFields range) j := by
  have distinct : (Json.names (rangeFields range)).Nodup := by simp [Json.names, rangeFields]
  refine Json.read_shaped_iff distinct fun slots stand => ?_
  iterate 2 obtain _ | ⟨_, stand⟩ := stand
  cases stand
  cases range
  simp [rangeFields, Option.bind_eq_some_iff]

/-- The fields of a pool. -/
def poolFields (p : NodePool) : List Field :=
  [.maybe "replicas" (fun w : UInt32 => IsCount w.toNat) p.replicas,
    .maybe "autoscaling" (fun range => Shaped (rangeFields range)) p.autoscaling]

theorem not_isCount_null (n : Nat) : ¬ IsCount n .null := nofun

theorem pool?_iff (j : Json) (p : NodePool) : pool? j = some p ↔ Shaped (poolFields p) j := by
  have distinct : (Json.names (poolFields p)).Nodup := by simp [Json.names, poolFields]
  refine Json.read_shaped_iff distinct fun slots stand => ?_
  iterate 2 obtain _ | ⟨_, stand⟩ := stand
  cases stand
  cases p
  simp [poolFields, Option.bind_eq_some_iff,
    Json.Slot.optional_iff _ NodeCount.word?_iff fun _ => not_isCount_null _,
    Json.Slot.optional_iff _ autoscaling?_iff fun _ => Json.not_shaped_null]

/-- **A list of pools is read from what spells it.** -/
theorem pools?_iff (j : Json) (pools : List NodePool) :
    items? pool? j = some pools ↔ IsItems (fun p => Shaped (poolFields p)) pools j :=
  items?_iff _ pool?_iff j pools

/-! ## 4. Clusters -/

/-- **A record of a cluster**: all that is read of it. -/
structure ClusterRecord where
  id : String
  externalId : String
  name : String
  state : ClusterState
  product : Option String
  ccs : Option Bool
  cloudProvider : Option String
  region : Option String
  hosted : Option Bool
  infraId : Option String
  subnetIds : Option (List String)
  subscriptionId : Option String
  nodes : Option FixedNodes

namespace ClusterRecord

def fields (r : ClusterRecord) : List Field :=
  [.text "id" r.id, .byDefault "external_id" "" (fun s j => j = .text s) r.externalId,
    .byDefault "name" "" (fun s j => j = .text s) r.name, .must "state" r.state.Spelled,
    .maybe "product" IsId r.product, .maybe "ccs" IsSwitch r.ccs,
    .maybe "cloud_provider" IsId r.cloudProvider, .maybe "region" IsId r.region,
    .maybe "hypershift" IsSwitch r.hosted, .text? "infra_id" r.infraId,
    .maybe "aws" IsNetwork r.subnetIds, .maybe "subscription" IsId r.subscriptionId,
    .maybe "nodes" (fun n : FixedNodes => Shaped n.fields) r.nodes]

/-- What is told of a cluster by its record. -/
def reply (r : ClusterRecord) : ClusterReply where
  cluster := {
    id := r.id
    externalId := r.externalId
    name := r.name
    state := r.state
    product := ManagementReply.product r.product
    ccs := r.ccs.getD false
    cloudProvider := r.cloudProvider.getD ""
    region := r.region.getD ""
    hosted := r.hosted.getD false
    infraId := r.infraId.filter fun i => !i.isEmpty
    subnetIds := r.subnetIds.getD []
    subscriptionId := r.subscriptionId }
  fixedNodes := (r.nodes.map fun n => n.master + n.infra).getD 0

end ClusterRecord

/-- **A cluster is read from what spells a record of it.** -/
theorem cluster?_iff (j : Json) (reply : ClusterReply) :
    cluster? j = some reply ↔ ∃ r : ClusterRecord, Shaped r.fields j ∧ r.reply = reply := by
  refine Json.read_kept_iff (by decide) (fun r => rfl) fun slots stand => ?_
  iterate 13 obtain _ | ⟨_, stand⟩ := stand
  cases stand
  -- what each kind of field is read from; then there is one fact about each of the fields
  have ids {slot : Json.Slot} {o : Option String} : slot.optional id? = some o ↔ _ :=
    Json.Slot.optional_iff IsId id?_iff fun _ => Json.not_shaped_null
  have switches {slot : Json.Slot} {o : Option Bool} : slot.optional enabled? = some o ↔ _ :=
    Json.Slot.optional_iff IsSwitch enabled?_iff fun _ => Json.not_shaped_null
  have networks {slot : Json.Slot} {o : Option (List String)} :
      slot.optional network? = some o ↔ _ :=
    Json.Slot.optional_iff IsNetwork network?_iff fun _ => Json.not_shaped_null
  have nodes {slot : Json.Slot} {o : Option UInt32} : slot.optional fixedNodes? = some o ↔ _ :=
    Json.Slot.optional_kept_iff (fun n : FixedNodes => Shaped n.fields) _ fixedNodes?_iff
      fun _ => Json.not_shaped_null
  have texts {slot : Json.Slot} {s : String} : slot.defaulted "" Json.string? = some s ↔ _ :=
    Json.Slot.defaulted_iff (fun s j => j = .text s) fun _ _ => Json.string?_iff
  -- the reads are nested: each one is taken apart before what it holds
  dsimp only [Option.bind_eq_bind, Option.pure_def]
  simp only [↓Option.bind_eq_some_iff, Option.some.injEq, Json.Slot.required_string?_iff,
    Json.Slot.optional_string?_iff, ClusterState.required_iff, ids, switches, networks, nodes, texts]
  constructor
  · intro read
    obtain ⟨id, h₁, externalId, h₂, name, h₃, state, h₄, product, h₅, ccs, h₆, provider, h₇,
      region, h₈, hosted, h₉, infraId, h₁₀, subnetIds, h₁₁, subscriptionId, h₁₂, _,
      ⟨nodes, h₁₃, rfl⟩, rfl⟩ := read
    refine ⟨⟨id, externalId, name, state, product, ccs, provider, region, hosted, infraId,
      subnetIds, subscriptionId, nodes⟩, ?_, rfl⟩
    simp only [ClusterRecord.fields, List.forall₂_cons, List.Forall₂.nil, and_true]
    exact ⟨h₁, h₂, h₃, h₄, h₅, h₆, h₇, h₈, h₉, h₁₀, h₁₁, h₁₂, h₁₃⟩
  · intro spelled
    obtain ⟨r, fits, rfl⟩ := spelled
    simp only [ClusterRecord.fields, List.forall₂_cons, List.Forall₂.nil, and_true] at fits
    obtain ⟨h₁, h₂, h₃, h₄, h₅, h₆, h₇, h₈, h₉, h₁₀, h₁₁, h₁₂, h₁₃⟩ := fits
    exact ⟨_, h₁, _, h₂, _, h₃, _, h₄, _, h₅, _, h₆, _, h₇, _, h₈, _, h₉, _, h₁₀, _, h₁₁, _, h₁₂,
      _, ⟨_, h₁₃, rfl⟩, rfl⟩

/-! ## 5. One spelling of each -/

def rangeTree (range : NodeCount) : Json :=
  .record [("min_replicas", .nat range.min.toNat), ("max_replicas", .nat range.max.toNat)]

/-- A pool, spelled out: what it has nothing of is null. -/
def poolTree (p : NodePool) : Json :=
  .record [("replicas", (p.replicas.map fun w => .nat w.toNat).getD .null),
    ("autoscaling", (p.autoscaling.map rangeTree).getD .null)]

def poolsTree (pools : List NodePool) : Json := .record [("items", .array (pools.map poolTree))]

def nodesTree (n : FixedNodes) : Json :=
  .record [("master", .nat n.master.toNat), ("infra", .nat n.infra.toNat)]

/-- A record of a cluster that tells no more than it must, besides the fixed nodes. -/
def bareRecord (nodes : Option FixedNodes) : ClusterRecord :=
  ⟨"", "", "", .unknown, none, none, none, none, none, none, none, none, nodes⟩

def bareTree (nodes : Option FixedNodes) : Json :=
  .record [("id", .text ""), ("state", ClusterState.unknown.toJson),
    ("nodes", (nodes.map nodesTree).getD .null)]

theorem isCount_nat (n : Nat) : IsCount n (.nat n) :=
  ⟨Nat.toDigits 10 n, rfl, Nat.ofDigitChars_ten_toDigits⟩

theorem shaped_rangeTree (range : NodeCount) : Shaped (rangeFields range) (rangeTree range) := by
  have distinct : (Json.names (rangeFields range)).Nodup := by simp [Json.names, rangeFields]
  refine (Json.shaped_record_iff rfl distinct).mpr ?_
  simp [rangeFields, Json.Slot.Fits, isCount_nat]

theorem shaped_poolTree (p : NodePool) : Shaped (poolFields p) (poolTree p) := by
  have distinct : (Json.names (poolFields p)).Nodup := by simp [Json.names, poolFields]
  have size := Json.Slot.fits_maybe (fun w : UInt32 => IsCount w.toNat) (fun w => .nat w.toNat)
    (fun w => isCount_nat w.toNat) p.replicas
  have range := Json.Slot.fits_maybe (fun range => Shaped (rangeFields range)) rangeTree
    shaped_rangeTree p.autoscaling
  exact (Json.shaped_record_iff rfl distinct).mpr (.cons size (.cons range .nil))

theorem isItems_poolsTree (pools : List NodePool) :
    IsItems (fun p => Shaped (poolFields p)) pools (poolsTree pools) := by
  have distinct : (Json.names [Field.byDefault "items" []
      (IsList fun p => Shaped (poolFields p)) pools]).Nodup := List.nodup_singleton _
  refine (Json.shaped_record_iff rfl distinct).mpr ?_
  have each : IsList (fun p => Shaped (poolFields p)) pools (.array (pools.map poolTree)) :=
    ⟨_, rfl, List.forall₂_map_left_iff.mpr (List.forall₂_same.mpr fun p _ => shaped_poolTree p)⟩
  exact .cons (.inl each) .nil

theorem shaped_nodesTree (n : FixedNodes) : Shaped n.fields (nodesTree n) := by
  have distinct : (Json.names n.fields).Nodup := by simp [Json.names, FixedNodes.fields]
  refine (Json.shaped_record_iff rfl distinct).mpr ?_
  simp [FixedNodes.fields, Json.Slot.Fits, isCount_nat]

theorem shaped_bareTree (nodes : Option FixedNodes) :
    Shaped (bareRecord nodes).fields (bareTree nodes) := by
  have distinct : (Json.names (bareRecord nodes).fields).Nodup := by
    simp [Json.names, ClusterRecord.fields]
  -- ten of the thirteen fields are left out
  have found : Json.fields? (Json.names (bareRecord nodes).fields) (bareTree nodes) =
      some [.given (.text ""), .unnamed, .unnamed, .given ClusterState.unknown.toJson, .unnamed,
        .unnamed, .unnamed, .unnamed, .unnamed, .unnamed, .unnamed, .unnamed,
        .given ((nodes.map nodesTree).getD .null)] := rfl
  refine (Json.shaped_iff distinct found).mpr ?_
  have state := (ClusterState.ofJson?_iff _ _).mp (ClusterState.ofJson?_toJson .unknown)
  cases nodes with
  | none => simp [ClusterRecord.fields, bareRecord, Json.Slot.Fits, state]
  | some n => simp [ClusterRecord.fields, bareRecord, Json.Slot.Fits, state, shaped_nodesTree]

theorem proper_getD {α : Type} {tree : α → Json} (proper : ∀ a, (tree a).Proper) (o : Option α) :
    ((o.map tree).getD .null).Proper := by
  cases o with
  | none => trivial
  | some a => exact proper a

theorem proper_poolTree (p : NodePool) : (poolTree p).Proper := by
  have range (range : NodeCount) : (rangeTree range).Proper :=
    Json.proper_record (by simp [Json.proper_nat])
  have size := proper_getD (fun w : UInt32 => Json.proper_nat w.toNat) p.replicas
  exact Json.proper_record (by simp [size, proper_getD range])

theorem proper_poolsTree (pools : List NodePool) : (poolsTree pools).Proper := by
  have items : (Json.array (pools.map poolTree)).Proper :=
    Json.proper_array (by simp [proper_poolTree])
  exact Json.proper_record (by simp [items])

theorem proper_bareTree (nodes : Option FixedNodes) : (bareTree nodes).Proper := by
  have told (n : FixedNodes) : (nodesTree n).Proper :=
    Json.proper_record (by simp [Json.proper_nat])
  exact Json.proper_record (by
    simp [Json.proper_text, ClusterState.toJson, proper_getD told])

end ManagementReply

end OnCall
