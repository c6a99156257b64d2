import Mathlib.Tactic.Simproc.ExistsAndEq
import OnCall.Proofs.Shapes
import OnCall.RoundTrip

/-!
# Records survive being written

A record can be spelled in many ways: its fields in any order, with others among them, or as an
array; a value that is absent as null or not at all; a value that is not known by any name that
stands for no other. It is written in one.

* `Json.IsName`, `Json.Denotes`, `Json.IsChoice`, `Json.IsCount`, `Json.IsList`: how values are
  spelled.
* `Cluster.fields` and the like: the fields of a record, each with everything that spells its value.
* `Cluster.ofJson?_iff` and the like: **a record is read from what spells it**, and from nothing
  else.
* `Instant.IsTimestamp`: the form of the moments that are written.
* `Json.Survives`, `records_survive`: **what is written is read as the same record**, and what is
  read is in its one form as soon as it is written.
-/

namespace OnCall

/-- A whole number is written by its digits alone. -/
theorem Numeral.nat?_iff {m : Numeral} {n : Nat} :
    m.nat? = some n ↔ ∃ digits, m = ⟨false, digits, [], none⟩ ∧ Text.valueOf digits = n := by
  obtain ⟨negative, whole, decimals, exponent⟩ := m
  unfold nat?
  constructor
  · intro read
    split at read
    · rename_i plain
      obtain ⟨rfl, rfl, rfl⟩ := plain
      exact ⟨whole, rfl, Option.some.inj read⟩
    · cases read
  · intro written
    obtain ⟨digits, same, rfl⟩ := written
    cases same
    rfl

namespace Json

/-! ## 1. How values are spelled -/

/-- A name, which may also be the only member of an object, with null as its value. -/
inductive IsName (name : String) : Json → Prop where
  | plain : IsName name (.text name)
  | member : IsName name (.record [(name, .null)])

/-- **The value that a name stands for**: one of the known values if it is called so; of any other
name, the value for what is not known, if there is one. -/
def Denotes {α : Type} (known : List α) (called : α → String) (other : Option α) (name : String)
    (a : α) : Prop :=
  a ∈ known ∧ called a = name ∨ other = some a ∧ ∀ k ∈ known, called k ≠ name

/-- A name that stands for a value. -/
def IsChoice {α : Type} (known : List α) (called : α → String) (other : Option α) (a : α)
    (j : Json) : Prop :=
  ∃ name, IsName name j ∧ Denotes known called other name a

/-- A whole number, by its digits alone. -/
def IsCount (n : Nat) (j : Json) : Prop :=
  ∃ digits, j = .number ⟨false, digits, [], none⟩ ∧ Text.valueOf digits = n

/-- An array whose items spell the items of a list, one by one. -/
def IsList {α : Type} (spells : α → Json → Prop) (as : List α) (j : Json) : Prop :=
  ∃ items, j = .array items ∧ List.Forall₂ (fun item a => spells a item) items as

section Values

variable {α : Type} {known : List α} {called : α → String} {other : Option α} {name : String}
  {a : α} {as : List α} {value : Json → Option α} {spells : α → Json → Prop} {j : Json}
  {slot : Slot}

theorem lookup_eq_some_iff (distinct : (known.map called).Nodup) :
    (known.map fun k => (called k, k)).lookup name = some a ↔ a ∈ known ∧ called a = name := by
  induction known with
  | nil => simp
  | cons k known ih =>
    rw [List.map_cons, List.nodup_cons] at distinct
    rw [List.map_cons, List.lookup_cons]
    by_cases same : name = called k
    · subst same
      have alone : a ∈ known → called a ≠ called k := by
        intro mem again
        exact distinct.1 (again ▸ List.mem_map_of_mem mem)
      rw [beq_self_eq_true, Option.some.injEq, List.mem_cons]
      constructor
      · intro found
        subst found
        exact ⟨.inl rfl, rfl⟩
      · intro found
        obtain ⟨rfl | mem, again⟩ := found
        · rfl
        · exact absurd again (alone mem)
    · rw [beq_false_of_ne same, ih distinct.2, List.mem_cons]
      constructor
      · exact fun found => ⟨.inr found.1, found.2⟩
      · intro found
        obtain ⟨rfl | mem, again⟩ := found
        · exact absurd again.symm same
        · exact ⟨mem, again⟩

theorem lookup_eq_none_iff :
    (known.map fun k => (called k, k)).lookup name = none ↔ ∀ k ∈ known, called k ≠ name := by
  rw [List.lookup_eq_none_iff, List.forall_mem_map]
  exact forall₂_congr fun k _ => bne_iff_ne.trans ne_comm

theorem named?_iff (distinct : (known.map called).Nodup) :
    named? (known.map fun k => (called k, k)) other name = some a ↔
      Denotes known called other name a := by
  rw [named?, Option.or_eq_some_iff, lookup_eq_some_iff distinct, lookup_eq_none_iff]
  exact or_congr_right and_comm

/-- **A choice is read from the names that stand for it.** -/
theorem choice?_iff (distinct : (known.map called).Nodup) :
    choice? (known.map fun k => (called k, k)) other j = some a ↔
      IsChoice known called other a j := by
  simp only [IsChoice, ← named?_iff distinct]
  constructor
  · intro read
    unfold choice? at read
    split at read
    · exact ⟨_, .plain, read⟩
    · exact ⟨_, .member, read⟩
    · cases read
  · intro chosen
    obtain ⟨name, spelled, read⟩ := chosen
    cases spelled with
    | plain => exact read
    | member => exact read

theorem bool?_iff {b : Bool} : bool? j = some b ↔ j = .bool b := by
  unfold bool?
  cases j <;> simp

theorem word32?_iff {n : Nat} : word32? j = some n ↔ IsCount n j ∧ n < UInt32.size := by
  unfold IsCount
  cases j with
  | number m =>
    simp only [Json.number.injEq, ← Numeral.nat?_iff]
    rw [word32?]
    cases m.nat? with
    | none => simp
    | some v =>
      have bound : v = n → (v < UInt32.size ↔ n < UInt32.size) := fun same => same ▸ Iff.rfl
      simp only [Option.ite_none_right_eq_some, Option.some.injEq]
      rw [and_comm, and_congr_right bound]
  | _ => simp [word32?]

theorem list?_iff (reads : ∀ j a, value j = some a ↔ spells a j) :
    list? value j = some as ↔ IsList spells as j := by
  unfold IsList
  cases j with
  | array items =>
    rw [list?, mapM_some_iff]
    simp only [reads, Json.array.injEq, exists_eq_left']
  | _ => simp [list?]

/-! ## 2. Fields -/

namespace Field

/-- A field that must be there. -/
@[simp] def must (name : String) (spelled : Json → Prop) : Field := ⟨name, .required, spelled⟩

/-- A field with a text. -/
@[simp] def text (name s : String) : Field := must name (· = .text s)

/-- A field with a yes or no. -/
@[simp] def flag (name : String) (b : Bool) : Field := must name (· = .bool b)

/-- A field with a list of texts. -/
@[simp] def texts (name : String) (list : List String) : Field :=
  must name (IsList (fun s j => j = .text s) list)

/-- A field with a text if there is one; if there is none, it is null or left out. -/
@[simp] def text? (name : String) (s : Option String) : Field :=
  ⟨name, if s = none then .optional else .required, fun j => ∃ t, s = some t ∧ j = .text t⟩

end Field

namespace Slot

theorem required_iff (spells : α → Json → Prop) (reads : ∀ j a, value j = some a ↔ spells a j) :
    slot.required value = some a ↔ slot.Fits .required (spells a) := by
  cases slot with
  | given j => simp [required, Fits, reads]
  | unnamed => simp [required, Fits]
  | beyond => simp [required, Fits]

@[simp] theorem required_string?_iff {s : String} :
    slot.required string? = some s ↔ slot.Fits .required (· = .text s) :=
  required_iff (fun s j => j = .text s) fun _ _ => string?_iff

@[simp] theorem required_bool?_iff {b : Bool} :
    slot.required bool? = some b ↔ slot.Fits .required (· = .bool b) :=
  required_iff (fun b j => j = .bool b) fun _ _ => bool?_iff

@[simp] theorem required_list?_iff {list : List String} :
    slot.required (list? string?) = some list ↔
      slot.Fits .required (IsList (fun s j => j = .text s) list) :=
  required_iff _ fun _ _ => list?_iff fun _ _ => string?_iff

/-- A value that may be missing, if null spells none. -/
theorem optional_iff (spells : α → Json → Prop) (reads : ∀ j a, value j = some a ↔ spells a j)
    (solid : ∀ a, ¬ spells a .null) {o : Option α} :
    slot.optional value = some o ↔
      slot.Fits (if o = none then .optional else .required)
        fun j => ∃ a, o = some a ∧ spells a j := by
  cases slot with
  | given j =>
    by_cases null : j = .null
    · subst null
      cases o with
      | none => simp [optional, nullable?, Fits]
      | some a => simp [optional, nullable?, Fits, solid]
    · rw [optional, nullable?_of_ne null, Option.map_eq_some_iff]
      simp only [reads, Fits, null, and_false, or_false]
      exact exists_congr fun a => by rw [and_comm, eq_comm]
  | unnamed => cases o <;> simp [optional, Fits]
  | beyond => cases o <;> simp [optional, Fits]

@[simp] theorem optional_string?_iff {s : Option String} :
    slot.optional string? = some s ↔
      slot.Fits (if s = none then .optional else .required)
        fun j => ∃ t, s = some t ∧ j = .text t :=
  optional_iff (fun t j => j = .text t) (fun _ _ => string?_iff) fun t => (text_ne_null t).symm

end Slot

end Values

/-- **A record is read from what has its shape**, if its fields are read where they fit. -/
theorem read_shaped_iff {α : Type} {fields : List Field} {read : List Slot → Option α} {a : α}
    {j : Json} (distinct : (names fields).Nodup)
    (reads : ∀ slots,
      List.Forall₂ (fun field slot => Stands (names fields) field.name j slot) fields slots →
      (read slots = some a ↔
        List.Forall₂ (fun field slot => slot.Fits field.presence field.value) fields slots)) :
    (fields? (names fields) j).bind read = some a ↔ Shaped fields j := by
  have shaped : (fields? (names fields) j).bind read = some a ↔ Shaped fields j ∧ True :=
    read_iff distinct fun slots stand => (reads slots stand).trans (iff_of_eq (and_true _)).symm
  rw [and_true] at shaped
  exact shaped

end Json

/-! ## 3. Names, numbers and moments -/

open Json (Field)

namespace ClusterState

def Spelled : ClusterState → Json → Prop := Json.IsChoice known name (some unknown)

theorem ofJson?_iff (j : Json) (s : ClusterState) : ofJson? j = some s ↔ s.Spelled j :=
  Json.choice?_iff (by decide)

@[simp] theorem required_iff {slot : Json.Slot} {s : ClusterState} :
    slot.required ofJson? = some s ↔ slot.Fits .required s.Spelled :=
  Json.Slot.required_iff _ ofJson?_iff

end ClusterState

namespace Product

def Spelled : Product → Json → Prop := Json.IsChoice [osd, rosa] name (some unknown)

theorem ofJson?_iff (j : Json) (p : Product) : ofJson? j = some p ↔ p.Spelled j :=
  Json.choice?_iff (by decide)

@[simp] theorem required_iff {slot : Json.Slot} {p : Product} :
    slot.required ofJson? = some p ↔ slot.Fits .required p.Spelled :=
  Json.Slot.required_iff _ ofJson?_iff

end Product

namespace InstanceState

def Spelled : InstanceState → Json → Prop := Json.IsChoice known name (some unknown)

theorem ofJson?_iff (j : Json) (s : InstanceState) : ofJson? j = some s ↔ s.Spelled j :=
  Json.choice?_iff (by decide)

@[simp] theorem required_iff {slot : Json.Slot} {s : InstanceState} :
    slot.required ofJson? = some s ↔ slot.Fits .required s.Spelled :=
  Json.Slot.required_iff _ ofJson?_iff

end InstanceState

namespace Severity

def Spelled : Severity → Json → Prop := Json.IsChoice all name none

theorem ofJson?_iff (j : Json) (s : Severity) : ofJson? j = some s ↔ s.Spelled j :=
  Json.choice?_iff (by decide)

@[simp] theorem required_iff {slot : Json.Slot} {s : Severity} :
    slot.required ofJson? = some s ↔ slot.Fits .required s.Spelled :=
  Json.Slot.required_iff _ ofJson?_iff

end Severity

namespace AlertStatus

def Spelled : AlertStatus → Json → Prop := Json.IsChoice [triggered, resolved] name none

theorem ofJson?_iff (j : Json) (s : AlertStatus) : ofJson? j = some s ↔ s.Spelled j :=
  Json.choice?_iff (by decide)

@[simp] theorem required_iff {slot : Json.Slot} {s : AlertStatus} :
    slot.required ofJson? = some s ↔ slot.Fits .required s.Spelled :=
  Json.Slot.required_iff _ ofJson?_iff

end AlertStatus

namespace NodeCount

theorem word?_iff (j : Json) (n : UInt32) : word? j = some n ↔ Json.IsCount n.toNat j := by
  rw [word?, Option.map_eq_some_iff]
  simp only [Json.word32?_iff]
  constructor
  · intro word
    obtain ⟨v, ⟨count, small⟩, rfl⟩ := word
    rw [UInt32.toNat_ofNat_of_lt' small]
    exact count
  · intro count
    exact ⟨n.toNat, ⟨count, n.toNat_lt⟩, UInt32.ofNat_toNat⟩

@[simp] theorem required_iff {slot : Json.Slot} {n : UInt32} :
    slot.required word? = some n ↔ slot.Fits .required (Json.IsCount n.toNat) :=
  Json.Slot.required_iff (fun n : UInt32 => Json.IsCount n.toNat) word?_iff

end NodeCount

namespace Instant

/-- A text that is a timestamp of the moment. -/
def Spelled (t : Instant) (j : Json) : Prop := ∃ s, j = .text s ∧ read? s = some t

theorem ofJson?_iff (j : Json) (t : Instant) : ofJson? j = some t ↔ t.Spelled j := by
  rw [ofJson?, Option.bind_eq_some_iff]
  simp only [Json.string?_iff]
  rfl

@[simp] theorem required_iff {slot : Json.Slot} {t : Instant} :
    slot.required ofJson? = some t ↔ slot.Fits .required t.Spelled :=
  Json.Slot.required_iff _ ofJson?_iff

end Instant

/-! ## 4. Records

The `fields` of a record say what spells each of its values. -/

namespace Cluster

def fields (c : Cluster) : List Field :=
  [.text "id" c.id, .text "external_id" c.externalId, .text "name" c.name,
    .must "state" c.state.Spelled, .must "product" c.product.Spelled, .flag "ccs" c.ccs,
    .text "cloud_provider" c.cloudProvider, .text "region" c.region, .flag "hypershift" c.hosted,
    .text? "infra_id" c.infraId, .texts "subnet_ids" c.subnetIds,
    .text? "subscription_id" c.subscriptionId]

theorem nodup_names (c : Cluster) : (Json.names c.fields).Nodup := by simp [Json.names, fields]

theorem ofJson?_iff (j : Json) (c : Cluster) : ofJson? j = some c ↔ Json.Shaped c.fields j := by
  refine Json.read_shaped_iff c.nodup_names fun slots stand => ?_
  iterate 12 obtain _ | ⟨_, stand⟩ := stand
  cases stand
  cases c
  -- one statement about each slot is left; a yes or no is to stay one case
  simp [fields, Option.bind_eq_some_iff, -Bool.exists_bool]

end Cluster

namespace Deployment

def fields (d : Deployment) : List Field :=
  [.text "name" d.name, .text "namespace" d.namespaceName, .text "infra_id" d.infraId,
    .flag "installed" d.installed, .text? "power_state" d.powerState]

theorem nodup_names (d : Deployment) : (Json.names d.fields).Nodup := by simp [Json.names, fields]

theorem ofJson?_iff (j : Json) (d : Deployment) : ofJson? j = some d ↔ Json.Shaped d.fields j := by
  refine Json.read_shaped_iff d.nodup_names fun slots stand => ?_
  iterate 5 obtain _ | ⟨_, stand⟩ := stand
  cases stand
  cases d
  simp [fields, Option.bind_eq_some_iff, -Bool.exists_bool]

end Deployment

namespace NodeCount

def fields (n : NodeCount) : List Field :=
  [.must "min" (Json.IsCount n.min.toNat), .must "max" (Json.IsCount n.max.toNat)]

theorem nodup_names (n : NodeCount) : (Json.names n.fields).Nodup := by simp [Json.names, fields]

theorem ofJson?_iff (j : Json) (n : NodeCount) : ofJson? j = some n ↔ Json.Shaped n.fields j := by
  refine Json.read_shaped_iff n.nodup_names fun slots stand => ?_
  iterate 2 obtain _ | ⟨_, stand⟩ := stand
  cases stand
  cases n
  simp [fields, Option.bind_eq_some_iff, -Bool.exists_bool]

end NodeCount

namespace StateTransition

def fields (t : StateTransition) : List Field :=
  [.must "state" t.state.Spelled, .must "timestamp" t.timestamp.Spelled]

theorem nodup_names (t : StateTransition) : (Json.names t.fields).Nodup := by
  simp [Json.names, fields]

theorem ofJson?_iff (j : Json) (t : StateTransition) :
    ofJson? j = some t ↔ Json.Shaped t.fields j := by
  refine Json.read_shaped_iff t.nodup_names fun slots stand => ?_
  iterate 2 obtain _ | ⟨_, stand⟩ := stand
  cases stand
  cases t
  simp [fields, Option.bind_eq_some_iff, -Bool.exists_bool]

end StateTransition

namespace Restriction

def fields (r : Restriction) : List Field :=
  [.text? "id" r.id, .text "summary" r.summary, .text "details" r.details]

theorem nodup_names (r : Restriction) : (Json.names r.fields).Nodup := by simp [Json.names, fields]

theorem ofJson?_iff (j : Json) (r : Restriction) : ofJson? j = some r ↔ Json.Shaped r.fields j := by
  refine Json.read_shaped_iff r.nodup_names fun slots stand => ?_
  iterate 3 obtain _ | ⟨_, stand⟩ := stand
  cases stand
  cases r
  simp [fields, Option.bind_eq_some_iff, -Bool.exists_bool]

end Restriction

namespace Advisory

def fields (a : Advisory) : List Field :=
  [.must "severity" a.severity.Spelled, .text "summary" a.summary,
    .text "description" a.description, .text "service_name" a.serviceName,
    .flag "internal_only" a.internalOnly]

theorem nodup_names (a : Advisory) : (Json.names a.fields).Nodup := by simp [Json.names, fields]

theorem ofJson?_iff (j : Json) (a : Advisory) : ofJson? j = some a ↔ Json.Shaped a.fields j := by
  refine Json.read_shaped_iff a.nodup_names fun slots stand => ?_
  iterate 5 obtain _ | ⟨_, stand⟩ := stand
  cases stand
  cases a
  simp [fields, Option.bind_eq_some_iff, -Bool.exists_bool]

end Advisory

namespace AdvisoryEntry

def fields (e : AdvisoryEntry) : List Field :=
  [.text "id" e.id, .text "username" e.username, .text "log_type" e.logType,
    .text "summary" e.summary, .text "description" e.description,
    .must "timestamp" e.timestamp.Spelled]

theorem nodup_names (e : AdvisoryEntry) : (Json.names e.fields).Nodup := by
  simp [Json.names, fields]

theorem ofJson?_iff (j : Json) (e : AdvisoryEntry) :
    ofJson? j = some e ↔ Json.Shaped e.fields j := by
  refine Json.read_shaped_iff e.nodup_names fun slots stand => ?_
  iterate 6 obtain _ | ⟨_, stand⟩ := stand
  cases stand
  cases e
  simp [fields, Option.bind_eq_some_iff, -Bool.exists_bool]

end AdvisoryEntry

namespace Instance

def fields (i : Instance) : List Field :=
  [.text "id" i.id, .must "state" i.state.Spelled, .text? "instance_type" i.instanceType]

theorem nodup_names (i : Instance) : (Json.names i.fields).Nodup := by simp [Json.names, fields]

theorem ofJson?_iff (j : Json) (i : Instance) : ofJson? j = some i ↔ Json.Shaped i.fields j := by
  refine Json.read_shaped_iff i.nodup_names fun slots stand => ?_
  iterate 3 obtain _ | ⟨_, stand⟩ := stand
  cases stand
  cases i
  simp [fields, Option.bind_eq_some_iff, -Bool.exists_bool]

end Instance

namespace AuditEvent

def fields (e : AuditEvent) : List Field :=
  [.text "event_id" e.eventId, .text "event_name" e.eventName,
    .must "event_time" e.eventTime.Spelled, .text? "username" e.username, .text "payload" e.payload]

theorem nodup_names (e : AuditEvent) : (Json.names e.fields).Nodup := by simp [Json.names, fields]

theorem ofJson?_iff (j : Json) (e : AuditEvent) : ofJson? j = some e ↔ Json.Shaped e.fields j := by
  refine Json.read_shaped_iff e.nodup_names fun slots stand => ?_
  iterate 5 obtain _ | ⟨_, stand⟩ := stand
  cases stand
  cases e
  simp [fields, Option.bind_eq_some_iff, -Bool.exists_bool]

end AuditEvent

namespace Route

def fields (r : Route) : List Field :=
  [.text? "destination_cidr" r.destinationCidr, .text? "gateway_id" r.gatewayId,
    .text? "nat_gateway_id" r.natGatewayId, .text? "transit_gateway_id" r.transitGatewayId,
    .text? "state" r.state]

theorem nodup_names (r : Route) : (Json.names r.fields).Nodup := by simp [Json.names, fields]

theorem ofJson?_iff (j : Json) (r : Route) : ofJson? j = some r ↔ Json.Shaped r.fields j := by
  refine Json.read_shaped_iff r.nodup_names fun slots stand => ?_
  iterate 5 obtain _ | ⟨_, stand⟩ := stand
  cases stand
  cases r
  simp [fields, Option.bind_eq_some_iff, -Bool.exists_bool]

end Route

namespace RouteTable

def fields (t : RouteTable) : List Field :=
  [.text "id" t.id, .must "routes" (Json.IsList (fun r => Json.Shaped r.fields) t.routes)]

theorem nodup_names (t : RouteTable) : (Json.names t.fields).Nodup := by simp [Json.names, fields]

/-- The routes of a table. -/
theorem required_routes_iff {slot : Json.Slot} {routes : List Route} :
    slot.required (Json.list? Route.ofJson?) = some routes ↔
      slot.Fits .required (Json.IsList (fun r => Json.Shaped r.fields) routes) :=
  Json.Slot.required_iff _ fun _ _ => Json.list?_iff Route.ofJson?_iff

theorem ofJson?_iff (j : Json) (t : RouteTable) : ofJson? j = some t ↔ Json.Shaped t.fields j := by
  refine Json.read_shaped_iff t.nodup_names fun slots stand => ?_
  iterate 2 obtain _ | ⟨_, stand⟩ := stand
  cases stand
  cases t
  simp [fields, Option.bind_eq_some_iff, -Bool.exists_bool, required_routes_iff]

end RouteTable

namespace Alert

def fields (a : Alert) : List Field :=
  [.text "incident_id" a.incidentId, .text "title" a.title, .must "status" a.status.Spelled,
    .text "cluster_id" a.clusterId]

theorem nodup_names (a : Alert) : (Json.names a.fields).Nodup := by simp [Json.names, fields]

theorem ofJson?_iff (j : Json) (a : Alert) : ofJson? j = some a ↔ Json.Shaped a.fields j := by
  refine Json.read_shaped_iff a.nodup_names fun slots stand => ?_
  iterate 4 obtain _ | ⟨_, stand⟩ := stand
  cases stand
  cases a
  simp [fields, Option.bind_eq_some_iff, -Bool.exists_bool]

end Alert

/-! ## 5. Moments that are written -/

/-- So many digits. -/
def Text.Digits (width : Nat) (s : String) : Prop :=
  s.toList.length = width ∧ ∀ c ∈ s.toList, c.isDigit = true

theorem Text.digits_padded {width n : Nat} (some' : 0 < width) (small : n < Nat.pow 10 width) :
    Digits width (padded width n) :=
  ⟨length_padded some' small, fun _ mem => isDigit_of_mem_padded mem⟩

namespace Instant

open Text

/-- A year of four digits, or a sign and four digits or more. -/
inductive IsYear : String → Prop where
  | plain {s : String} (digits : Digits 4 s) : IsYear s
  | signed {sign s : String} (either : sign = "-" ∨ sign = "+") {width : Nat} (long : 4 ≤ width)
      (digits : Digits width s) : IsYear (sign ++ s)

/-- The decimals of a second: none, three, six or nine. -/
inductive IsFraction : String → Prop where
  | whole : IsFraction ""
  | decimals {s : String} {width : Nat} (groups : width = 3 ∨ width = 6 ∨ width = 9)
      (digits : Digits width s) : IsFraction ("." ++ s)

/-- **The form of a timestamp that is written**: date and time of day, without an offset. -/
inductive IsTimestamp : String → Prop where
  | mk {year month day hour minute second fraction : String} (years : IsYear year)
      (months : Digits 2 month) (days : Digits 2 day) (hours : Digits 2 hour)
      (minutes : Digits 2 minute) (seconds : Digits 2 second) (decimals : IsFraction fraction) :
      IsTimestamp (year ++ "-" ++ month ++ "-" ++ day ++ "T" ++ hour ++ ":" ++ minute ++ ":" ++
        second ++ fraction ++ "Z")

theorem isYear_yearText (year : Int) : IsYear (yearText year) := by
  have four : Nat.pow 10 4 = 10_000 := rfl
  unfold yearText
  split
  · exact .plain (digits_padded (by decide) (by omega))
  · have long : 4 ≤ (padded 4 year.natAbs).toList.length := by
      rw [toList_padded, List.length_append, List.length_replicate]
      omega
    refine .signed ?_ long ⟨rfl, fun _ mem => isDigit_of_mem_padded mem⟩
    split
    · exact .inl rfl
    · exact .inr rfl

theorem isFraction_fraction {nano : Nat} (small : nano < 1_000_000_000) :
    IsFraction (fraction nano) := by
  have three : Nat.pow 10 3 = 1_000 := rfl
  have six : Nat.pow 10 6 = 1_000_000 := rfl
  have nine : Nat.pow 10 9 = 1_000_000_000 := rfl
  unfold fraction
  split
  · exact .whole
  · split
    · exact .decimals (.inl rfl) (digits_padded (by decide) (by omega))
    · split
      · exact .decimals (.inr (.inl rfl)) (digits_padded (by decide) (by omega))
      · exact .decimals (.inr (.inr rfl)) (digits_padded (by decide) (by omega))

theorem isTimestamp_text (t : Instant) : IsTimestamp t.text := by
  have valid := Date.valid_ofDayNumber (t.second / 86_400)
  have month := valid.month_le
  have day := valid.day_le
  have clock := t.clock_bounds
  have nano := t.nano_lt
  have two {n : Nat} (small : n < 100) : Digits 2 (padded 2 n) := digits_padded (by decide) small
  have billion : nanosPerSecond = 1_000_000_000 := rfl
  have leap : t.isLeap = true ↔ nanosPerSecond ≤ t.nano := decide_eq_true_iff
  refine .mk (isYear_yearText _) (two (by omega)) (two (by omega)) (two (by omega))
    (two (by omega)) (two ?_) (isFraction_fraction ?_)
  · split <;> omega
  · split
    · omega
    · rename_i steady
      have short : ¬ nanosPerSecond ≤ t.nano := fun late => steady (leap.mpr late)
      omega

end Instant

/-! ## 6. Records that are written -/

namespace Json

/-- What a text becomes if it is read and what was read is written. -/
def rewritten? {α : Type} (value : Json → Option α) (tree : α → Json) (text : String) :
    Option String :=
  (decode? value text).map fun a => (tree a).write

/-- **Records survive being written**; `value` reads them, `tree` is what is written, and `fields`
are the fields of a record. -/
structure Survives {α : Type} (value : Json → Option α) (tree : α → Json)
    (fields : α → List Field) : Prop where
  /-- What is written is read as the record. -/
  read_back : ∀ a, decode? value (tree a).write = some a
  /-- Each field is written, once and in order, and nothing else; null where nothing is there. -/
  whole : ∀ a, ∃ members, tree a = .record members ∧
    List.Forall₂ (fun field m => field.name = m.1 ∧
      (Slot.given m.2).Fits field.presence field.value) (fields a) members
  /-- The texts that are read as a record are those that spell its fields. -/
  spelled : ∀ text a, decode? value text = some a ↔
    ∃ j, read? text = some j ∧ Shaped (fields a) j
  /-- Once rewritten, a text is read as before, and is rewritten as it stands. -/
  settled : ∀ text form, rewritten? value tree text = some form →
    decode? value form = decode? value text ∧ rewritten? value tree form = some form

/-- Records survive if the fields of each differ in their names, what spells them is read, and what
is written is read back. -/
theorem Survives.of {α : Type} {value : Json → Option α} {tree : α → Json}
    {fields : α → List Field} (distinct : ∀ a, (names (fields a)).Nodup)
    (reads : ∀ j a, value j = some a ↔ Shaped (fields a) j) (proper : ∀ a, (tree a).Proper)
    (own : ∀ a, value (tree a) = some a)
    (named : ∀ a, ∃ members, tree a = .record members ∧ members.map (·.1) = names (fields a)) :
    Survives value tree fields := by
  have back (a : α) : decode? value (tree a).write = some a :=
    (decode?_write value (proper a)).trans (own a)
  refine ⟨back, fun a => ?_, fun text a => ?_, fun text form rewritten => ?_⟩
  · obtain ⟨members, whole, same⟩ := named a
    refine ⟨members, whole, ?_⟩
    have shaped := (reads _ _).mp (own a)
    rw [whole] at shaped
    have fits := (shaped_iff (distinct a) (fields?_record same (distinct a))).mp shaped
    have fits := List.forall₂_map_right_iff.mp fits
    have names' : List.Forall₂ (· = ·) ((fields a).map Field.name) (members.map (·.1)) := by
      rw [List.forall₂_eq_eq_eq]
      exact same.symm
    have named := List.forall₂_map_left_iff.mp (List.forall₂_map_right_iff.mp names')
    exact named.mp (fun _ _ name value => ⟨name, value⟩) fits
  · rw [decode?, Option.bind_eq_some_iff]
    simp only [reads]
  · obtain ⟨a, read, rfl⟩ := Option.map_eq_some_iff.mp rewritten
    rw [rewritten?, back, read]
    exact ⟨rfl, rfl⟩

end Json

/-- **Records survive being written.** -/
theorem records_survive :
    Json.Survives Cluster.ofJson? Cluster.toJson Cluster.fields ∧
    Json.Survives Deployment.ofJson? Deployment.toJson Deployment.fields ∧
    Json.Survives NodeCount.ofJson? NodeCount.toJson NodeCount.fields ∧
    Json.Survives Restriction.ofJson? Restriction.toJson Restriction.fields ∧
    Json.Survives Advisory.ofJson? Advisory.toJson Advisory.fields ∧
    Json.Survives AdvisoryEntry.ofJson? AdvisoryEntry.toJson AdvisoryEntry.fields ∧
    Json.Survives StateTransition.ofJson? StateTransition.toJson StateTransition.fields ∧
    Json.Survives Instance.ofJson? Instance.toJson Instance.fields ∧
    Json.Survives AuditEvent.ofJson? AuditEvent.toJson AuditEvent.fields ∧
    Json.Survives Route.ofJson? Route.toJson Route.fields ∧
    Json.Survives RouteTable.ofJson? RouteTable.toJson RouteTable.fields ∧
    Json.Survives Alert.ofJson? Alert.toJson Alert.fields ∧
    ∀ t : Instant, ∃ s, t.toJson = .text s ∧ Instant.IsTimestamp s := by
  refine ⟨.of Cluster.nodup_names Cluster.ofJson?_iff Cluster.proper_toJson
      Cluster.ofJson?_toJson fun _ => ⟨_, rfl, rfl⟩,
    .of Deployment.nodup_names Deployment.ofJson?_iff Deployment.proper_toJson
      Deployment.ofJson?_toJson fun _ => ⟨_, rfl, rfl⟩,
    .of NodeCount.nodup_names NodeCount.ofJson?_iff NodeCount.proper_toJson
      NodeCount.ofJson?_toJson fun _ => ⟨_, rfl, rfl⟩,
    .of Restriction.nodup_names Restriction.ofJson?_iff Restriction.proper_toJson
      Restriction.ofJson?_toJson fun _ => ⟨_, rfl, rfl⟩,
    .of Advisory.nodup_names Advisory.ofJson?_iff Advisory.proper_toJson
      Advisory.ofJson?_toJson fun _ => ⟨_, rfl, rfl⟩,
    .of AdvisoryEntry.nodup_names AdvisoryEntry.ofJson?_iff AdvisoryEntry.proper_toJson
      AdvisoryEntry.ofJson?_toJson fun _ => ⟨_, rfl, rfl⟩,
    .of StateTransition.nodup_names StateTransition.ofJson?_iff StateTransition.proper_toJson
      StateTransition.ofJson?_toJson fun _ => ⟨_, rfl, rfl⟩,
    .of Instance.nodup_names Instance.ofJson?_iff Instance.proper_toJson
      Instance.ofJson?_toJson fun _ => ⟨_, rfl, rfl⟩,
    .of AuditEvent.nodup_names AuditEvent.ofJson?_iff AuditEvent.proper_toJson
      AuditEvent.ofJson?_toJson fun _ => ⟨_, rfl, rfl⟩,
    .of Route.nodup_names Route.ofJson?_iff Route.proper_toJson
      Route.ofJson?_toJson fun _ => ⟨_, rfl, rfl⟩,
    .of RouteTable.nodup_names RouteTable.ofJson?_iff RouteTable.proper_toJson
      RouteTable.ofJson?_toJson fun _ => ⟨_, rfl, rfl⟩,
    .of Alert.nodup_names Alert.ofJson?_iff Alert.proper_toJson
      Alert.ofJson?_toJson fun _ => ⟨_, rfl, rfl⟩,
    fun t => ⟨t.text, rfl, t.isTimestamp_text⟩⟩

/-- A state that is not known, in an array: it is written as an object. -/
example :
    Json.rewritten? StateTransition.ofJson? StateTransition.toJson
      "[\x7b\"dormant\": null\x7d, \"2024-05-01 02:00:00.50+02:00\"]" =
    some "\x7b\"state\":\"unknown\",\"timestamp\":\"2024-05-01T00:00:00.500Z\"\x7d" := by
  decide +kernel

end OnCall
