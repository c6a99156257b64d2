import OnCall.Advisory
import OnCall.Alert
import OnCall.Cloud.Records
import OnCall.Json.RoundTrip
import OnCall.Restriction
import OnCall.Time.RoundTrip

/-!
# Records that were written are read back

Two facts about every record that is both written and read: its tree is read as the record
(`ofJson?_toJson`), and the tree may be written (`proper_toJson`). So the text that is written for it
is read as the same record (`Json.decode?_write`).
-/

namespace OnCall

/-! ## 1. Numbers -/

namespace Numeral

/-- The digits of a number start with a zero only if there are no others. -/
theorem toDigits_ne_zero_cons (n : Nat) : ∀ c cs, Nat.toDigits 10 n ≠ '0' :: c :: cs := by
  induction n using Nat.strongRecOn with
  | ind n ih =>
    intro c cs h
    by_cases hn : n < 10
    · rw [Nat.toDigits_of_lt_base hn] at h
      simp at h
    · rw [Nat.toDigits_of_base_le (by decide) (by omega)] at h
      cases hq : Nat.toDigits 10 (n / 10) with
      | nil => exact Nat.toDigits_ne_nil hq
      | cons d ds =>
        rw [hq, List.cons_append] at h
        obtain rfl := (List.cons.inj h).1
        cases ds with
        | nil =>
          have hvalue := @Nat.ofDigitChars_ten_toDigits (n / 10)
          rw [hq] at hvalue
          have hzero : 0 = n / 10 := hvalue
          omega
        | cons e ds => exact ih (n / 10) (by omega) e ds hq

theorem proper_ofNat (n : Nat) : (ofNat n).Proper :=
  ⟨⟨Nat.toDigits_ne_nil, fun _ h => Nat.isDigit_of_mem_toDigits (by decide) (by decide) h,
    toDigits_ne_zero_cons n⟩, by simp [ofNat, AllDigits], by simp [ofNat]⟩

theorem nat?_ofNat (n : Nat) : (ofNat n).nat? = some n := by
  rw [nat?, if_pos ⟨rfl, rfl, rfl⟩, ofNat, Text.valueOf, Nat.ofDigitChars_ten_toDigits]

end Numeral

/-! ## 2. Parts of records -/

namespace Json

theorem proper_text (s : String) : (text s).Proper := rfl

theorem proper_bool (b : Bool) : (bool b).Proper := trivial

theorem proper_text? (s : Option String) : (text? s).Proper := by
  cases s with
  | none => trivial
  | some s => rfl

theorem proper_nat (n : Nat) : (nat n).Proper := Numeral.proper_ofNat n

theorem proper_array {items : List Json} (h : ∀ j ∈ items, j.Proper) : (array items).Proper := by
  induction items with
  | nil => trivial
  | cons j items ih => exact ⟨h j (by simp), ih fun k hk => h k (by simp [hk])⟩

theorem proper_texts (items : List String) : (texts items).Proper :=
  proper_array (by simp [proper_text])

theorem proper_record {members : List (String × Json)} (h : ∀ m ∈ members, m.2.Proper) :
    (record members).Proper := by
  induction members with
  | nil => trivial
  | cons m members ih => exact ⟨rfl, h m (by simp), ih fun n hn => h n (by simp [hn])⟩

/-- A name stands once among names that differ. -/
theorem filter_named {members : List (String × Json)} (h : (members.map (·.1)).Nodup)
    {m : String × Json} (hm : m ∈ members) :
    (members.map fun (n, v) => ((some n : Option String), v)).filter (fun x => x.1 = some m.1) =
      [(some m.1, m.2)] := by
  induction members with
  | nil => simp at hm
  | cons other members ih =>
    rw [List.map_cons, List.nodup_cons] at h
    rw [List.map_cons, List.filter_cons]
    rcases List.mem_cons.mp hm with rfl | hm
    · have hnone : (members.map fun (n, v) => ((some n : Option String), v)).filter
          (fun x => x.1 = some m.1) = [] := by
        rw [List.filter_eq_nil_iff]
        intro x hx
        obtain ⟨n, hn, rfl⟩ := List.mem_map.mp hx
        simp only [decide_eq_true_eq, Option.some.injEq]
        exact fun he => h.1 (he ▸ List.mem_map_of_mem hn)
      simp [hnone]
    · have hne : other.1 ≠ m.1 := fun he => h.1 (he ▸ List.mem_map_of_mem hm)
      simp [hne, ih h.2 hm]

/-- The fields of a record that was written are its members. -/
theorem fields?_record {names : List String} {members : List (String × Json)}
    (hnames : members.map (·.1) = names) (h : names.Nodup) :
    fields? names (record members) = some (members.map fun m => .given m.2) := by
  subst hnames
  have hall : (members.map fun (n, v) => ((some n : Option String), v)).all
      (fun m => m.1.isSome) = true := by simp
  rw [record, fields?, if_pos hall]
  have key : ∀ part : List (String × Json), (∀ m ∈ part, m ∈ members) →
      (part.map (·.1)).mapM (fun name => member? name (members.map fun (n, v) => (some n, v))) =
        some (part.map fun m => .given m.2) := by
    intro part hpart
    induction part with
    | nil => rfl
    | cons m part ih =>
      rw [List.map_cons, List.mapM_cons, member?, filter_named h (hpart m (by simp)),
        ih fun n hn => hpart n (by simp [hn])]
      rfl
  exact key members fun _ hm => hm

theorem required_given {α : Type} (value : Json → Option α) (j : Json) :
    (Slot.given j).required value = value j := rfl

theorem string?_text (s : String) : string? (text s) = some s := rfl

theorem bool?_bool (b : Bool) : bool? (bool b) = some b := rfl

theorem optional_text? (s : Option String) : (Slot.given (text? s)).optional string? = some s := by
  cases s <;> rfl

theorem list?_array_map {α : Type} {write : α → Json} {value : Json → Option α}
    (h : ∀ a, value (write a) = some a) (items : List α) :
    list? value (.array (items.map write)) = some items := by
  induction items with
  | nil => rfl
  | cons a items ih =>
    rw [list?] at ih
    rw [List.map_cons, list?, List.mapM_cons, h, ih]
    rfl

theorem list?_texts (items : List String) : list? string? (texts items) = some items :=
  list?_array_map string?_text items

end Json

/-! ## 3. Names and moments -/

theorem ClusterState.ofJson?_toJson (s : ClusterState) :
    ClusterState.ofJson? s.toJson = some s := by
  cases s <;> decide +kernel

theorem Product.ofJson?_toJson (p : Product) : Product.ofJson? p.toJson = some p := by
  cases p <;> decide +kernel

theorem InstanceState.ofJson?_toJson (s : InstanceState) :
    InstanceState.ofJson? s.toJson = some s := by
  cases s <;> decide +kernel

theorem Severity.ofJson?_toJson (s : Severity) : Severity.ofJson? s.toJson = some s := by
  cases s <;> decide +kernel

theorem AlertStatus.ofJson?_toJson (s : AlertStatus) : AlertStatus.ofJson? s.toJson = some s := by
  cases s <;> decide +kernel

theorem Instant.ofJson?_toJson (t : Instant) : Instant.ofJson? t.toJson = some t := by
  rw [ofJson?, toJson, Json.string?_text, Option.bind_some, read?_text]

theorem NodeCount.word?_nat (n : UInt32) : NodeCount.word? (.nat n.toNat) = some n := by
  have h : Json.word32? (.nat n.toNat) = some n.toNat := by
    have hn := n.toNat_lt
    simp [Json.word32?, Json.nat, Numeral.nat?_ofNat, hn]
  rw [word?, h, Option.map_some, UInt32.ofNat_toNat]

/-! ## 4. Records -/

namespace Cluster

theorem ofJson?_toJson (c : Cluster) : ofJson? c.toJson = some c := by
  rw [ofJson?, toJson, Json.fields?_record (by rfl) (by simp)]
  simp [Json.required_given, Json.optional_text?, Json.string?_text, Json.list?_texts,
    Json.bool?_bool, ClusterState.ofJson?_toJson, Product.ofJson?_toJson]

theorem proper_toJson (c : Cluster) : c.toJson.Proper :=
  Json.proper_record (by
    simp [Json.proper_text, Json.proper_text?, Json.proper_texts, Json.proper_bool,
      ClusterState.toJson, Product.toJson])

end Cluster

namespace Deployment

theorem ofJson?_toJson (d : Deployment) : ofJson? d.toJson = some d := by
  rw [ofJson?, toJson, Json.fields?_record (by rfl) (by simp)]
  simp [Json.required_given, Json.optional_text?, Json.string?_text, Json.bool?_bool]

theorem proper_toJson (d : Deployment) : d.toJson.Proper :=
  Json.proper_record (by simp [Json.proper_text, Json.proper_text?, Json.proper_bool])

end Deployment

namespace NodeCount

theorem ofJson?_toJson (n : NodeCount) : ofJson? n.toJson = some n := by
  rw [ofJson?, toJson, Json.fields?_record (by rfl) (by simp)]
  simp [Json.required_given, word?_nat]

theorem proper_toJson (n : NodeCount) : n.toJson.Proper :=
  Json.proper_record (by simp [Json.proper_nat])

end NodeCount

namespace StateTransition

theorem ofJson?_toJson (t : StateTransition) : ofJson? t.toJson = some t := by
  rw [ofJson?, toJson, Json.fields?_record (by rfl) (by simp)]
  simp [Json.required_given, ClusterState.ofJson?_toJson, Instant.ofJson?_toJson]

theorem proper_toJson (t : StateTransition) : t.toJson.Proper :=
  Json.proper_record (by simp [Json.proper_text, ClusterState.toJson, Instant.toJson])

end StateTransition

namespace Restriction

theorem ofJson?_toJson (r : Restriction) : ofJson? r.toJson = some r := by
  rw [ofJson?, toJson, Json.fields?_record (by rfl) (by simp)]
  simp [Json.required_given, Json.optional_text?, Json.string?_text]

theorem proper_toJson (r : Restriction) : r.toJson.Proper :=
  Json.proper_record (by simp [Json.proper_text, Json.proper_text?])

end Restriction

namespace Advisory

theorem ofJson?_toJson (a : Advisory) : ofJson? a.toJson = some a := by
  rw [ofJson?, toJson, Json.fields?_record (by rfl) (by simp)]
  simp [Json.required_given, Json.string?_text, Json.bool?_bool, Severity.ofJson?_toJson]

theorem proper_toJson (a : Advisory) : a.toJson.Proper :=
  Json.proper_record (by simp [Json.proper_text, Json.proper_bool, Severity.toJson])

end Advisory

namespace AdvisoryEntry

theorem ofJson?_toJson (e : AdvisoryEntry) : ofJson? e.toJson = some e := by
  rw [ofJson?, toJson, Json.fields?_record (by rfl) (by simp)]
  simp [Json.required_given, Json.string?_text, Instant.ofJson?_toJson]

theorem proper_toJson (e : AdvisoryEntry) : e.toJson.Proper :=
  Json.proper_record (by simp [Json.proper_text, Instant.toJson])

end AdvisoryEntry

namespace Instance

theorem ofJson?_toJson (i : Instance) : ofJson? i.toJson = some i := by
  rw [ofJson?, toJson, Json.fields?_record (by rfl) (by simp)]
  simp [Json.required_given, Json.optional_text?, Json.string?_text, InstanceState.ofJson?_toJson]

theorem proper_toJson (i : Instance) : i.toJson.Proper :=
  Json.proper_record (by simp [Json.proper_text, Json.proper_text?, InstanceState.toJson])

end Instance

namespace AuditEvent

theorem ofJson?_toJson (e : AuditEvent) : ofJson? e.toJson = some e := by
  rw [ofJson?, toJson, Json.fields?_record (by rfl) (by simp)]
  simp [Json.required_given, Json.optional_text?, Json.string?_text, Instant.ofJson?_toJson]

theorem proper_toJson (e : AuditEvent) : e.toJson.Proper :=
  Json.proper_record (by simp [Json.proper_text, Json.proper_text?, Instant.toJson])

end AuditEvent

namespace Route

theorem ofJson?_toJson (r : Route) : ofJson? r.toJson = some r := by
  rw [ofJson?, toJson, Json.fields?_record (by rfl) (by simp)]
  simp [Json.optional_text?]

theorem proper_toJson (r : Route) : r.toJson.Proper :=
  Json.proper_record (by simp [Json.proper_text?])

end Route

namespace RouteTable

theorem ofJson?_toJson (t : RouteTable) : ofJson? t.toJson = some t := by
  rw [ofJson?, toJson, Json.fields?_record (by rfl) (by simp)]
  simp [Json.required_given, Json.string?_text, Json.list?_array_map Route.ofJson?_toJson]

theorem proper_toJson (t : RouteTable) : t.toJson.Proper :=
  Json.proper_record (by
    have hroutes : (Json.array (t.routes.map Route.toJson)).Proper :=
      Json.proper_array (by simp [Route.proper_toJson])
    simp [Json.proper_text, hroutes])

end RouteTable

namespace Alert

theorem ofJson?_toJson (a : Alert) : ofJson? a.toJson = some a := by
  rw [ofJson?, toJson, Json.fields?_record (by rfl) (by simp)]
  simp [Json.required_given, Json.string?_text, AlertStatus.ofJson?_toJson]

theorem proper_toJson (a : Alert) : a.toJson.Proper :=
  Json.proper_record (by simp [Json.proper_text, AlertStatus.toJson])

end Alert

end OnCall
