import Mathlib.Data.List.Forall2
import Mathlib.Data.List.Nodup
import OnCall.Json.Record

/-!
# Shapes of JSON records

A record is read out of an object or out of an array. What a reader expects of it is said by the
fields of the record: their names, whether they may be missing, and what their values are.

* `Json.IsRecord`, `Json.Stands`: what can be taken for a record, and what stands in the place of a
  field.
* `Json.fields?_iff`: **the fields that are found are those that stand there**.
* `Json.Shaped`: a record whose fields are as they are expected to be.
* `Json.Follows`: a way through records to a value; `Json.TextAt` is the text at its end, if there
  is one.
-/

namespace OnCall.Json

/-! ## 1. Records -/

/-- **What can be taken for a record** with these names: an object in which every name can be read,
or an array with no more items than there are names. -/
inductive IsRecord (names : List String) : Json → Prop where
  | object {members : List (Option String × Json)} (readable : ∀ m ∈ members, m.1 ≠ none) :
    IsRecord names (.object members)
  | array {items : List Json} (fits : items.length ≤ names.length) : IsRecord names (.array items)

/-- **What stands in the place of a field**: in an object its only member of that name, in an array
the item at the place of the name. If a name stands twice in an object, nothing stands in its place.
-/
inductive Stands (names : List String) (name : String) : Json → Slot → Prop where
  | given {members : List (Option String × Json)} {value : Json}
      (only : (members.filter fun m => m.1 = some name) = [(some name, value)]) :
    Stands names name (.object members) (.given value)
  | unnamed {members : List (Option String × Json)} (absent : ∀ m ∈ members, m.1 ≠ some name) :
    Stands names name (.object members) .unnamed
  | placed {items : List Json} {value : Json} (item : items[names.idxOf name]? = some value) :
    Stands names name (.array items) (.given value)
  | beyond {items : List Json} (short : items.length ≤ names.idxOf name) :
    Stands names name (.array items) .beyond

section Records

variable {names : List String} {name : String} {members : List (Option String × Json)}
  {items : List Json} {j : Json} {slot other : Slot} {slots : List Slot}

theorem member?_iff :
    member? name members = some slot ↔ Stands names name (.object members) slot := by
  unfold member?
  constructor
  · intro found
    split at found
    · rename_i none
      cases found
      refine .unnamed fun m mem same => ?_
      exact List.filter_eq_nil_iff.mp none m mem (decide_eq_true same)
    · rename_i m only
      cases found
      have held : m ∈ members.filter fun m => m.1 = some name := by
        rw [only]
        exact List.mem_singleton_self m
      have named : m.1 = some name := of_decide_eq_true (List.mem_filter.mp held).2
      refine .given ?_
      rw [only, ← named]
    · cases found
  · intro stands
    cases stands with
    | given only => rw [only]
    | unnamed absent =>
      rw [List.filter_eq_nil_iff.mpr fun m mem => by simpa using absent m mem]

/-- What stands at a place of an array. -/
def itemAt (items : List Json) (k : Nat) : Slot := (items[k]?).elim .beyond .given

theorem stands_array_iff :
    Stands names name (.array items) slot ↔ itemAt items (names.idxOf name) = slot := by
  unfold itemAt
  constructor
  · intro stands
    cases stands with
    | placed item =>
      rw [item]
      rfl
    | beyond short =>
      rw [List.getElem?_eq_none short]
      rfl
  · rintro rfl
    cases item : items[names.idxOf name]? with
    | none => exact .beyond (List.getElem?_eq_none_iff.mp item)
    | some value => exact .placed item

/-- One thing stands in the place of a field. -/
theorem Stands.unique (stands : Stands names name j slot) (again : Stands names name j other) :
    slot = other := by
  cases j with
  | object members =>
    have first := member?_iff.mpr stands
    have second := member?_iff.mpr again
    exact Option.some.inj (first.symm.trans second)
  | array items => exact (stands_array_iff.mp stands).symm.trans (stands_array_iff.mp again)
  | null => cases stands
  | bool _ => cases stands
  | number _ => cases stands
  | string _ => cases stands

theorem places?_iff :
    places? names items = some slots ↔
      items.length ≤ names.length ∧ (List.range names.length).map (itemAt items) = slots := by
  induction names generalizing items slots with
  | nil => cases items <;> simp [places?]
  | cons name names ih =>
    have turned : (List.range (name :: names).length).map (itemAt items) =
        itemAt items 0 :: (List.range names.length).map fun k => itemAt items (k + 1) := by
      rw [List.length_cons, List.range_succ_eq_map, List.map_cons, List.map_map]
      rfl
    rw [turned]
    cases items with
    | nil =>
      simp only [places?, Option.map_eq_some_iff, ih, List.length_nil, Nat.zero_le, true_and]
      exact exists_eq_left'
    | cons item items =>
      simp only [places?, Option.map_eq_some_iff, ih, List.length_cons, Nat.succ_le_succ_iff]
      constructor
      · rintro ⟨rest, ⟨fits, rfl⟩, rfl⟩
        exact ⟨fits, rfl⟩
      · rintro ⟨fits, rfl⟩
        exact ⟨_, ⟨fits, rfl⟩, rfl⟩

/-- Each item of an array stands at the place of its name. -/
theorem forall₂_array_iff (distinct : names.Nodup) :
    List.Forall₂ (fun name slot => Stands names name (.array items) slot) names slots ↔
      (List.range names.length).map (itemAt items) = slots := by
  have places : names.map names.idxOf = List.range names.length := by
    refine List.ext_getElem (by simp) fun k _ _ => ?_
    rw [List.getElem_map, List.getElem_range, distinct.idxOf_getElem]
  simp only [stands_array_iff]
  rw [← List.forall₂_map_left_iff (f := fun name => itemAt items (names.idxOf name)),
    List.forall₂_eq_eq_eq, ← places, List.map_map]
  rfl

theorem mapM_some_iff {α β : Type} {value : α → Option β} {as : List α} {bs : List β} :
    as.mapM value = some bs ↔ List.Forall₂ (fun a b => value a = some b) as bs := by
  induction as generalizing bs with
  | nil => cases bs <;> simp
  | cons a as ih =>
    rw [List.mapM_cons, List.forall₂_cons_left_iff]
    simp only [← ih]
    cases value a <;> cases as.mapM value <;> simp [eq_comm]

/-- **The fields that are found are those that stand there.** -/
theorem fields?_iff (distinct : names.Nodup) :
    fields? names j = some slots ↔
      IsRecord names j ∧ List.Forall₂ (fun name slot => Stands names name j slot) names slots := by
  cases j with
  | object members =>
    have readable : (members.all fun m => m.1.isSome) = true ↔
        IsRecord names (.object members) := by
      rw [List.all_eq_true]
      simp only [Option.isSome_iff_ne_none]
      constructor
      · exact .object
      · intro record
        cases record with
        | object readable => exact readable
    rw [fields?, ← readable]
    simp only [← member?_iff, ← mapM_some_iff]
    by_cases all : (members.all fun m => m.1.isSome) = true
    · rw [if_pos all]
      exact ⟨fun found => ⟨all, found⟩, fun found => found.2⟩
    · rw [if_neg all]
      exact ⟨fun none => (by cases none), fun found => absurd found.1 all⟩
  | array items =>
    have fits : items.length ≤ names.length ↔ IsRecord names (.array items) := by
      constructor
      · exact .array
      · intro record
        cases record with
        | array fits => exact fits
    rw [fields?, places?_iff, forall₂_array_iff distinct, fits]
  | null => exact ⟨fun none => (by cases none), fun found => (by cases found.1)⟩
  | bool _ => exact ⟨fun none => (by cases none), fun found => (by cases found.1)⟩
  | number _ => exact ⟨fun none => (by cases none), fun found => (by cases found.1)⟩
  | string _ => exact ⟨fun none => (by cases none), fun found => (by cases found.1)⟩

end Records

/-! ## 2. Shapes -/

/-- Whether a field may be missing. -/
inductive Presence where
  | required
  /-- It may be null, and an object may leave it out. -/
  | optional
  /-- It may be left out. -/
  | defaulted

/-- A field of a record: its name, whether it may be missing, and what is expected of its value. -/
structure Field where
  name : String
  presence : Presence
  value : Json → Prop

/-- What stands in the place of a field is as it is expected to be. -/
def Slot.Fits (presence : Presence) (value : Json → Prop) : Slot → Prop
  | .given j => value j ∨ presence = .optional ∧ j = .null
  | .unnamed => presence ≠ .required
  | .beyond => presence = .defaulted

/-- The names of some fields. -/
def names (fields : List Field) : List String := fields.map Field.name

/-- **A record whose fields are as they are expected to be.** -/
structure Shaped (fields : List Field) (j : Json) : Prop where
  record : IsRecord (names fields) j
  fits : ∀ field ∈ fields, ∃ slot, Stands (names fields) field.name j slot ∧
    slot.Fits field.presence field.value

/-- A string that can be read. -/
def IsText (j : Json) : Prop := ∃ s, j = .text s

/-- **A way through records**: at each step into the value of a field that is there and not null. -/
inductive Follows : List (List Field × String) → Json → Json → Prop where
  | here {j : Json} : Follows [] j j
  | step {fields : List Field} {name : String} {path : List (List Field × String)} {j v w : Json}
      (stands : Stands (names fields) name j (.given v)) (there : v ≠ .null)
      (rest : Follows path v w) :
    Follows ((fields, name) :: path) j w

/-- The text at the end of a way, if there is one. -/
def TextAt (path : List (List Field × String)) (j : Json) (text : Option String) : Prop :=
  ∀ s, text = some s ↔ Follows path j (.text s)

section Shapes

variable {fields : List Field} {name : String} {path : List (List Field × String)}
  {j w : Json} {slot : Slot} {slots : List Slot} {text : Option String}

theorem exists_forall₂_iff {α β : Type} {R : α → β → Prop} {as : List α} :
    (∃ bs, List.Forall₂ R as bs) ↔ ∀ a ∈ as, ∃ b, R a b := by
  induction as with
  | nil => simp
  | cons a as ih =>
    simp only [List.forall₂_cons_left_iff, List.forall_mem_cons, ← ih]
    constructor
    · rintro ⟨_, b, bs, first, others, rfl⟩
      exact ⟨⟨b, first⟩, bs, others⟩
    · rintro ⟨⟨b, first⟩, bs, others⟩
      exact ⟨b :: bs, b, bs, first, others, rfl⟩

theorem fields?_names_iff (distinct : (names fields).Nodup) :
    fields? (names fields) j = some slots ↔ IsRecord (names fields) j ∧
      List.Forall₂ (fun field slot => Stands (names fields) field.name j slot) fields slots := by
  rw [fields?_iff distinct]
  exact and_congr_right fun _ => List.forall₂_map_left_iff

/-- **A record has its shape if each field that is found fits.** -/
theorem shaped_iff (distinct : (names fields).Nodup)
    (found : fields? (names fields) j = some slots) :
    Shaped fields j ↔
      List.Forall₂ (fun field slot => slot.Fits field.presence field.value) fields slots := by
  obtain ⟨record, stand⟩ := (fields?_names_iff distinct).mp found
  constructor
  · intro shaped
    have both := (List.forall₂_and_left fields slots).mpr ⟨shaped.fits, stand⟩
    refine both.imp fun field slot ⟨⟨other, stands, fits⟩, stands'⟩ => ?_
    rw [stands'.unique stands]
    exact fits
  · intro fits
    exact ⟨record, exists_forall₂_iff.mp
      ⟨slots, stand.mp (fun _ _ stands fits => ⟨stands, fits⟩) fits⟩⟩

/-- The fields of a record that has its shape are found. -/
theorem Shaped.exists_fields? (distinct : (names fields).Nodup) (shaped : Shaped fields j) :
    ∃ slots, fields? (names fields) j = some slots := by
  obtain ⟨slots, stand⟩ := exists_forall₂_iff.mpr shaped.fits
  exact ⟨slots, (fields?_names_iff distinct).mpr
    ⟨shaped.record, stand.imp fun _ _ both => both.1⟩⟩

/-- **A reader that goes on with the fields of a record** reads what has the shape of the record, if
it does so wherever the fields are found. -/
theorem read_iff {α : Type} {read : List Slot → Option α} {a : α} {holds : Prop}
    (distinct : (names fields).Nodup)
    (reads : ∀ slots,
      List.Forall₂ (fun field slot => Stands (names fields) field.name j slot) fields slots →
      (read slots = some a ↔
        List.Forall₂ (fun field slot => slot.Fits field.presence field.value) fields slots ∧
          holds)) :
    (fields? (names fields) j).bind read = some a ↔ Shaped fields j ∧ holds := by
  cases found : fields? (names fields) j with
  | none =>
    constructor
    · intro none
      cases none
    · intro both
      obtain ⟨slots, there⟩ := both.1.exists_fields? distinct
      rw [found] at there
      cases there
  | some slots =>
    rw [Option.bind_some, shaped_iff distinct found]
    exact reads slots ((fields?_names_iff distinct).mp found).2

theorem follows_nil : Follows [] j w ↔ j = w := by
  constructor
  · intro follows
    cases follows
    rfl
  · rintro rfl
    exact .here

/-- A way leads to one value. -/
theorem Follows.unique {v : Json} (follows : Follows path j v) (again : Follows path j w) :
    v = w := by
  induction follows with
  | here => exact follows_nil.mp again
  | step stands there rest ih =>
    cases again with
    | step stands' there' rest' =>
      cases stands.unique stands'
      exact ih rest'

/-- At the end of a way there is a text or there is none. -/
theorem exists_textAt (path : List (List Field × String)) (j : Json) :
    ∃ text, TextAt path j text := by
  by_cases there : ∃ s, Follows path j (.text s)
  · obtain ⟨s, follows⟩ := there
    refine ⟨some s, fun t => ⟨fun same => ?_, fun again => ?_⟩⟩
    · cases same
      exact follows
    · cases follows.unique again
      rfl
  · refine ⟨none, fun t => ⟨fun same => ?_, fun follows => absurd ⟨t, follows⟩ there⟩⟩
    cases same

/-! ## 3. Reading one field -/

/-- The rest of a way, from what stands in the place of a field. -/
def Slot.Leads (path : List (List Field × String)) (slot : Slot) (w : Json) : Prop :=
  ∃ v, slot = .given v ∧ v ≠ .null ∧ Follows path v w

/-- The text at the end of such a way, if there is one. -/
def Slot.TextAt (path : List (List Field × String)) (slot : Slot) (text : Option String) : Prop :=
  ∀ s, text = some s ↔ slot.Leads path (.text s)

theorem follows_cons (stands : Stands (names fields) name j slot) :
    Follows ((fields, name) :: path) j w ↔ slot.Leads path w := by
  constructor
  · intro follows
    cases follows with
    | step stands' there rest => exact ⟨_, stands.unique stands', there, rest⟩
  · rintro ⟨v, rfl, there, rest⟩
    exact .step stands there rest

theorem textAt_cons (stands : Stands (names fields) name j slot) :
    TextAt ((fields, name) :: path) j text ↔ slot.TextAt path text := by
  simp only [TextAt, Slot.TextAt, follows_cons stands]

theorem string?_iff {s : String} : string? j = some s ↔ j = .text s := by
  unfold string? text
  cases j <;> simp

theorem text_ne_null (s : String) : Json.text s ≠ .null := nofun

theorem textAt_nil_iff (s : String) : TextAt [] (.text s) text ↔ text = some s := by
  simp only [TextAt, follows_nil]
  constructor
  · exact fun at_end => (at_end s).mpr rfl
  · rintro rfl t
    simp [Json.text]

theorem nullable?_of_ne {α : Type} {value : Json → Option α} (there : j ≠ .null) :
    nullable? value j = (value j).map some := by
  cases j with
  | null => exact absurd rfl there
  | _ => rfl

namespace Slot

theorem textAt_given (there : j ≠ .null) :
    (given j).TextAt path text ↔ Json.TextAt path j text := by
  have leads : ∀ w, (given j).Leads path w ↔ Follows path j w := by
    intro w
    constructor
    · rintro ⟨v, same, _, rest⟩
      cases same
      exact rest
    · exact fun rest => ⟨j, rfl, there, rest⟩
  simp only [TextAt, Json.TextAt, leads]

/-- There is no text behind what is not there. -/
theorem textAt_absent (absent : ∀ v, slot = .given v → v = .null) :
    slot.TextAt path text ↔ text = none := by
  have ends : ∀ w, ¬ slot.Leads path w := by
    rintro w ⟨v, same, there, _⟩
    exact there (absent v same)
  simp only [TextAt, ends, iff_false, Option.eq_none_iff_forall_ne_some]

theorem textAt_null : (given .null).TextAt path text ↔ text = none :=
  textAt_absent fun _ same => (Slot.given.inj same).symm

theorem textAt_unnamed : unnamed.TextAt path text ↔ text = none := textAt_absent nofun

theorem textAt_beyond : beyond.TextAt path text ↔ text = none := textAt_absent nofun

theorem fits_given (there : j ≠ .null) {presence : Presence} {value : Json → Prop} :
    (given j).Fits presence value ↔ value j := by
  unfold Fits
  constructor
  · rintro (fits | ⟨_, null⟩)
    · exact fits
    · exact absurd null there
  · exact .inl

/-- A text that may be missing. -/
theorem optional_text_iff :
    slot.optional string? = some text ↔ slot.Fits .optional IsText ∧ slot.TextAt [] text := by
  cases slot with
  | given j =>
    by_cases null : j = .null
    · subst null
      rw [textAt_null]
      exact ⟨fun same => ⟨.inr ⟨rfl, rfl⟩, (Option.some.inj same).symm⟩,
        fun both => congrArg some both.2.symm⟩
    · rw [fits_given null, textAt_given null, optional, nullable?_of_ne null,
        Option.map_eq_some_iff]
      simp only [string?_iff]
      constructor
      · rintro ⟨s, rfl, rfl⟩
        exact ⟨⟨s, rfl⟩, (textAt_nil_iff s).mpr rfl⟩
      · rintro ⟨⟨s, rfl⟩, at_end⟩
        exact ⟨s, rfl, ((textAt_nil_iff s).mp at_end).symm⟩
  | unnamed =>
    rw [textAt_unnamed]
    exact ⟨fun same => ⟨nofun, (Option.some.inj same).symm⟩, fun both => congrArg some both.2.symm⟩
  | beyond => exact ⟨fun same => (by cases same), fun both => (by cases both.1)⟩

/-- A text with a default. -/
theorem defaulted_text_iff {default s : String} :
    slot.defaulted default string? = some s ↔
      slot.Fits .defaulted IsText ∧ ∃ text, slot.TextAt [] text ∧ s = text.getD default := by
  cases slot with
  | given j =>
    rw [defaulted, string?_iff]
    constructor
    · rintro rfl
      exact ⟨.inl ⟨s, rfl⟩, some s,
        (textAt_given (text_ne_null s)).mpr ((textAt_nil_iff s).mpr rfl), rfl⟩
    · rintro ⟨⟨t, rfl⟩ | ⟨none, _⟩, text, at_end, same⟩
      · rw [(textAt_nil_iff t).mp ((textAt_given (text_ne_null t)).mp at_end)] at same
        rw [same]
        rfl
      · cases none
  | unnamed =>
    simp only [textAt_unnamed, exists_eq_left]
    exact ⟨fun same => ⟨nofun, (Option.some.inj same).symm⟩, fun both => congrArg some both.2.symm⟩
  | beyond =>
    simp only [textAt_beyond, exists_eq_left]
    exact ⟨fun same => ⟨rfl, (Option.some.inj same).symm⟩, fun both => congrArg some both.2.symm⟩

/-- A text that must be there. -/
theorem required_text_iff {s : String} :
    slot.required string? = some s ↔ slot.Fits .required IsText ∧ slot.Leads [] (.text s) := by
  constructor
  · intro read
    cases slot with
    | given j =>
      rw [string?_iff.mp read]
      exact ⟨.inl ⟨s, rfl⟩, _, rfl, text_ne_null s, .here⟩
    | unnamed => cases read
    | beyond => cases read
  · rintro ⟨_, v, rfl, _, rest⟩
    rw [follows_nil.mp rest]
    rfl

/-- A record that may be missing, and a text in it. -/
theorem optional_record_iff {value : Json → Option (Option String)}
    (reads : ∀ j text, value j = some text ↔ Shaped fields j ∧ Json.TextAt path j text) :
    (∃ read, slot.optional value = some read ∧ read.join = text) ↔
      slot.Fits .optional (Shaped fields) ∧ slot.TextAt path text := by
  cases slot with
  | given j =>
    by_cases null : j = .null
    · subst null
      rw [textAt_null]
      constructor
      · rintro ⟨read, same, rfl⟩
        cases same
        exact ⟨.inr ⟨rfl, rfl⟩, rfl⟩
      · rintro ⟨_, rfl⟩
        exact ⟨none, rfl, rfl⟩
    · rw [fits_given null, textAt_given null, ← reads, optional, nullable?_of_ne null]
      simp only [Option.map_eq_some_iff]
      constructor
      · rintro ⟨_, ⟨read, same, rfl⟩, rfl⟩
        exact same
      · exact fun same => ⟨some text, ⟨text, same, rfl⟩, rfl⟩
  | unnamed =>
    rw [textAt_unnamed]
    constructor
    · rintro ⟨read, same, rfl⟩
      cases same
      exact ⟨nofun, rfl⟩
    · rintro ⟨_, rfl⟩
      exact ⟨none, rfl, rfl⟩
  | beyond =>
    constructor
    · rintro ⟨read, same, _⟩
      cases same
    · exact fun both => (by cases both.1)

end Slot

end Shapes

end OnCall.Json
