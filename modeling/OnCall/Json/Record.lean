import OnCall.Json.Reader

/-!
# Records in JSON

A record is an object of named fields or an array of its fields in their order.

* In an object, names that the record does not know are passed over, a known name may stand only
  once, and every name must be readable.
* In an array every field stands at its place; only fields with a default may be missing, at the
  end.
* `fields?` finds the fields of a record, and `Slot.required`, `Slot.optional` and
  `Slot.defaulted` read one of them.
* `choice?` reads a name out of a list of names; such a name may also be written as an object of
  one member whose value is null.
-/

namespace OnCall.Json

/-! ## 1. Plain values -/

def string? : Json → Option String
  | .string s => s
  | _ => none

def bool? : Json → Option Bool
  | .bool b => some b
  | _ => none

/-- A whole number of at most 32 bits, written without sign, point and exponent. -/
def word32? : Json → Option Nat
  | .number n =>
    match n.nat? with
    | some v => if v < UInt32.size then some v else none
    | none => none
  | _ => none

/-- The items of an array, each read by `item`. -/
def list? {α : Type} (item : Json → Option α) : Json → Option (List α)
  | .array items => items.mapM item
  | _ => none

/-- A value that may be null. -/
def nullable? {α : Type} (value : Json → Option α) : Json → Option (Option α)
  | .null => some none
  | j => (value j).map some

/-! ## 2. Fields -/

/-- What stands in the place of a field: a value, nothing in an object, or nothing in an array. -/
inductive Slot where
  | given (value : Json)
  | unnamed
  | beyond

namespace Slot

/-- A field that must be there. -/
def required {α : Type} (value : Json → Option α) : Slot → Option α
  | .given j => value j
  | _ => none

/-- A field that may be null, and that an object may leave out. -/
def optional {α : Type} (value : Json → Option α) : Slot → Option (Option α)
  | .given j => nullable? value j
  | .unnamed => some none
  | .beyond => none

/-- A field with a default. -/
def defaulted {α : Type} (default : α) (value : Json → Option α) : Slot → Option α
  | .given j => value j
  | _ => some default

end Slot

/-- The value of a name, or nothing; no answer if the name stands twice. -/
def member? (name : String) (members : List (Option String × Json)) : Option Slot :=
  match members.filter fun m => m.1 = some name with
  | [] => some .unnamed
  | [m] => some (.given m.2)
  | _ => none

/-- The members that have none of these names. -/
def others (names : List String) (members : List (Option String × Json)) :
    List (Option String × Json) :=
  members.filter fun m => !m.1.any names.contains

/-- The slots of the items of an array for so many fields; no answer if there are more items. -/
def places? : List String → List Json → Option (List Slot)
  | [], [] => some []
  | [], _ :: _ => none
  | _ :: names, [] => (places? names []).map (.beyond :: ·)
  | _ :: names, item :: items => (places? names items).map (.given item :: ·)

/-- The fields of a record, in the order of their names. -/
def fields? (names : List String) : Json → Option (List Slot)
  | .object members =>
    if members.all fun m => m.1.isSome then names.mapM fun name => member? name members else none
  | .array items => places? names items
  | _ => none

/-- The value of a name in an object, the last one if the name stands more than once. -/
def get? (name : String) : Json → Option Json
  | .object members => (members.reverse.find? fun m => m.1 = some name).map (·.2)
  | _ => none

/-! ## 3. Choices -/

/-- A name out of a table; `other` stands for every name that is not in it. -/
def named? {α : Type} (table : List (String × α)) (other : Option α) (name : String) : Option α :=
  (table.lookup name).or other

/-- A choice: its name, or an object with the name as its only member and null as its value. -/
def choice? {α : Type} (table : List (String × α)) (other : Option α) : Json → Option α
  | .string (some name) => named? table other name
  | .object [(some name, .null)] => named? table other name
  | _ => none

/-! ## 4. Texts -/

/-- Read a text by a reader of trees. -/
def decode? {α : Type} (value : Json → Option α) (text : String) : Option α :=
  (read? text).bind value

/-- What is reported of a text that could not be read. -/
def unreadableReport : String := "not JSON of the expected form"

end OnCall.Json
