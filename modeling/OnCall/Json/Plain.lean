import OnCall.Json.Quantity
import OnCall.Json.Record

/-!
# Plain values

A text may be read as a plain value, whatever its form. Then every part of it has to be readable.

* `Json.isPlain`: all strings can be read, no number is too large, and arrays and objects are
  nested at most 127 deep.
* `Json.plain?`: such a tree with every number replaced by its quantity, and with only the last
  member of each name.
-/

namespace OnCall.Json

mutual

/-- Whether every part of a tree can be read, with so many levels of nesting left. -/
def plainWithin : Nat → Json → Bool
  | _, .null => true
  | _, .bool _ => true
  | _, .number n => n.quantity?.isSome
  | _, .string s => s.isSome
  | 0, .array _ => false
  | 0, .object _ => false
  | depth + 1, .array items => allPlainWithin depth items
  | depth + 1, .object members => membersPlainWithin depth members

def allPlainWithin : Nat → List Json → Bool
  | _, [] => true
  | depth, item :: items => plainWithin depth item && allPlainWithin depth items

def membersPlainWithin : Nat → List (Option String × Json) → Bool
  | _, [] => true
  | depth, (name, value) :: members =>
    name.isSome && plainWithin depth value && membersPlainWithin depth members

end

/-- Whether every part of a tree can be read. -/
def isPlain (j : Json) : Bool := plainWithin 127 j

/-- The last member of each name, in the order of these. -/
def lastMembers {α : Type} : List (Option String × α) → List (Option String × α)
  | [] => []
  | (name, value) :: members =>
    if members.any fun m => m.1 = name then lastMembers members
    else (name, value) :: lastMembers members

mutual

/-- A tree with its numbers replaced by their quantities and only the last member of each name. -/
def settled : Json → Json
  | .number n => .number ((n.quantity?.map Quantity.numeral).getD n)
  | .array items => .array (settledItems items)
  | .object members => .object (lastMembers (settledMembers members))
  | j => j

def settledItems : List Json → List Json
  | [] => []
  | item :: items => settled item :: settledItems items

def settledMembers : List (Option String × Json) → List (Option String × Json)
  | [] => []
  | (name, value) :: members => (name, settled value) :: settledMembers members

end

/-- The plain value of a tree. -/
def plain? (j : Json) : Option Json := if j.isPlain then some j.settled else none

end OnCall.Json
