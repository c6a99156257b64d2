import OnCall.Json.Writer

/-!
# JSON for people

* `Json.sorted`: a tree with the members of every object in the order of their names.
* `Json.pretty`: the text of a tree over several lines, two blanks deeper for every level.
-/

namespace OnCall.Json

/-! ## 1. Order of members -/

/-- Insert a member before the first one with a later name. -/
def insertMember (m : Option String × Json) :
    List (Option String × Json) → List (Option String × Json)
  | [] => [m]
  | n :: members =>
    if m.1.getD "" ≤ n.1.getD "" then m :: n :: members else n :: insertMember m members

mutual

/-- A tree with the members of every object in the order of their names. -/
def sorted : Json → Json
  | .array items => .array (sortedItems items)
  | .object members => .object (sortedMembers members)
  | j => j

def sortedItems : List Json → List Json
  | [] => []
  | item :: items => sorted item :: sortedItems items

def sortedMembers : List (Option String × Json) → List (Option String × Json)
  | [] => []
  | (name, value) :: members => insertMember (name, sorted value) (sortedMembers members)

end

/-! ## 2. Lines -/

/-- A line break and the blanks of a level. -/
def lineBreak (level : Nat) : List Char := '\n' :: List.replicate (2 * level) ' '

/-- Items between two brackets, each on a line of its own one level deeper. -/
def bracketed (left right : Char) (level : Nat) (items : List (List Char)) : List Char :=
  if items.isEmpty then [left, right]
  else
    left :: joinedWithCommas (items.map (lineBreak (level + 1) ++ ·)) ++ lineBreak level ++ [right]

mutual

/-- The characters of a tree that stands on a level. -/
def prettyChars (level : Nat) : Json → List Char
  | .array items => bracketed '[' ']' level (prettyItems (level + 1) items)
  | .object members => bracketed '{' '}' level (prettyMembers (level + 1) members)
  | j => chars j

def prettyItems (level : Nat) : List Json → List (List Char)
  | [] => []
  | item :: items => prettyChars level item :: prettyItems level items

def prettyMembers (level : Nat) : List (Option String × Json) → List (List Char)
  | [] => []
  | (name, value) :: members =>
    (escaped (name.getD "") ++ ':' :: ' ' :: prettyChars level value) :: prettyMembers level members

end

/-- The text of a tree over several lines. -/
def pretty (j : Json) : String := String.ofList (prettyChars 0 j)

end OnCall.Json
