import OnCall.Json.Basic

/-!
# Writing JSON

* `Json.write`: the text of a tree, without blanks.
* `escaped`: a string in quotes. Quotes, backslashes and control characters are escaped, and
  nothing else.
-/

namespace OnCall.Json

/-- A hexadecimal digit, in lower case. -/
def hexDigit (n : Nat) : Char :=
  if n < 10 then Char.ofNat ('0'.toNat + n) else Char.ofNat ('a'.toNat + (n - 10))

/-- One character inside a string. -/
def escapedChar (c : Char) : List Char :=
  if c = '"' then ['\\', '"']
  else if c = '\\' then ['\\', '\\']
  else if c = '\x08' then ['\\', 'b']
  else if c = '\x0c' then ['\\', 'f']
  else if c = '\n' then ['\\', 'n']
  else if c = '\r' then ['\\', 'r']
  else if c = '\t' then ['\\', 't']
  else if c.toNat < 0x20 then
    ['\\', 'u', '0', '0', hexDigit (c.toNat / 16), hexDigit (c.toNat % 16)]
  else [c]

/-- A string in quotes. -/
def escaped (s : String) : List Char :=
  '"' :: s.toList.flatMap escapedChar ++ ['"']

/-- Join the texts of the items of an array or the members of an object with commas. -/
def joinedWithCommas : List (List Char) → List Char
  | [] => []
  | [item] => item
  | item :: items => item ++ ',' :: joinedWithCommas items

mutual

/-- The characters of a tree. A string that cannot be read is written as an empty one. -/
def chars : Json → List Char
  | .null => ['n', 'u', 'l', 'l']
  | .bool true => ['t', 'r', 'u', 'e']
  | .bool false => ['f', 'a', 'l', 's', 'e']
  | .number n => n.write
  | .string s => escaped (s.getD "")
  | .array items => '[' :: joinedWithCommas (itemChars items) ++ [']']
  | .object members => '{' :: joinedWithCommas (memberChars members) ++ ['}']

/-- The characters of each item. -/
def itemChars : List Json → List (List Char)
  | [] => []
  | item :: items => chars item :: itemChars items

/-- The characters of each member: its name, a colon and its value. -/
def memberChars : List (Option String × Json) → List (List Char)
  | [] => []
  | (name, value) :: members =>
    (escaped (name.getD "") ++ ':' :: chars value) :: memberChars members

end

/-- The text of a tree. -/
def write (j : Json) : String := String.ofList (chars j)

end OnCall.Json
