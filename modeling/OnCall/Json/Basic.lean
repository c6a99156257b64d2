import OnCall.Text.Digits

/-!
# JSON texts as trees

The tree keeps what a reader may still have to decide: a number as it is written, and a string that
names half of a surrogate pair, which can be passed over but not read.

* `Numeral`: a number as it is written; `Numeral.ofNat` writes one.
* `Json`: the tree. Objects keep their members in order, repeated names included.
-/

namespace OnCall

/-- A number as written: sign, whole digits, decimals (none without a point), and the exponent's
sign and digits. -/
structure Numeral where
  negative : Bool
  whole : List Char
  decimals : List Char
  exponent : Option (Bool × List Char)
deriving DecidableEq

namespace Numeral

/-- The decimal digits of a number. -/
def ofNat (n : Nat) : Numeral := ⟨false, Nat.toDigits 10 n, [], none⟩

/-- The decimal digits of a number, with a minus if it is negative. -/
def ofInt (n : Int) : Numeral := ⟨decide (n < 0), Nat.toDigits 10 n.natAbs, [], none⟩

/-- The number, if it is written as a whole number: without point, exponent or sign. -/
def nat? (n : Numeral) : Option Nat :=
  if n.negative = false ∧ n.decimals = [] ∧ n.exponent = none
  then some (Text.valueOf n.whole) else none

/-- The text of the decimals, with the point in front. -/
def decimalText (digits : List Char) : List Char :=
  if digits.isEmpty then [] else '.' :: digits

/-- The text of an exponent, always with a sign. -/
def exponentText : Option (Bool × List Char) → List Char
  | none => []
  | some (negative, digits) => 'e' :: (if negative then '-' else '+') :: digits

/-- The text of a number. -/
def write (n : Numeral) : List Char :=
  (if n.negative then ['-'] else []) ++
    (n.whole ++ (decimalText n.decimals ++ exponentText n.exponent))

end Numeral

/-- A JSON text. A string or name that is `none` has an escape for half of a surrogate pair. -/
inductive Json where
  | null
  | bool (value : Bool)
  | number (value : Numeral)
  | string (value : Option String)
  | array (items : List Json)
  | object (members : List (Option String × Json))

namespace Json

/-- The string of a text. -/
def text (s : String) : Json := .string (some s)

/-- The number of a natural number. -/
def nat (n : Nat) : Json := .number (.ofNat n)

/-- A text that may be absent: null stands for its absence. -/
def text? : Option String → Json
  | none => .null
  | some s => text s

/-- The object with these members. -/
def record (members : List (String × Json)) : Json :=
  .object (members.map fun (name, value) => (some name, value))

/-- The array of these texts. -/
def texts (items : List String) : Json := .array (items.map text)

end Json

end OnCall
