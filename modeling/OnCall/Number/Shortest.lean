import OnCall.Number.Binary64

/-!
# The fewest digits of a double precision number

* `Decimal`: digits times a power of ten.
* `Binary64.shortest`: a decimal with as few digits as the number needs to be read back; of two
  such decimals the nearer one, and on a tie the even one.
-/

namespace OnCall

/-- A whole number times a power of ten. -/
structure Decimal where
  digits : Nat
  power : Int
deriving DecidableEq

/-- The same decimal without a zero at its end. -/
def Decimal.reduced (d : Decimal) : Decimal :=
  if d.digits % 10 = 0 then ⟨d.digits / 10, d.power + 1⟩ else d

namespace Binary64

/-- The number nearest to a decimal. -/
def ofDecimal (d : Decimal) : Binary64 :=
  if 0 ≤ d.power then round (d.digits * Nat.pow 10 d.power.natAbs * one) 1
  else round (d.digits * one) (Nat.pow 10 d.power.natAbs)

/-- The power of ten that comes next above a number that is not zero. Every such number is at least
ten to the power of minus 400. -/
def decimalPlace (x : Binary64) : Int :=
  (Nat.toDigits 10 (x.scaled * Nat.pow 10 400 / one)).length - 400

/-- A number as a quotient, in units of a power of ten. -/
def inPowers (x : Binary64) (power : Int) : Nat × Nat :=
  if 0 ≤ power then (x.scaled, one * Nat.pow 10 power.natAbs)
  else (x.scaled * Nat.pow 10 power.natAbs, one)

/-- The one of two decimals that is read back as a number; if both are, the preferred one. -/
def readBack? (x : Binary64) (preferred other : Decimal) : Option Decimal :=
  if ofDecimal preferred = x then some preferred
  else if ofDecimal other = x then some other
  else none

/-- A decimal of so many digits that is read back as the number: the nearer one of the two next
to it, if there is a choice, and the even one if none is nearer. -/
def withDigits? (x : Binary64) (count : Nat) : Option Decimal :=
  let power := x.decimalPlace - count
  let (a, d) := x.inPowers power
  if d < 2 * (a % d) + a / d % 2 then x.readBack? ⟨a / d + 1, power⟩ ⟨a / d, power⟩
  else x.readBack? ⟨a / d, power⟩ ⟨a / d + 1, power⟩

/-- The decimal of the fewest digits that is read back as the number; 17 digits are enough. A
decimal of one digit may be ten units, which is reduced. -/
def shortest (x : Binary64) : Decimal :=
  (((List.range 17).findSome? fun n => x.withDigits? (n + 1)).getD ⟨0, 0⟩).reduced

end Binary64

end OnCall
