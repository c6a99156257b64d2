import OnCall.Json.Basic
import OnCall.Number.Shortest

/-!
# The quantity that a number in JSON stands for

A number written as a whole number that fits 64 bits is taken exactly. Any other number is taken in
double precision, from as many of its digits as fit a word of 64 bits, times a power of ten.

* `Quantity`: an exact whole number or a number of double precision.
* `Numeral.quantity?`: the quantity of a number, unless it is too large.
* `Quantity.numeral`: a number in this quantity, with the fewest digits.
-/

namespace OnCall

/-- What a number stands for. -/
inductive Quantity where
  | whole (value : Int)
  | real (negative : Bool) (size : Binary64)
deriving DecidableEq

namespace Numeral

/-- Append digits to a significand while it fits 64 bits; the digits that are left over are
counted. -/
def gather (significand : Nat) : List Char → Nat × Nat
  | [] => (significand, 0)
  | c :: cs =>
    let next := significand * 10 + (c.toNat - '0'.toNat)
    if next < UInt64.size then gather next cs else (significand, cs.length + 1)

/-- A power of ten, rounded. -/
def tenPower (k : Nat) : Binary64 := .ofNat (Nat.pow 10 k)

/-- A significand divided by a power of ten. Beyond the largest power that has double precision it
is divided twice, and beyond its square nothing is left. -/
def scaleDown (x : Binary64) (k : Nat) : Binary64 :=
  if k ≤ 308 then x.div (tenPower k)
  else if k ≤ 616 then (x.div (tenPower 308)).div (tenPower (k - 308))
  else .zero

/-- A significand times a power of ten, unless it is too large. -/
def scaled? (significand : Nat) (exponent : Int) : Option Binary64 :=
  let x := Binary64.ofNat significand
  if exponent < 0 then some (scaleDown x exponent.natAbs)
  else if exponent ≤ 308 then
    let y := x.mul (tenPower exponent.natAbs)
    if y.isFinite then some y else none
  else if significand = 0 then some .zero
  else none

/-- The exponent that is written, nothing if it does not fit a word of 32 bits with sign. -/
def writtenExponent : Option (Bool × List Char) → Option Int
  | none => some 0
  | some (negative, digits) =>
    let e := Text.valueOf digits
    if e < UInt32.size / 2 then some (if negative then -e else e) else none

/-- The quantity of a number written as a whole number that fits 64 bits. Zero with a minus is
no whole number. -/
def integer? (n : Numeral) : Option Int :=
  if n.decimals = [] ∧ n.exponent = none then
    let v := Text.valueOf n.whole
    if n.negative then (if 0 < v ∧ v ≤ UInt64.size / 2 then some (-v) else none)
    else if v < UInt64.size then some v else none
  else none

/-- The quantity of a number. -/
def quantity? (n : Numeral) : Option Quantity :=
  match n.integer? with
  | some v => some (.whole v)
  | none =>
    let (whole, skipped) := gather 0 n.whole
    let (significand, unread) := gather whole n.decimals
    let places : Int := skipped - (n.decimals.length - unread : Nat)
    match writtenExponent n.exponent with
    | some e => (scaled? significand (places + e)).map (.real n.negative)
    | none =>
      if significand = 0 ∨ n.exponent.any (·.1) then some (.real n.negative .zero) else none

end Numeral

/-- The digits of a decimal as a number: with a point as long as it stands not far from the digits,
else with one digit before the point and an exponent. -/
def Decimal.numeral (negative : Bool) (d : Decimal) : Numeral :=
  let digits := Nat.toDigits 10 d.digits
  let place := digits.length + d.power
  if 0 < place ∧ place ≤ 16 then
    if 0 ≤ d.power then ⟨negative, digits ++ List.replicate d.power.natAbs '0', ['0'], none⟩
    else ⟨negative, digits.take place.natAbs, digits.drop place.natAbs, none⟩
  else if -5 < place ∧ place ≤ 0 then
    ⟨negative, ['0'], List.replicate place.natAbs '0' ++ digits, none⟩
  else
    ⟨negative, digits.take 1, digits.drop 1,
      some (decide (place < 1), Nat.toDigits 10 (place - 1).natAbs)⟩

namespace Quantity

/-- The number that stands for a quantity. A real quantity is written with a point or an exponent,
so that it is read back as a real one. -/
def numeral : Quantity → Numeral
  | whole v => .ofInt v
  | real negative x =>
    if x = .zero then ⟨negative, ['0'], ['0'], none⟩ else x.shortest.numeral negative

end Quantity

end OnCall
