/-!
# Double precision numbers

A number of double precision, zero or positive, is a whole multiple of 2^-1074 with at most 53
significant bits. It is held by that multiple, so arithmetic on it is arithmetic on natural numbers
followed by one rounding.

* `Binary64`: the number; `Binary64.round` is the nearest one to a quotient, a tie going to the
  even significand.
* `mul`, `div`, `ofNat`: the exact result, rounded.
* `whole`, `fraction`: the two parts of a number.
-/

namespace OnCall

/-- A number of double precision that is not negative. -/
structure Binary64 where
  /-- The number times 2^1074. -/
  scaled : Nat
deriving DecidableEq

namespace Binary64

/-- One, scaled. -/
def one : Nat := Nat.pow 2 1074

/-- The distance of neighbouring numbers around a number whose scaled value is `n`, scaled: all but
the first 53 bits are zero. -/
def unit (n : Nat) : Nat := Nat.pow 2 (n.log2 + 1 - 53)

/-- The multiple of `u` that is nearest to a quotient, as a count; a tie goes to the even one. -/
def nearest (a d u : Nat) : Nat :=
  let q := a / (d * u)
  let r := a % (d * u)
  if 2 * r < d * u then q
  else if d * u < 2 * r then q + 1
  else q + q % 2

/-- The number nearest to the quotient of two scaled values. -/
def round (a d : Nat) : Binary64 :=
  let u := unit (a / d)
  ⟨nearest a d u * u⟩

/-- Whether the number is one that can be held: it lies below 2^1024. -/
def isFinite (x : Binary64) : Bool := x.scaled < Nat.pow 2 1024 * one

def zero : Binary64 := ⟨0⟩

def ofNat (n : Nat) : Binary64 := round (n * one) 1

def mul (x y : Binary64) : Binary64 := round (x.scaled * y.scaled) one

def div (x y : Binary64) : Binary64 := round (x.scaled * one) y.scaled

/-- The whole part. -/
def whole (x : Binary64) : Nat := x.scaled / one

/-- The part after the point. -/
def fraction (x : Binary64) : Binary64 := ⟨x.scaled % one⟩

end Binary64

end OnCall
