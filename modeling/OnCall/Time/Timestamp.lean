import OnCall.Text.Blank
import OnCall.Text.Digits
import OnCall.Time.Calendar
import OnCall.Time.Instant

/-!
# Timestamps

The text of a moment: date, `T`, time of day, the decimals of the second in groups of three as few
as are exact, and the offset, always zero. Years outside 0 to 9999 carry a sign.

* `Instant.write`: the timestamp of a moment, with the given text for the offset zero.
* `Instant.read?`: the moment of a timestamp. Reading is freer than writing: fields may have fewer
  digits, blanks may stand around the marks, and any offset is allowed.
-/

namespace OnCall.Instant

open Text

/-! ## 1. Writing -/

/-- The decimals of a second: none, three, six or nine. -/
def fraction (nano : Nat) : String :=
  if nano = 0 then ""
  else if nano % 1_000_000 = 0 then "." ++ padded 3 (nano / 1_000_000)
  else if nano % 1_000 = 0 then "." ++ padded 6 (nano / 1_000)
  else "." ++ padded 9 nano

/-- A year of at least four digits, with a sign if it lies outside 0 to 9999. -/
def yearText (year : Int) : String :=
  if 0 ≤ year ∧ year ≤ 9999 then padded 4 year.toNat
  else (if year < 0 then "-" else "+") ++ padded 4 year.natAbs

/-- The timestamp of a moment, with `offset` for the offset zero. -/
def write (offset : String) (t : Instant) : String :=
  let date := Date.ofDayNumber (t.second / 86_400)
  let clock := t.clock.toNat
  let leap := if t.isLeap then 1 else 0
  yearText date.year ++ "-" ++ padded 2 date.month ++ "-" ++ padded 2 date.day ++ "T" ++
    padded 2 (clock / 3600) ++ ":" ++ padded 2 (clock / 60 % 60) ++ ":" ++
    padded 2 (clock % 60 + leap) ++ fraction (t.nano - leap * nanosPerSecond) ++ offset

/-- The timestamp that ends with `Z`, as records are written. -/
def text (t : Instant) : String := t.write "Z"

/-- The timestamp that ends with `+00:00`, as requests carry it. -/
def offsetText (t : Instant) : String := t.write "+00:00"

/-! ## 2. Reading -/

/-- A field of one to `width` digits, blanks before it skipped. -/
def field (width : Nat) (cs : List Char) : Option (Nat × List Char) :=
  (takeDigits width (trimStart cs)).map fun (ds, rest) => (valueOf ds, rest)

/-- A year: one to four digits, or a sign and any number of digits. -/
def yearField (cs : List Char) : Option (Int × List Char) :=
  match trimStart cs with
  | '-' :: rest => (takeDigits rest.length rest).map fun (ds, rest) => (-(valueOf ds : Int), rest)
  | '+' :: rest => (takeDigits rest.length rest).map fun (ds, rest) => ((valueOf ds : Int), rest)
  | rest => (takeDigits 4 rest).map fun (ds, rest) => ((valueOf ds : Int), rest)

/-- A mark, blanks before it skipped. -/
def mark (c : Char) (cs : List Char) : Option (List Char) :=
  match trimStart cs with
  | d :: rest => if d = c then some rest else none
  | [] => none

/-- The decimals of a second, as nanoseconds; digits beyond the ninth are dropped. -/
def decimals : List Char → Option (Nat × List Char)
  | '.' :: rest =>
    (takeDigits 9 rest).map fun (ds, rest) =>
      (valueOf ds * Nat.pow 10 (9 - ds.length), rest.dropWhile Char.isDigit)
  | rest => some (0, rest)

/-- Two digits of an offset, the first at most `most`. -/
def twoDigits (most : Char) : List Char → Option (Nat × List Char)
  | a :: b :: rest =>
    if a.isDigit && b.isDigit && a ≤ most then some (valueOf [a, b], rest) else none
  | _ => none

/-- An offset in seconds: `Z`, `UTC`, or a sign, hours and minutes with colons and blanks between
them or not. -/
def offset (cs : List Char) : Option (Int × List Char) :=
  match trimStart cs with
  | 'Z' :: rest => some (0, rest)
  | 'z' :: rest => some (0, rest)
  | c :: rest =>
    if (String.ofList ((c :: rest).take 3)).toUpper = "UTC" then some (0, (c :: rest).drop 3)
    else do
      let sign : Int ← if c = '+' then some 1 else if c = '-' ∨ c = '−' then some (-1) else none
      let (hours, rest) ← twoDigits '9' rest
      let (minutes, rest) ← twoDigits '5' (rest.dropWhile fun c => c = ':' || isBlank c)
      some (sign * (hours * 3600 + minutes * 60), rest)
  | [] => none

/-- The moment of a timestamp. A second of 60 is a leap second, in any minute. -/
def read? (s : String) : Option Instant := do
  let (year, cs) ← yearField s.toList
  let (month, cs) ← mark '-' cs >>= field 2
  let (day, cs) ← mark '-' cs >>= field 2
  let cs ← match cs with
    | 'T' :: rest => some rest
    | 't' :: rest => some rest
    | ' ' :: rest => some rest
    | _ => none
  let (hour, cs) ← field 2 cs
  let (minute, cs) ← mark ':' cs >>= field 2
  let (second, cs) ← mark ':' cs >>= field 2
  let (nano, cs) ← decimals cs
  let (shift, cs) ← offset cs
  let date : Date := ⟨year, month, day⟩
  if (trimStart cs).isEmpty && -262_143 ≤ year && year ≤ 262_142 && date.exists? && hour ≤ 23 &&
      minute ≤ 59 && second ≤ 60 && shift.natAbs < 86_400 then
    let leap := if second = 60 then 1 else 0
    of? (date.dayNumber * 86_400 + (hour * 3600 + minute * 60 + (second - leap) : Nat) - shift)
      (nano + leap * nanosPerSecond)
  else none

end OnCall.Instant
