/-!
# Text out of bytes

Tools write bytes, and not every byte string is text. What cannot be a character is replaced.

* `Utf8.decode`: the characters of a byte string. Where bytes start a character that is never
  finished, all of them together give one replacement character; any other byte that is part of no
  character gives one of its own.
-/

namespace OnCall.Text.Utf8

/-- The character that stands for bytes that are none. -/
def replacement : Char := '\uFFFD'

/-- A character that has begun: its bits so far, the bytes to come after the next one, and the
range of the next byte. -/
structure Begun where
  bits : Nat
  later : Nat
  low : Nat
  high : Nat

/-- What a byte is where a character may start: a whole character, the beginning of one, or
neither. -/
inductive Lead where
  | whole (c : Char)
  | begun (b : Begun)
  | stray

/-- A first byte. The range of the second byte leaves out what has a shorter form, the surrogates
and what lies above the last character. -/
def lead (byte : UInt8) : Lead :=
  let n := byte.toNat
  if n < 0x80 then .whole (Char.ofNat n)
  else if n < 0xC2 then .stray
  else if n < 0xE0 then .begun ⟨n - 0xC0, 0, 0x80, 0xBF⟩
  else if n = 0xE0 then .begun ⟨0, 1, 0xA0, 0xBF⟩
  else if n = 0xED then .begun ⟨0xD, 1, 0x80, 0x9F⟩
  else if n < 0xF0 then .begun ⟨n - 0xE0, 1, 0x80, 0xBF⟩
  else if n = 0xF0 then .begun ⟨0, 2, 0x90, 0xBF⟩
  else if n < 0xF4 then .begun ⟨n - 0xF0, 2, 0x80, 0xBF⟩
  else if n = 0xF4 then .begun ⟨4, 2, 0x80, 0x8F⟩
  else .stray

/-- One byte between characters: what it adds to the text, and what it begins. -/
def start (byte : UInt8) : List Char × Option Begun :=
  match lead byte with
  | .whole c => ([c], none)
  | .begun b => ([], some b)
  | .stray => ([replacement], none)

/-- One byte: what it adds to the text, and what has begun after it. -/
def step : Option Begun → UInt8 → List Char × Option Begun
  | none, byte => start byte
  | some b, byte =>
    let n := byte.toNat
    if b.low ≤ n ∧ n ≤ b.high then
      let bits := b.bits * 64 + (n - 0x80)
      match b.later with
      | 0 => ([Char.ofNat bits], none)
      | later + 1 => ([], some ⟨bits, later, 0x80, 0xBF⟩)
    else
      let (cs, begun) := start byte
      (replacement :: cs, begun)

/-- The characters of the bytes that follow what has begun. -/
def decodeFrom : Option Begun → List UInt8 → List Char
  | none, [] => []
  | some _, [] => [replacement]
  | begun, byte :: bytes =>
    let (cs, begun) := step begun byte
    cs ++ decodeFrom begun bytes

/-- The text of a byte string. -/
def decode (bytes : List UInt8) : String := String.ofList (decodeFrom none bytes)

end OnCall.Text.Utf8
