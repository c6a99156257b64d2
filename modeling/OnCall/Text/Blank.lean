/-!
# Blank characters, trimming and lines

* `isBlank`: the characters with the property White_Space.
* `trimStart`, `trim`: a text without the blanks at its ends.
* `lines`: the lines of a text, ended by a line feed that a carriage return may precede.
-/

namespace OnCall.Text

/-- The characters with the property White_Space. -/
def isBlank (c : Char) : Bool :=
  let n := c.toNat
  (9 ≤ n && n ≤ 13) || n == 0x20 || n == 0x85 || n == 0xA0 || n == 0x1680 ||
    (0x2000 ≤ n && n ≤ 0x200A) || n == 0x2028 || n == 0x2029 || n == 0x202F || n == 0x205F ||
    n == 0x3000

/-- A digit is no blank. -/
theorem isBlank_of_isDigit {c : Char} (h : c.isDigit = true) : isBlank c = false := by
  simp only [Char.isDigit, Bool.and_eq_true, decide_eq_true_eq, UInt32.le_iff_toNat_le] at h
  have h₁ : 48 ≤ c.toNat := h.1
  have h₂ : c.toNat ≤ 57 := h.2
  simp [isBlank]
  omega

/-- A text without the blanks at its start. -/
def trimStart (cs : List Char) : List Char :=
  cs.dropWhile isBlank

theorem trimStart_cons {c : Char} {cs : List Char} (h : isBlank c = false) :
    trimStart (c :: cs) = c :: cs := by
  simp [trimStart, h]

/-- A text without the blanks at its two ends. -/
def trim (cs : List Char) : List Char :=
  (trimStart (trimStart cs).reverse).reverse

/-- `trim` on strings. -/
def trimmed (s : String) : String :=
  String.ofList (trim s.toList)

/-- One line without the carriage return that stands before its line feed. -/
def withoutReturn (line : List Char) : List Char :=
  if line.getLast? = some '\r' then line.dropLast else line

/-- The pieces of a text between line feeds, the last one as it stands: together with the feeds
they are the text. -/
def pieces : List Char → List Char × List (List Char)
  | [] => ([], [])
  | c :: cs =>
    let (first, others) := pieces cs
    if c = '\n' then ([], first :: others) else (c :: first, others)

/-- The lines of a text. A line ends with a line feed, before which a carriage return is dropped;
what follows the last feed is a line only if it is not empty, and is kept as it stands. -/
def lines (text : List Char) : List (List Char) :=
  let (first, others) := pieces text
  match (first :: others).reverse with
  | [] => []
  | last :: ended =>
    (ended.reverse.map withoutReturn) ++ (if last.isEmpty then [] else [last])

end OnCall.Text
