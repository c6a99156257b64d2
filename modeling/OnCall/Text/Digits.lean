/-!
# Decimal digits

* `padded`: the decimal digits of a number, filled up with zeros to a width.
* `valueOf`: the number that some digits write (`valueOf_padded`).
* `takeDigits`: the digits that a text starts with, at most so many (`takeDigits_append`).
-/

namespace OnCall.Text

/-! ## 1. Writing -/

/-- The digits of `n`, with zeros in front up to `width` characters. -/
def padded (width n : Nat) : String :=
  let digits := Nat.toDigits 10 n
  String.ofList (List.replicate (width - digits.length) '0' ++ digits)

/-- A fraction of `width` decimal places, without the zeros at its end. -/
def shortFraction (width n : Nat) : List Char :=
  ((padded width n).toList.reverse.dropWhile (· == '0')).reverse

theorem toList_padded (width n : Nat) :
    (padded width n).toList =
      List.replicate (width - (Nat.toDigits 10 n).length) '0' ++ Nat.toDigits 10 n := by
  simp [padded]

theorem isDigit_of_mem_padded {width n : Nat} {c : Char} (h : c ∈ (padded width n).toList) :
    c.isDigit = true := by
  rw [toList_padded, List.mem_append, List.mem_replicate] at h
  rcases h with ⟨_, rfl⟩ | h
  · rfl
  · exact Nat.isDigit_of_mem_toDigits (by decide) (by decide) h

theorem padded_ne_nil (width n : Nat) : (padded width n).toList ≠ [] := by
  simp [toList_padded]

theorem padded_eq_cons (width n : Nat) :
    ∃ c cs, (padded width n).toList = c :: cs ∧ c.isDigit = true := by
  cases h : (padded width n).toList with
  | nil => exact absurd h (padded_ne_nil width n)
  | cons c cs => exact ⟨c, cs, rfl, isDigit_of_mem_padded (by rw [h]; exact List.mem_cons_self)⟩

/-- A number that is small enough fills the width exactly. -/
theorem length_padded {width n : Nat} (hw : 0 < width) (hn : n < Nat.pow 10 width) :
    (padded width n).toList.length = width := by
  have h := (Nat.length_toDigits_le_iff (b := 10) (by decide) hw).mpr hn
  rw [toList_padded, List.length_append, List.length_replicate]
  omega

/-! ## 2. Reading -/

/-- The number that some digits write, the most significant first. -/
def valueOf (digits : List Char) : Nat := Nat.ofDigitChars 10 digits 0

/-- The digits of a number write it, with zeros in front or not. -/
@[simp] theorem valueOf_padded (width n : Nat) : valueOf (padded width n).toList = n := by
  rw [valueOf, toList_padded, Nat.ofDigitChars_append, Nat.ofDigitChars_replicate_zero,
    Nat.mul_zero, Nat.ofDigitChars_ten_toDigits]

/-- Read one to `most` digits at the start of a text. -/
def takeDigits (most : Nat) (cs : List Char) : Option (List Char × List Char) :=
  let digits := (cs.take most).takeWhile Char.isDigit
  if digits.isEmpty then none else some (digits, cs.drop digits.length)

/-- Digits are read up to what follows them, unless they are too many or more digits follow. -/
theorem takeDigits_append {most : Nat} {digits rest : List Char} (hne : digits ≠ [])
    (hd : ∀ c ∈ digits, c.isDigit = true) (hlen : digits.length ≤ most)
    (hrest : digits.length = most ∨ rest.takeWhile Char.isDigit = []) :
    takeDigits most (digits ++ rest) = some (digits, rest) := by
  have h : ((digits ++ rest).take most).takeWhile Char.isDigit = digits := by
    rw [List.take_append, List.take_of_length_le hlen, List.takeWhile_append_of_pos hd]
    rcases hrest with rfl | hrest
    · simp
    · cases rest with
      | nil => simp
      | cons c rest =>
        have hc : c.isDigit = false := by
          cases h : c.isDigit with
          | false => rfl
          | true => simp [h] at hrest
        cases most - digits.length <;> simp [hc]
  simp [takeDigits, h, hne]

end OnCall.Text
