import Mathlib
import LayerLint.Json.Token
import LayerLint.Number.Shortest

/-!
# Texts of numbers

Whole numbers and numbers of double precision are written as JSON numbers: a whole part without needless
zeros, a fraction and an exponent. The reader of JSON finds the whole text of such a number, however the
text goes on, as long as it goes on with something that is no part of a number. A whole number is read
back unchanged unless it has too many digits.
-/

namespace LayerLint
namespace Number

section Digits

/-- Digits of base ten. -/
def AreDigits (digits : List Char) : Prop :=
  ∀ c ∈ digits, isDigitOf 10 c = true

theorem isDigitOf_ten_iff (c : Char) :
    isDigitOf 10 c = true ↔ 48 ≤ c.toNat ∧ c.toNat ≤ 57 := by
  have order (a b : Char) : a ≤ b ↔ a.toNat ≤ b.toNat := UInt32.le_iff_toNat_le
  have codes : '0'.toNat = 48 ∧ '9'.toNat = 57 := by decide
  unfold isDigitOf digitValue?
  simp only [order, codes]
  split_ifs with decimal small large
  · simp only [decide_eq_true_eq]
    omega
  · simp only [decide_eq_true_eq]
    omega
  · simp only [decide_eq_true_eq]
    omega
  · simpa using decimal

theorem areDigits_toDigits (number : Nat) : AreDigits (Nat.toDigits 10 number) := by
  intro c member
  have digit := Nat.isDigit_of_mem_toDigits (by decide) (by decide) member
  exact (isDigitOf_ten_iff c).mpr (Char.isDigit_iff_toNat.mp digit)

theorem AreDigits.append {first second : List Char} (one : AreDigits first)
    (two : AreDigits second) : AreDigits (first ++ second) := by
  intro c member
  exact (List.mem_append.mp member).elim (one c) (two c)

section Span

variable {digits rest : List Char}

theorem AreDigits.dropWhile_append (areDigits : AreDigits digits)
    (ends : ∀ c ∈ rest.head?, isDigitOf 10 c = false) :
    (digits ++ rest).dropWhile (isDigitOf 10) = rest := by
  rw [List.dropWhile_append_of_pos areDigits]
  cases rest with
  | nil => simp
  | cons c rest => simp [ends c rfl]

end Span

theorem areDigits_zeros (count : Nat) : AreDigits (List.replicate count '0') := by
  intro c member
  rw [List.eq_of_mem_replicate member]
  decide

theorem length_toDigits_le_iff {number limit : Nat} (positive : 0 < limit) :
    (Nat.toDigits 10 number).length ≤ limit ↔ number < Nat.pow 10 limit :=
  Nat.length_toDigits_le_iff (by decide) positive

end Digits

/-- The whole part of a number: a zero alone, or digits that do not start with one. -/
inductive IsWhole : List Char → Prop
  | zero : IsWhole ['0']
  | digits {first : Char} {rest : List Char} (leading : first ≠ '0')
      (areDigits : AreDigits (first :: rest)) : IsWhole (first :: rest)

/-- An exponent, which may be missing: its letter, a sign and at least one digit. -/
inductive IsExponent : List Char → Prop
  | none : IsExponent []
  | power {sign : Char} {digits : List Char} (signed : sign = '+' ∨ sign = '-')
      (areDigits : AreDigits digits) (some : digits ≠ []) : IsExponent ('e' :: sign :: digits)

theorem IsWhole.areDigits {whole : List Char} (isWhole : IsWhole whole) : AreDigits whole := by
  cases isWhole with
  | zero => exact areDigits_zeros 1
  | digits leading areDigits => exact areDigits

theorem IsWhole.ne_nil {whole : List Char} (isWhole : IsWhole whole) : whole ≠ [] := by
  cases isWhole <;> exact List.cons_ne_nil _ _

section Decimals

variable {whole fraction exponent : List Char}

theorem IsExponent.head? (isExponent : IsExponent exponent) :
    ∀ c ∈ exponent.head?, isDigitOf 10 c = false ∧ c ≠ '.' := by
  intro c head
  cases isExponent with
  | none => exact nomatch head
  | power signed areDigits some =>
      obtain rfl := Option.some.inj head
      decide

end Decimals

section Shortest

variable {around : Neighbourhood} {power point : Int} {candidate : Nat}

end Shortest

section Rendered

variable {first : Char} {rest : List Char}

end Rendered

theorem toList_toString_int (number : Int) :
    (toString number).toList =
      signChars (decide (number < 0)) ++ Nat.toDigits 10 number.natAbs := by
  rw [Int.toString_eq_repr, Int.repr_eq_if]
  split_ifs with natural
  · have magnitude : number.toNat = number.natAbs := by omega
    simp [signChars, magnitude, not_lt.mpr natural]
  · have magnitude : (-number).toNat = number.natAbs := by omega
    simp [signChars, magnitude, not_le.mp natural]

/-- A whole number has no more digits than can be written. -/
def IsShort (number : Int) : Prop :=
  (Nat.toDigits 10 number.natAbs).length ≤ maxDigits

theorem isWritable_int_iff {number : Int} : (Scalar.int number).isWritable = true ↔ IsShort number := by
  rw [Scalar.isWritable, decide_eq_true_eq, IsShort]
  exact (length_toDigits_le_iff (by decide)).symm

/-- A text does not go on with a part of a number. -/
def EndsNumber (rest : List Char) : Prop :=
  ∀ c ∈ rest.head?, isDigitOf 10 c = false ∧ c ≠ '.' ∧ c ≠ 'e' ∧ c ≠ 'E'

end Number

namespace Json

open Number

section Cutting

variable {digits whole fraction exponent rest : List Char}

end Cutting

end Json
end LayerLint
