import LayerLint.Number.Double

/-!
# Reading of numbers

Decimal fractions with an optional exponent, and whole numbers in several bases. Whole numbers in
base ten have a bounded number of digits.
-/

namespace LayerLint
namespace Number

/-- The value of a digit in any base up to sixteen. -/
def digitValue? (c : Char) : Option Nat :=
  if '0' ≤ c ∧ c ≤ '9' then some (c.toNat - '0'.toNat)
  else if 'a' ≤ c ∧ c ≤ 'f' then some (c.toNat - 'a'.toNat + 10)
  else if 'A' ≤ c ∧ c ≤ 'F' then some (c.toNat - 'A'.toNat + 10)
  else none

/-- Whether a character is a digit of a base. -/
def isDigitOf (base : Nat) (c : Char) : Bool :=
  match digitValue? c with
  | some value => value < base
  | none => false

/-- The whole number that a list of digits of a base stands for. -/
def ofDigits (base : Nat) (digits : List Char) : Nat :=
  digits.foldl (fun total c => total * base + (digitValue? c).getD 0) 0

/-- A non-empty list of digits of a base. -/
def whole? (base : Nat) (digits : List Char) : Option Nat :=
  if digits.isEmpty || !digits.all (isDigitOf base) then none else some (ofDigits base digits)

/-- Cut an optional sign off the front of a text. -/
def cutSign : List Char → Bool × List Char
  | '-' :: rest => (true, rest)
  | '+' :: rest => (false, rest)
  | text => (false, text)

/-- The largest number of decimal digits that a whole number may be read from or written with. -/
def maxDigits : Nat := 4300

/-- A whole number with its sign. -/
def signed (negative : Bool) (magnitude : Nat) : Int :=
  if negative then -(magnitude : Int) else magnitude

/-- The exponent behind a fraction; an empty text has the exponent zero. -/
def exponent? : List Char → Option Int
  | [] => some 0
  | mark :: rest =>
      if mark = 'e' ∨ mark = 'E' then
        let (negative, digits) := cutSign rest
        (whole? 10 digits).map (signed negative)
      else none

/-- A decimal fraction without a sign: digits with an optional point, then an optional exponent. -/
def decimal? (negative : Bool) (text : List Char) : Option Double :=
  let whole := text.takeWhile (isDigitOf 10)
  let behind := text.dropWhile (isDigitOf 10)
  let (places, tail) := match behind with
    | '.' :: rest => (rest.takeWhile (isDigitOf 10), rest.dropWhile (isDigitOf 10))
    | _ => ([], behind)
  if whole.isEmpty && places.isEmpty then none
  else
    (exponent? tail).map fun power =>
      Double.ofDecimal negative (ofDigits 10 (whole ++ places)) (power - places.length)

end Number
end LayerLint
