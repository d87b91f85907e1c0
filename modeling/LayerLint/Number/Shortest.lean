import LayerLint.Number.Double

/-!
# Decimal texts of numbers

A number is written with the fewest digits that read back as the same number; of two such texts the
nearer one is taken. Numbers of usual size are written in full and keep one digit behind the point,
the others have an exponent. A second form has a fixed number of places behind the point.
-/

namespace LayerLint
namespace Number

/-- The spelling of the values that are not finite. -/
structure Spelling where
  nan : String
  infinity : String

/-- Significant digits and the place of the point: the value is `0.digits` times ten to `point`. -/
structure Digits where
  digits : Nat
  point : Int
  deriving DecidableEq

/-- How many times a quotient below one can be multiplied by ten before it reaches one, counted up
to a limit. -/
def leadingZeros : Nat → Nat → Nat → Nat
  | 0, _, _ => 0
  | limit + 1, num, den => if den ≤ 10 * num then 0 else leadingZeros limit (10 * num) den + 1

/-- The place of the point in a positive quotient. -/
def pointOf (num den : Nat) : Int :=
  if den ≤ num then (Nat.toDigits 10 (num / den)).length else -(leadingZeros 400 num den : Int)

/-- Two sides of a comparison with a power of ten on the left, without a negative power. -/
def scaleTen (left right : Nat) (power : Int) : Nat × Nat :=
  if 0 ≤ power then (left * Nat.pow 10 power.toNat, right)
  else (left, right * Nat.pow 10 (-power).toNat)

/-- The numbers around a double, as multiples of `factor / den`. All reals strictly between `low` and
`high` round to it, and the ends do when the mantissa is even. -/
structure Neighbourhood where
  low : Nat
  middle : Nat
  high : Nat
  den : Nat
  closed : Bool

/-- The neighbourhood of a positive double. Below a power of two the next number is nearer. -/
def Neighbourhood.of (mantissa : Nat) (exponent : Int) : Neighbourhood :=
  let isPower := mantissa = Nat.pow 2 (precision - 1) ∧ minExponent < exponent
  let factor := if 2 ≤ exponent then Nat.pow 2 (exponent - 2).toNat else 1
  { low := (if isPower then 4 * mantissa - 1 else 4 * mantissa - 2) * factor
    middle := 4 * mantissa * factor
    high := (4 * mantissa + 2) * factor
    den := if 2 ≤ exponent then 1 else Nat.pow 2 (2 - exponent).toNat
    closed := mantissa % 2 = 0 }

/-- Whether a whole number times a power of ten rounds to the double. -/
def Neighbourhood.has (around : Neighbourhood) (candidate : Nat) (power : Int) : Bool :=
  let low := scaleTen (candidate * around.den) around.low power
  let high := scaleTen (candidate * around.den) around.high power
  if around.closed then low.2 ≤ low.1 && high.1 ≤ high.2 else low.2 < low.1 && high.1 < high.2

/-- The nearer of the two multiples of a power of ten around the double, if one of them rounds to it. -/
def Neighbourhood.nearest? (around : Neighbourhood) (power : Int) : Option Nat :=
  let sides := scaleTen around.den around.middle power
  let below := sides.2 / sides.1
  let rest := sides.2 % sides.1
  match around.has below power, around.has (below + 1) power with
  | true, true =>
      some (if 2 * rest < sides.1 ∨ (2 * rest = sides.1 ∧ below % 2 = 0) then below else below + 1)
  | true, false => some below
  | false, true => some (below + 1)
  | false, false => none

/-- Try ever more digits until a decimal rounds to the double. -/
def searchDigits (around : Neighbourhood) (point : Int) : Nat → Nat → Digits
  | 0, count => ⟨0, count⟩
  | limit + 1, count =>
      match around.nearest? (point - count) with
      | some digits => ⟨digits, point + ((Nat.toDigits 10 digits).length - count : Int)⟩
      | none => searchDigits around point limit (count + 1)

/-- The fewest digits that read back as a positive double. -/
def shortest (mantissa : Nat) (exponent : Int) : Digits :=
  let around := Neighbourhood.of mantissa exponent
  searchDigits around (pointOf around.middle around.den) 20 1

/-- Decimal digits without trailing zeros. -/
def trimZeros (digits : List Char) : List Char :=
  (digits.reverse.dropWhile (· == '0')).reverse

/-- Digits written in full, with at least one digit on each side of the point. -/
def positional (digits : List Char) (point : Int) : List Char :=
  if point ≤ 0 then '0' :: '.' :: (List.replicate (-point).toNat '0' ++ digits)
  else
    let whole := point.toNat
    if digits.length ≤ whole then
      digits ++ List.replicate (whole - digits.length) '0' ++ ['.', '0']
    else digits.take whole ++ '.' :: digits.drop whole

/-- Digits written with an exponent, which has a sign and at least two digits. -/
def scientific (digits : List Char) (point : Int) : List Char :=
  let power := point - 1
  let size := Nat.toDigits 10 power.natAbs
  let head := match digits with
    | [] => []
    | [first] => [first]
    | first :: rest => first :: '.' :: rest
  head ++ 'e' :: (if power < 0 then '-' else '+') :: (List.replicate (2 - size.length) '0' ++ size)

/-- Numbers from a ten-thousandth to below ten to the sixteenth are written in full. -/
def isPositional (point : Int) : Bool :=
  -4 < point && point ≤ 16

/-- The sign of a number. -/
def signChars (negative : Bool) : List Char :=
  if negative then ['-'] else []

/-- The text of a number with the fewest digits that read back. -/
def Double.render (spelling : Spelling) : Double → String
  | .nan => spelling.nan
  | .infinite negative => String.ofList (signChars negative) ++ spelling.infinity
  | .finite negative 0 _ => String.ofList (signChars negative ++ ['0', '.', '0'])
  | .finite negative mantissa exponent =>
      let result := shortest mantissa exponent
      let digits := trimZeros (Nat.toDigits 10 result.digits)
      let text := if isPositional result.point then positional digits result.point
        else scientific digits result.point
      String.ofList (signChars negative ++ text)

/-- The text of a number with one place behind the point, a half to the even neighbour. -/
def Double.renderTenths (spelling : Spelling) : Double → String
  | .nan => spelling.nan
  | .infinite negative => String.ofList (signChars negative) ++ spelling.infinity
  | .finite negative mantissa exponent =>
      let magnitude := Double.ratio mantissa exponent
      let tenths := roundDiv (magnitude.1 * 10) magnitude.2
      String.ofList (signChars negative ++ Nat.toDigits 10 (tenths / 10) ++
        '.' :: Nat.toDigits 10 (tenths % 10))

end Number
end LayerLint
