/-!
# Binary floating-point numbers

A finite number is a sign, a whole mantissa and a power of two. Decimal texts and quotients are
rounded to the nearest number of double precision, a half to the even neighbour.
-/

namespace LayerLint
namespace Number

/-- A number of double precision. A finite one is the mantissa times two to the exponent. -/
inductive Double
  | nan
  | infinite (negative : Bool)
  | finite (negative : Bool) (mantissa : Nat) (exponent : Int)
  deriving DecidableEq, Inhabited

/-- The smallest exponent. -/
def minExponent : Int := -1074

/-- The largest exponent. -/
def maxExponent : Int := 971

/-- The number of bits of a full mantissa. -/
def precision : Nat := 53

/-- The quotient of two numbers rounded to a whole number, a half to the even neighbour. -/
def roundDiv (num den : Nat) : Nat :=
  let quotient := num / den
  let rest := num % den
  if 2 * rest > den ∨ (2 * rest = den ∧ quotient % 2 = 1) then quotient + 1 else quotient

/-- A quotient divided by a power of two, as a numerator and a denominator. -/
def scaleDown (num den : Nat) (exponent : Int) : Nat × Nat :=
  if 0 ≤ exponent then (num, den * Nat.pow 2 exponent.toNat)
  else (num * Nat.pow 2 (-exponent).toNat, den)

/-- The exponent at which the mantissa of a positive quotient has full precision. -/
def exponentOf (num den : Nat) : Int :=
  let guess : Int := (Nat.log2 num : Int) - (Nat.log2 den : Int) - (precision : Int) + 1
  let scaled := scaleDown num den guess
  if scaled.1 < scaled.2 * Nat.pow 2 (precision - 1) then guess - 1 else guess

namespace Double

/-- Zero. -/
def zero : Double := .finite false 0 minExponent

/-- The number nearest to the quotient of two whole numbers. -/
def ofRatio (negative : Bool) (num den : Nat) : Double :=
  if num = 0 ∨ den = 0 then .finite negative 0 minExponent
  else
    let exponent := max (exponentOf num den) minExponent
    let scaled := scaleDown num den exponent
    let mantissa := roundDiv scaled.1 scaled.2
    let full := mantissa = Nat.pow 2 precision
    let mantissa := if full then Nat.pow 2 (precision - 1) else mantissa
    let exponent := if full then exponent + 1 else exponent
    if maxExponent < exponent then .infinite negative else .finite negative mantissa exponent

/-- The number nearest to a whole number times a power of ten. Far outside the range of double
precision the power is not computed. -/
def ofDecimal (negative : Bool) (digits : Nat) (power : Int) : Double :=
  let size : Int := (Nat.toDigits 10 digits).length + power
  if digits = 0 ∨ size < -400 then .finite negative 0 minExponent
  else if 400 < size then .infinite negative
  else if 0 ≤ power then ofRatio negative (digits * Nat.pow 10 power.toNat) 1
  else ofRatio negative digits (Nat.pow 10 (-power).toNat)

/-- The magnitude of a finite number as a quotient of whole numbers. -/
def ratio (mantissa : Nat) (exponent : Int) : Nat × Nat :=
  if 0 ≤ exponent then (mantissa * Nat.pow 2 exponent.toNat, 1)
  else (mantissa, Nat.pow 2 (-exponent).toNat)

/-- A number divided by a positive whole number. -/
def divNat (number : Double) (divisor : Nat) : Double :=
  match number with
  | .finite negative mantissa exponent =>
      let magnitude := ratio mantissa exponent
      ofRatio negative magnitude.1 (magnitude.2 * divisor)
  | other => other

/-- The sign and the magnitude of a finite number as one fraction. -/
def fraction (negative : Bool) (mantissa : Nat) (exponent : Int) : Int × Nat :=
  let magnitude := ratio mantissa exponent
  (if negative then -(magnitude.1 : Int) else magnitude.1, magnitude.2)

/-- The sum of two numbers. -/
def add (first second : Double) : Double :=
  match first, second with
  | .nan, _ => .nan
  | _, .nan => .nan
  | .infinite left, .infinite right => if left = right then .infinite left else .nan
  | .infinite sign, _ => .infinite sign
  | _, .infinite sign => .infinite sign
  | .finite left mantissa exponent, .finite right mantissa' exponent' =>
      let one := fraction left mantissa exponent
      let two := fraction right mantissa' exponent'
      let num := one.1 * two.2 + two.1 * one.2
      ofRatio (if num = 0 then left && right else num < 0) num.natAbs (one.2 * two.2)

/-- The product of a number and a positive whole number, which is first rounded itself. -/
def mulNat (number : Double) (factor : Nat) : Double :=
  match number, ofRatio false factor 1 with
  | .nan, _ => .nan
  | .infinite sign, _ => .infinite sign
  | .finite sign _ _, .infinite _ => .infinite sign
  | .finite _ _ _, .nan => .nan
  | .finite sign mantissa exponent, .finite _ mantissa' exponent' =>
      let one := ratio mantissa exponent
      let two := ratio mantissa' exponent'
      ofRatio sign (one.1 * two.1) (one.2 * two.2)

/-- Whether a number equals a whole number. -/
def equalsInt (number : Double) (whole : Int) : Bool :=
  match number with
  | .finite negative mantissa exponent =>
      let magnitude := ratio mantissa exponent
      magnitude.1 == whole.natAbs * magnitude.2 &&
        (whole == 0 || negative == decide (whole < 0))
  | _ => false

/-- Equality as numbers: the two zeros are equal, and nothing equals a value that is no number. -/
def equals (first second : Double) : Bool :=
  match first, second with
  | .nan, _ => false
  | .finite _ 0 _, .finite _ 0 _ => true
  | _, _ => first == second

end Double
end Number
end LayerLint
