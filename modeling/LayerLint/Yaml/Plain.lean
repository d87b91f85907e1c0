import LayerLint.Number.Typed
import LayerLint.Value
import LayerLint.Yaml.Token

/-!
# Plain scalars

A scalar without quotes is a truth value, a number, a day or nothing if it is spelled like one, and
text otherwise. Numbers may be grouped by underscores, and whole numbers and fractions may be written
in parts of base sixty behind colons. What a text is spelled like and what its value is are two
questions: a text that is spelled like a number may have no value as a number.
-/

namespace LayerLint
namespace Yaml
namespace Plain

open Number (Double)

/-- The three spellings of a word: lower case, with a capital, and upper case. -/
def spellings (word : String) : List (List Char) :=
  let lower := word.toList
  let upper := lower.map Char.toUpper
  [lower, upper.take 1 ++ lower.drop 1, upper]

/-- Whether a text is one of the spellings of some words. -/
def isSpelled (words : List String) (text : List Char) : Bool :=
  words.any fun word => (spellings word).contains text

/-- Whether a text is spelled like nothing at all. -/
def isNull (text : List Char) : Bool :=
  text.isEmpty || text == ['~'] || isSpelled ["null"] text

/-- Whether a text is spelled like the truth. -/
def isTrue (text : List Char) : Bool :=
  isSpelled ["yes", "true", "on"] text

/-- Whether a text is spelled like the opposite of the truth. -/
def isFalse (text : List Char) : Bool :=
  isSpelled ["no", "false", "off"] text

/-- Whether a character is a digit of a base or groups digits. -/
def isGrouped (base : Nat) (c : Char) : Bool :=
  Number.isDigitOf base c || c == '_'

/-- A text without the characters that group digits. -/
def ungroup (text : List Char) : List Char :=
  text.filter fun c => c != '_'

/-- Whether a text begins with a digit and goes on with grouped digits. -/
def isGroupedNumber (text : List Char) : Bool :=
  text.head?.any (Number.isDigitOf 10) && text.all (isGrouped 10)

/-- Whether a text is a part of base sixty: one digit, or two digits below sixty. -/
def isSixtieth (text : List Char) : Bool :=
  match text with
  | [_] => text.all (Number.isDigitOf 10)
  | [tens, _] => tens ≤ '5' && text.all (Number.isDigitOf 10)
  | _ => false

/-- Whether a text is a number in two or more parts of base sixty, the first of which may be any
number. -/
def isInSixtieths (text : List Char) : Bool :=
  match text.splitOn ':' with
  | first :: second :: rest => isGroupedNumber first && (second :: rest).all isSixtieth
  | _ => false

/-- Whether a text is spelled like a whole number. A leading zero marks base eight. -/
def isInt (text : List Char) : Bool :=
  match (Number.cutSign text).2 with
  | ['0'] => true
  | '0' :: 'b' :: digits => !digits.isEmpty && digits.all (isGrouped 2)
  | '0' :: 'x' :: digits => !digits.isEmpty && digits.all (isGrouped 16)
  | '0' :: digits => digits.all (isGrouped 8)
  | body => isGroupedNumber body || isInSixtieths body

/-- Whether a text is an exponent with its sign, or nothing. -/
def isExponent : List Char → Bool
  | [] => true
  | mark :: sign :: digits =>
      (mark == 'e' || mark == 'E') && (sign == '+' || sign == '-') && !digits.isEmpty &&
        digits.all (Number.isDigitOf 10)
  | _ => false

/-- Whether a text is a fraction behind whole digits, a point and further digits. -/
def isFraction (body : List Char) : Bool :=
  match body.dropWhile (isGrouped 10) with
  | '.' :: rest =>
      body.head?.any (Number.isDigitOf 10) && isExponent (rest.dropWhile (isGrouped 10))
  | _ => false

/-- Whether a text is a fraction that begins with its point. -/
def isPointed : List Char → Bool
  | '.' :: first :: rest =>
      Number.isDigitOf 10 first && isExponent (rest.dropWhile (isGrouped 10))
  | _ => false

/-- Whether a text is a fraction in parts of base sixty, the last of which has a point. -/
def isInSixtiethsWithPoint (body : List Char) : Bool :=
  match body.dropWhile fun c => c != '.' with
  | '.' :: places => isInSixtieths (body.takeWhile fun c => c != '.') && places.all (isGrouped 10)
  | _ => false

/-- Whether a text is spelled like a number of double precision. -/
def isFloat (text : List Char) : Bool :=
  let body := (Number.cutSign text).2
  isFraction body || isPointed text || isInSixtiethsWithPoint body ||
    [".inf", ".Inf", ".INF"].any (fun word => body == word.toList) ||
    [".nan", ".NaN", ".NAN"].any fun word => text == word.toList

/-- The value of digits of a base. -/
def digitsValue (base : Nat) (digits : List Char) : Attempt Nat :=
  match Number.whole? base digits with
  | some value => .ok value
  | none => .error (.breakdown (.notWhole base (String.ofList digits)))

/-- The value of a text as a whole number of base ten. -/
def decimalValue (text : List Char) : Attempt Int :=
  if text.all (Number.isDigitOf 10) && Number.maxDigits < text.length then
    .error (.breakdown (.tooManyDigits text.length))
  else
    match Number.typedInt? (String.ofList text) with
    | some value => .ok value
    | none => .error (.breakdown (.notWhole 10 (String.ofList text)))

/-- The value of a text as a whole number. -/
def intValue (text : List Char) : Attempt Int := do
  let (negative, body) := Number.cutSign (ungroup text)
  let magnitude : Int ← match body with
    | [] => refuse
    | '0' :: 'b' :: digits => (digitsValue 2 digits).map Int.ofNat
    | '0' :: 'x' :: digits => (digitsValue 16 digits).map Int.ofNat
    | '0' :: _ => (digitsValue 8 body).map Int.ofNat
    | _ =>
        if body.contains ':' then do
          let parts ← (body.splitOn ':').mapM decimalValue
          pure (parts.foldl (fun total part => total * 60 + part) 0)
        else decimalValue body
  pure (if negative then -magnitude else magnitude)

/-- The value of a text as a number of double precision without parts. -/
def doubleValue (text : List Char) : Attempt Double :=
  match Number.typedDouble? (String.ofList text) with
  | some value => .ok value
  | none => .error (.breakdown (.notNumber (String.ofList text)))

/-- The sum of parts of base sixty, the last of which comes first; every step is rounded. -/
def sumSixtieths (total : Double) (base : Nat) : List Double → Attempt Double
  | [] => .ok total
  | part :: parts =>
      if Double.ofRatio false base 1 = .infinite false then .error (.breakdown .tooManyParts)
      else sumSixtieths (total.add (part.mulNat base)) (base * 60) parts

/-- The number with the opposite sign, if so wished. -/
def signedDouble (negative : Bool) : Double → Double
  | .nan => .nan
  | .infinite sign => .infinite (negative != sign)
  | .finite sign mantissa exponent => .finite (negative != sign) mantissa exponent

/-- The value of a text as a number of double precision. -/
def floatValue (text : List Char) : Attempt Double := do
  let (negative, body) := Number.cutSign ((ungroup text).map Char.toLower)
  if body.isEmpty then refuse
  else if body == ".inf".toList then pure (.infinite negative)
  else if body == ".nan".toList then pure .nan
  else if body.contains ':' then do
    let parts ← (body.splitOn ':').mapM doubleValue
    let sum ← sumSixtieths .zero 1 parts.reverse
    pure (signedDouble negative sum)
  else do
    let value ← doubleValue body
    pure (signedDouble negative value)

end Plain
end Yaml
end LayerLint
