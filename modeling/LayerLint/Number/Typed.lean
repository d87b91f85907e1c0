import LayerLint.Number.Reader
import LayerLint.Text.Blank
import LayerLint.Text.Decimal

/-!
# Numbers as people type them

A number that a person types may have white space around it, digits of any script, and single
underscores between digits. A whole number has a sign and a bounded number of digits; a number of
double precision may also be spelled out as infinity or as no number.
-/

namespace LayerLint
namespace Number

/-- White space around a number. The information separators do not count. -/
def isMargin (c : Char) : Bool :=
  Text.isBlank c && !('\x1c' ≤ c && c ≤ '\x1f')

/-- A text without the white space at its ends and with the usual digits. -/
def tidy (text : String) : List Char :=
  (((text.toList.dropWhile isMargin).reverse.dropWhile isMargin).reverse).map Text.plainDigit

/-- A text without its underscores, each of which has to stand between two digits. The flag tells
whether a digit stands in front. -/
def ungroup? : Bool → List Char → Option (List Char)
  | _, [] => some []
  | behind, c :: rest =>
      if c = '_' then
        if behind && rest.head?.any (isDigitOf 10) then ungroup? false rest else none
      else (ungroup? (isDigitOf 10 c) rest).map (c :: ·)

/-- A whole number as people type it. -/
def typedInt? (text : String) : Option Int :=
  let (negative, digits) := cutSign (tidy text)
  (ungroup? false digits).bind fun digits =>
    if maxDigits < digits.length then none else (whole? 10 digits).map (signed negative)

/-- The words for the values that are not finite. -/
def word? (negative : Bool) (text : List Char) : Option Double :=
  let lower := String.ofList (text.map Char.toLower)
  if lower = "inf" ∨ lower = "infinity" then some (.infinite negative)
  else if lower = "nan" then some .nan
  else none

/-- A number of double precision as people type it. -/
def typedDouble? (text : String) : Option Double :=
  let (negative, body) := cutSign (tidy text)
  (word? negative body).orElse fun _ => (ungroup? false body).bind (decimal? negative)

end Number
end LayerLint
