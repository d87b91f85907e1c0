import LayerLint.Text.Printable

/-!
# Quoted text

How a text is shown inside a message: between single quotes, or between double quotes when it holds a
single quote and no double quote. The quote itself, the backslash and characters that are not
printable are written as escapes.
-/

namespace LayerLint
namespace Text

/-- The digit of a number below sixteen. -/
def hexDigit (digit : Nat) : Char :=
  if digit < 10 then Char.ofNat ('0'.toNat + digit) else Char.ofNat ('a'.toNat + (digit - 10))

/-- The last `width` hexadecimal digits of a number. -/
def hexDigits : Nat → Nat → List Char
  | 0, _ => []
  | width + 1, number => hexDigits width (number / 16) ++ [hexDigit (number % 16)]

/-- The numeric escape of a character: two, four or eight hexadecimal digits. -/
def numericEscape (c : Char) : List Char :=
  if c.toNat < 0x100 then '\\' :: 'x' :: hexDigits 2 c.toNat
  else if c.toNat < 0x10000 then '\\' :: 'u' :: hexDigits 4 c.toNat
  else '\\' :: 'U' :: hexDigits 8 c.toNat

/-- How a character is written between the given quotes. -/
def quotedChar (mark : Char) (c : Char) : List Char :=
  if c = mark ∨ c = '\\' then ['\\', c]
  else if c = '\n' then ['\\', 'n']
  else if c = '\r' then ['\\', 'r']
  else if c = '\t' then ['\\', 't']
  else if isPrintable c then [c]
  else numericEscape c

/-- The quotes that a text is shown in. -/
def quoteMark (text : List Char) : Char :=
  if text.contains '\x27' && !text.contains '\x22' then '\x22' else '\x27'

/-- A text between quotes. -/
def quotedChars (text : List Char) : List Char :=
  let mark := quoteMark text
  mark :: (text.flatMap (quotedChar mark) ++ [mark])

/-- A code point that is no character, as it is written. -/
def halfEscape (code : Nat) : List Char :=
  '\\' :: 'u' :: hexDigits 4 code

/-- The code points of a text between quotes. A code point that is no character is written as an
escape. -/
def quotedCodes (codes : List Nat) : String :=
  let mark := quoteMark (codes.map Char.ofNat)
  let written := fun (code : Nat) =>
    if code.isValidChar then quotedChar mark (Char.ofNat code) else halfEscape code
  String.ofList (mark :: (codes.flatMap written ++ [mark]))

/-- The text of code points. A code point that is no character is written as an escape. -/
def ofCodes (codes : List Nat) : String :=
  String.ofList (codes.flatMap fun code =>
    if code.isValidChar then [Char.ofNat code] else halfEscape code)

/-- A string between quotes. -/
def quoted (text : String) : String :=
  String.ofList (quotedChars text.toList)

end Text
end LayerLint
