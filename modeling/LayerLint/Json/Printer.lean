import LayerLint.Json.Token

/-!
# Writing of JSON

A value is written over several lines, each part on a line of its own and indented by two spaces for
each level. The text is plain ASCII: every other character is an escape, and a character beyond the
basic plane is a pair of escapes. Keys are written in the order of the table. A list or table inside
itself is left out.
-/

namespace LayerLint
namespace Json

/-- The escape of a number below 65536. -/
def unitEscape (unit : Nat) : List Char :=
  '\\' :: 'u' :: Text.hexDigits 4 unit

/-- A character inside a string literal. -/
def writtenChar (c : Char) : List Char :=
  if c = quote ∨ c = '\\' then ['\\', c]
  else if c = '\n' then ['\\', 'n']
  else if c = '\r' then ['\\', 'r']
  else if c = '\t' then ['\\', 't']
  else if c = '\x08' then ['\\', 'b']
  else if c = '\x0c' then ['\\', 'f']
  else if 0x20 ≤ c.toNat ∧ c.toNat < 0x7F then [c]
  else if c.toNat < 0x10000 then unitEscape c.toNat
  else
    unitEscape (0xD800 + (c.toNat - 0x10000) / 0x400) ++
      unitEscape (0xDC00 + (c.toNat - 0x10000) % 0x400)

/-- A string literal. -/
def literal (text : String) : String :=
  String.ofList (quote :: (text.toList.flatMap writtenChar ++ [quote]))

/-- A string literal of code points, which need not be characters. -/
def literalCodes (codes : List Nat) : String :=
  let written := fun (code : Nat) =>
    if code.isValidChar then writtenChar (Char.ofNat code) else unitEscape code
  String.ofList (quote :: (codes.flatMap written ++ [quote]))

/-- JSON has no numbers that are not finite; they are written as names. -/
def spelling : Number.Spelling := ⟨"NaN", "Infinity"⟩

/-- A scalar. -/
def writtenScalar : Scalar → String
  | .null => "null"
  | .bool true => "true"
  | .bool false => "false"
  | .int value => toString value
  | .float value => value.render spelling
  | .text value => literal value
  | .codes value => literalCodes value
  | .stamp value => literal value.label

/-- The key of an entry. -/
def writtenKey : Scalar → String
  | .text value => literal value
  | other => literalCodes other.label

/-- The line break before a part at a level. -/
def lineBreak (level : Nat) : String :=
  String.ofList ('\n' :: List.replicate (2 * level) ' ')

/-- Parts between brackets, each on its own line. -/
def enclose (first last : String) (level : Nat) : List String → String
  | [] => first ++ last
  | parts =>
      first ++ lineBreak (level + 1) ++
        String.intercalate ("," ++ lineBreak (level + 1)) parts ++ lineBreak level ++ last

mutual

/-- A value at a level. -/
def render (level : Nat) : Value → String
  | .scalar value => writtenScalar value
  | .list items => enclose "[" "]" level (renderItems (level + 1) items)
  | .table entries => enclose "\x7b" "\x7d" level (renderEntries (level + 1) entries)
  | .marked _ value => render level value
  | .again _ _ => "null"

/-- The items of a list at a level. -/
def renderItems (level : Nat) : List Value → List String
  | [] => []
  | item :: items => render level item :: renderItems level items

/-- The entries of a table at a level. -/
def renderEntries (level : Nat) : List (Scalar × Value) → List String
  | [] => []
  | (key, value) :: entries =>
      (writtenKey key ++ ": " ++ render level value) :: renderEntries level entries

end

end Json
end LayerLint
