import LayerLint.Script.Glyph

/-!
# Reading a script source

A cursor is a place in a source with what stands behind it. The readers of this module move a cursor
over white space, comments, words, numbers, strings, regular expressions, signs and the texts of
templates and markup elements.
-/

namespace LayerLint
namespace Script

/-- A place in a source and the glyphs behind it. -/
structure Cursor where
  place : Place
  rest : List Glyph
  deriving DecidableEq, Inhabited

/-- Move over glyphs as long as their characters are of a kind. -/
def advanceWhile (isKind : Char → Bool) : Place → List Glyph → Cursor
  | place, [] => ⟨place, []⟩
  | place, glyph :: rest =>
      if isKind glyph.char then advanceWhile isKind (place.advance glyph) rest
      else ⟨place, glyph :: rest⟩

/-- Move behind the end of a block comment. -/
def advanceBlockComment : Place → List Glyph → Cursor
  | place, [] => ⟨place, []⟩
  | place, glyph :: rest =>
      match rest with
      | [] => ⟨place.advance glyph, []⟩
      | next :: more =>
          if glyph.char == '*' && next.char == '/' then ⟨(place.advance glyph).advance next, more⟩
          else advanceBlockComment (place.advance glyph) rest

/-- Moving over glyphs of a kind leaves no more glyphs than there were. -/
theorem advanceWhile_length_le (isKind : Char → Bool) (place : Place) (rest : List Glyph) :
    (advanceWhile isKind place rest).rest.length ≤ rest.length := by
  induction rest generalizing place with
  | nil => simp [advanceWhile]
  | cons glyph rest ih =>
      simp only [advanceWhile]
      split
      · exact Nat.le_trans (ih _) (Nat.le_succ _)
      · exact Nat.le_refl _

/-- Moving behind a block comment leaves no more glyphs than there were. -/
theorem advanceBlockComment_length_le (place : Place) (rest : List Glyph) :
    (advanceBlockComment place rest).rest.length ≤ rest.length := by
  induction rest generalizing place with
  | nil => simp [advanceBlockComment]
  | cons glyph rest ih =>
      unfold advanceBlockComment
      split
      · simp
      · split
        · simp
          omega
        · exact Nat.le_trans (ih _) (Nat.le_succ _)

namespace Cursor

/-- The cursor at the beginning of a source. -/
def ofBytes (bytes : List UInt8) : Cursor :=
  ⟨{}, glyphs bytes⟩

/-- The character behind the cursor. -/
def char? (cursor : Cursor) : Option Char :=
  cursor.rest.head?.map Glyph.char

/-- Whether the character behind the cursor is of a kind. -/
def sees (cursor : Cursor) (isKind : Char → Bool) : Bool :=
  cursor.char?.any isKind

/-- Move over one glyph. -/
def step (cursor : Cursor) : Cursor :=
  match cursor.rest with
  | [] => cursor
  | glyph :: rest => ⟨cursor.place.advance glyph, rest⟩

/-- Move over glyphs as long as their characters are of a kind. -/
def skip (cursor : Cursor) (isKind : Char → Bool) : Cursor :=
  advanceWhile isKind cursor.place cursor.rest

/-- Move over a text that stands behind the cursor. -/
def strip? (cursor : Cursor) : List Char → Option Cursor
  | [] => some cursor
  | c :: text => if cursor.char? == some c then cursor.step.strip? text else none

/-- Move over the comment behind the cursor. -/
def comment? (cursor : Cursor) : Option Cursor :=
  match cursor.rest with
  | first :: second :: rest =>
      let inside := (cursor.place.advance first).advance second
      if first.char == '/' && second.char == '/' then
        some (advanceWhile (fun c => !isLineEnd c) inside rest)
      else if first.char == '/' && second.char == '*' then some (advanceBlockComment inside rest)
      else none
  | _ => none

/-- Skipping leaves no more glyphs than there were. -/
theorem skip_length_le (cursor : Cursor) (isKind : Char → Bool) :
    (cursor.skip isKind).rest.length ≤ cursor.rest.length :=
  advanceWhile_length_le isKind cursor.place cursor.rest

/-- A comment takes up glyphs. -/
theorem comment?_length_lt {cursor behind : Cursor} (read : cursor.comment? = some behind) :
    behind.rest.length < cursor.rest.length := by
  unfold comment? at read
  split at read
  · rename_i first second rest shape
    rw [shape]
    simp only [] at read
    split at read
    · have bound := advanceWhile_length_le (fun c => !isLineEnd c)
        ((cursor.place.advance first).advance second) rest
      cases read
      simp only [List.length_cons]
      omega
    · split at read
      · have bound := advanceBlockComment_length_le
          ((cursor.place.advance first).advance second) rest
        cases read
        simp only [List.length_cons]
        omega
      · cases read
  · cases read

/-- Move over comments and over characters that count as white space. -/
def pastComments (isWhite : Char → Bool) (cursor : Cursor) : Cursor :=
  match _read : (cursor.skip isWhite).comment? with
  | some behind => pastComments isWhite behind
  | none => cursor.skip isWhite
termination_by cursor.rest.length
decreasing_by
  have shorter := comment?_length_lt _read
  have bound := cursor.skip_length_le isWhite
  omega

/-- Move to the next token. -/
def pastTrivia (cursor : Cursor) : Cursor :=
  cursor.pastComments isSpace

/-- The bytes between the cursor and a later offset. -/
def bytesUpTo (offset : Nat) (cursor : Cursor) : List UInt8 :=
  (cursor.rest.flatMap Glyph.bytes).take (offset - cursor.place.offset)

end Cursor

/-- Move behind a word. An escape with braces is part of a word; the flag says whether the place is
inside such braces. -/
def advanceWord : Bool → Place → List Glyph → Cursor
  | _, place, [] => ⟨place, []⟩
  | true, place, glyph :: rest => advanceWord (glyph.char != '\x7d') (place.advance glyph) rest
  | false, place, glyph :: rest =>
      if isWordChar glyph.char then
        match glyph.char, rest with
        | '\\', mark :: brace :: more =>
            if mark.char == 'u' && brace.char == '\x7b' then
              advanceWord true (((place.advance glyph).advance mark).advance brace) more
            else advanceWord false (place.advance glyph) (mark :: brace :: more)
        | _, rest => advanceWord false (place.advance glyph) rest
      else ⟨place, glyph :: rest⟩

/-- What a reader of a string has seen last. -/
inductive StringMode
  | plain
  | backslash
  /-- A carriage return behind a backslash; a line feed belongs to it. -/
  | brokenLine
  deriving DecidableEq

/-- Move behind the quote that ends a string. A line may end inside a string only behind a
backslash. -/
def advanceString (quote : Char) : StringMode → Place → List Glyph → Option Cursor
  | _, _, [] => none
  | .backslash, place, glyph :: rest =>
      advanceString quote (if glyph.char == '\r' then .brokenLine else .plain) (place.advance glyph) rest
  | mode, place, glyph :: rest =>
      if glyph.char == quote then some ⟨place.advance glyph, rest⟩
      else if glyph.char == '\\' then advanceString quote .backslash (place.advance glyph) rest
      else if glyph.char == '\r' || (glyph.char == '\n' && mode != .brokenLine) then none
      else advanceString quote .plain (place.advance glyph) rest

/-- Move behind the slash that ends a regular expression. Slashes behind a backslash or inside square
brackets do not end it. -/
def advanceRegex : (escaped inSet : Bool) → Place → List Glyph → Option Cursor
  | _, _, _, [] => none
  | escaped, inSet, place, glyph :: rest =>
      let behind := place.advance glyph
      if isLineEnd glyph.char then none
      else if escaped then advanceRegex false inSet behind rest
      else if glyph.char == '\\' then advanceRegex true inSet behind rest
      else if glyph.char == '[' then advanceRegex false true behind rest
      else if glyph.char == ']' then advanceRegex false false behind rest
      else if glyph.char == '/' && !inSet then some ⟨behind, rest⟩
      else advanceRegex false inSet behind rest

/-- Move over the text of a template to its next substitution or to its end. -/
def advanceTemplate : (escaped : Bool) → Place → List Glyph → Cursor
  | _, place, [] => ⟨place, []⟩
  | true, place, glyph :: rest => advanceTemplate false (place.advance glyph) rest
  | false, place, glyph :: rest =>
      if glyph.char == '\x60' || (glyph.char == '$' && rest.head?.any fun next => next.char == '\x7b')
      then ⟨place, glyph :: rest⟩
      else advanceTemplate (glyph.char == '\\') (place.advance glyph) rest

namespace Cursor

/-- Move over the word behind the cursor. -/
def anyWord? (cursor : Cursor) : Option Cursor :=
  if cursor.sees beginsWord then some (advanceWord false cursor.place cursor.rest) else none

/-- The letters of the word behind the cursor. -/
def wordText (cursor : Cursor) : String :=
  String.ofList ((cursor.rest.takeWhile fun glyph => isWordChar glyph.char).map Glyph.char)

/-- Move over a particular word. -/
def word? (cursor : Cursor) (text : String) : Option Cursor :=
  (cursor.strip? text.toList).filter fun behind => !behind.sees isWordChar

/-- Move over a sequence of digits. -/
def digits (cursor : Cursor) : Cursor :=
  cursor.skip fun c => c.isDigit || c == '_'

/-- Move over the exponent of a number, if there is one. -/
def exponent (cursor : Cursor) : Cursor :=
  if cursor.sees fun c => c == 'e' || c == 'E' then
    let behind := cursor.step
    let signed := if behind.sees fun c => c == '+' || c == '-' then behind.step else behind
    if signed.sees Char.isDigit then signed.digits else cursor
  else cursor

/-- Move over the number behind the cursor. -/
def number? (cursor : Cursor) : Option Cursor :=
  if cursor.sees Char.isDigit then
    let whole := cursor.digits
    if whole.sees isWordChar && !whole.sees fun c => c == 'e' || c == 'E' then
      some (whole.skip isWordChar)
    else
      let fraction := if whole.sees (· == '.') then whole.step.digits else whole
      some (fraction.exponent.skip isWordChar)
  else if cursor.sees (· == '.') && cursor.step.sees Char.isDigit then
    some (cursor.step.digits.exponent.skip isWordChar)
  else none

/-- Move over the string behind the cursor. -/
def string? (cursor : Cursor) : Option Cursor :=
  cursor.char?.bind fun quote =>
    if quote == '\x22' || quote == '\x27' then
      advanceString quote .plain cursor.step.place cursor.step.rest
    else none

/-- Move over the regular expression behind the cursor. -/
def regex? (cursor : Cursor) : Option Cursor :=
  if cursor.sees (· == '/') then
    (advanceRegex false false cursor.step.place cursor.step.rest).map fun behind =>
      behind.skip isWordChar
  else none

/-- The signs of the language, the longer ones first. -/
def signs : List String :=
  [">>>=", "...", "===", "!==", "**=", "<<=", ">>=", ">>>", "&&=", "||=", "??=", "=>", "==", "!=", "<=",
    ">=", "&&", "||", "??", "?.", "++", "--", "+=", "-=", "*=", "/=", "%=", "&=", "|=", "^=", "**", "<<",
    ">>", "\x7b", "\x7d", "(", ")", "[", "]", ";", ",", "<", ">", "+", "-", "*", "/", "%", "&", "|", "^",
    "!", "~", "?", ":", "=", ".", "@"]

/-- The longest sign behind the cursor, and the cursor behind it. A question mark in front of a
fraction is a sign of its own. -/
def sign? (cursor : Cursor) : Option (String × Cursor) :=
  signs.findSome? fun sign =>
    (cursor.strip? sign.toList).bind fun behind =>
      if sign == "?." && behind.sees Char.isDigit then none else some (sign, behind)

/-- Move over the text of a template, which is not empty. -/
def templateText? (cursor : Cursor) : Option Cursor :=
  let behind := advanceTemplate false cursor.place cursor.rest
  if cursor.place.offset < behind.place.offset then some behind else none

/-- Move over the text of a markup element, which is not empty. -/
def markupText? (cursor : Cursor) : Option Cursor :=
  let behind := cursor.skip fun c => !(['\x7b', '\x7d', '<', '>'].contains c)
  if cursor.place.offset < behind.place.offset then some behind else none

/-- Move over the name of a markup element or of an attribute. -/
def markupName? (cursor : Cursor) : Option Cursor :=
  if cursor.sees beginsWord then
    some (cursor.skip fun c => isWordChar c || c == '-' || c == '.' || c == ':')
  else none

/-- Move over the string of an attribute, in which a backslash is an ordinary character. -/
def markupString? (cursor : Cursor) : Option Cursor :=
  cursor.char?.bind fun quote =>
    if quote == '\x22' || quote == '\x27' then
      let inside := cursor.step.skip (· != quote)
      if inside.rest.isEmpty then none else some inside.step
    else none

end Cursor
end Script
end LayerLint
