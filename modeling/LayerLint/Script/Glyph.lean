import LayerLint.Text.Blank
import LayerLint.Text.Utf8

/-!
# The characters of a script source

A source is a sequence of glyphs: characters together with the bytes that stand for them. Places in a
source are counted in bytes and rows.
-/

namespace LayerLint
namespace Script

/-- A character with the bytes that stand for it. Bytes that are no text show as the replacement
character. -/
structure Glyph where
  char : Char
  bytes : List UInt8
  deriving DecidableEq, Inhabited

/-- The glyphs of a byte sequence that was cut into the given pieces. -/
def glyphsOf : List UInt8 → List Text.Utf8.Piece → List Glyph
  | _, [] => []
  | bytes, piece :: pieces =>
      ⟨piece.char?.getD '\ufffd', bytes.take piece.width⟩ :: glyphsOf (bytes.drop piece.width) pieces

/-- The glyphs of a byte sequence. -/
def glyphs (bytes : List UInt8) : List Glyph :=
  glyphsOf bytes (Text.Utf8.pieces bytes)

/-- A position in a file. The offset and the column are counted in bytes, and rows end with line
feeds; all three are counted from zero. -/
structure Place where
  offset : Nat := 0
  row : Nat := 0
  column : Nat := 0
  deriving DecidableEq, Inhabited

/-- The place behind a glyph that stands at the given place. -/
def Place.advance (place : Place) (glyph : Glyph) : Place :=
  let width := glyph.bytes.length
  if glyph.char == '\n' then ⟨place.offset + width, place.row + 1, 0⟩
  else ⟨place.offset + width, place.row, place.column + width⟩

/-- Whether a character may stand between any two tokens. Of the control characters only the tab and
those that move to another line or page do. -/
def isSpace (c : Char) : Bool :=
  (Text.isBlank c && !('\x1c' ≤ c && c ≤ '\x1f') && c != '\u0085') ||
    c == '\ufeff' || c == '\u2060' || c == '\u200b'

/-- Whether a character may be part of a word. -/
def isWordChar (c : Char) : Bool :=
  c.isAlphanum || c == '_' || c == '$' || c == '\\' || (c.toNat ≥ 0x80 && !isSpace c)

/-- Whether a character may be the first one of a word. -/
def beginsWord (c : Char) : Bool :=
  isWordChar c && !c.isDigit

/-- Whether a character ends a line comment. -/
def isLineEnd (c : Char) : Bool :=
  c == '\n' || c == '\r' || c == '\u2028' || c == '\u2029'

/-- Whether a character is white space to the rule about the ends of lines. -/
def isPlainSpace (c : Char) : Bool :=
  Text.isBlank c && !('\x1c' ≤ c && c ≤ '\x1f') && c != '\u0085' && c != '\u00a0' &&
    c != '\u2007' && c != '\u202f'

end Script
end LayerLint
