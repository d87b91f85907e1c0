import LayerLint.Breakdown

/-!
# Tokens of YAML texts

The structure of a document is in its brackets and in its indentation. Tokens make both explicit: a
block opens where the indentation grows and ends where it shrinks.
-/

namespace LayerLint
namespace Yaml

/-- Why a text has no value. -/
inductive Fault
  | malformed
  | breakdown (cause : Breakdown)
  deriving DecidableEq

/-- The outcome of an attempt to read something. -/
abbrev Attempt := Except Fault

/-- The attempt to read a text that is malformed. -/
def refuse {α : Type} : Attempt α :=
  .error .malformed

/-- What was found, if anything. -/
def orRefuse {α : Type} (found : Option α) : Attempt α :=
  found.elim refuse .ok

/-- A token of a document. -/
inductive Token
  | documentStart
  | documentEnd
  | blockList
  | blockTable
  | blockEnd
  | openList
  | closeList
  | openTable
  | closeTable
  /-- In front of a key. -/
  | key
  /-- In front of a value. -/
  | value
  /-- In front of an item of a block list. -/
  | item
  | comma
  | alias (name : List Char)
  | anchor (name : List Char)
  /-- A tag: the handle in front of it, and the rest. -/
  | tag (handle : Option (List Char)) (rest : List Char)
  | plain (text : List Char)
  /-- A scalar in quotes or in a block, by its code points. -/
  | quoted (codes : List Nat)
  /-- The version of the format, by its first number. -/
  | version (major : Nat)
  /-- What a handle of tags stands for. -/
  | handle (name start : List Char)
  /-- Any other directive. -/
  | directive
  deriving DecidableEq, Inhabited

/-- Whether a character ends a line. -/
def isBreak (c : Char) : Bool :=
  c == '\n' || c == '\x85' || c == '\u2028' || c == '\u2029'

/-- Whether a character separates tokens. -/
def isGap (c : Char) : Bool :=
  c == ' ' || c == '\t' || isBreak c

/-- Whether a text is at an end or begins with a character that separates tokens. -/
def atGap (text : List Char) : Bool :=
  text.head?.all isGap

/-- Whether a line begins with a mark that starts or ends a document. -/
def atDocumentMark (text : List Char) : Bool :=
  match text with
  | '-' :: '-' :: '-' :: rest => atGap rest
  | '.' :: '.' :: '.' :: rest => atGap rest
  | _ => false

/-- Whether a character may stand in a document at all. -/
def isPermitted (c : Char) : Bool :=
  c == '\t' || c == '\n' || c == '\r' || (' ' ≤ c && c ≤ '~') || c == '\x85' ||
    ('\xa0' ≤ c && c ≤ '\ufffd') || '\uffff' < c

/-- A position in a text: what follows, and the line and the column, counted from zero. -/
structure Cursor where
  rest : List Char
  index : Nat := 0
  line : Nat := 0
  column : Nat := 0

namespace Cursor

/-- Move on by one character. A byte order mark has no width. -/
def next (cursor : Cursor) : Cursor :=
  match cursor.rest with
  | [] => cursor
  | c :: rest =>
      if isBreak c then ⟨rest, cursor.index + 1, cursor.line + 1, 0⟩
      else if c == '\ufeff' then ⟨rest, cursor.index + 1, cursor.line, cursor.column⟩
      else ⟨rest, cursor.index + 1, cursor.line, cursor.column + 1⟩

/-- Move on by several characters. -/
def skip (cursor : Cursor) : Nat → Cursor
  | 0 => cursor
  | count + 1 => cursor.next.skip count

/-- Move on while the characters satisfy a test. -/
def skipWhile (cursor : Cursor) (test : Char → Bool) : Cursor :=
  cursor.skip (cursor.rest.takeWhile test).length

/-- The character at the cursor. -/
def peek? (cursor : Cursor) : Option Char :=
  cursor.rest.head?

/-- Whether the cursor is at the given character. -/
def isAt (cursor : Cursor) (c : Char) : Bool :=
  cursor.peek? == some c

/-- Whether the cursor is at the end of a line. -/
def isAtBreak (cursor : Cursor) : Bool :=
  cursor.peek?.any isBreak

end Cursor

/-- How the end of a line shows in a scalar. -/
def breakText (c : Char) : Char :=
  if c == '\u2028' || c == '\u2029' then c else '\n'

/-- The text of a fold: one line end is a space, unless it is a separator of its own, and further ones
stay. -/
def foldText (first : Char) (more : List Char) : List Char :=
  if breakText first != '\n' then first :: more
  else if more.isEmpty then [' ']
  else more

end Yaml
end LayerLint
