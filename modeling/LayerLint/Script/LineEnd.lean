import LayerLint.Script.Cursor

/-!
# The ends of lines

A statement without a semicolon ends in front of a closing brace, at the end of the source, and at the
end of a line behind which the next line does not carry it on. What carries on depends on what stands
in front of the line end: a bracket at the beginning of a line carries on an expression, but not a
declared name or a type.
-/

namespace LayerLint
namespace Script

/-- How the end of a line bears on a phrase. -/
inductive Ending
  /-- The phrase stands inside brackets, where the end of a line has no meaning. -/
  | closed
  /-- The phrase is a declared name or a type. -/
  | declared
  /-- The phrase is an expression. -/
  | computed
  deriving DecidableEq, Inhabited

/-- Whether a text begins with the operator in or instanceof. -/
def beginsRelation (text : List Char) : Bool :=
  let isLetter := fun (c : Char) => c.isAlpha || c.toNat ≥ 0x80
  let endsWord := fun (rest : List Char) => !rest.head?.any isLetter
  ("in".toList.isPrefixOf text && endsWord (text.drop 2)) ||
    ("instanceof".toList.isPrefixOf text && endsWord (text.drop 10))

/-- Whether a statement may end in front of a line that begins with the given text. -/
def mayEndBefore (ending : Ending) : List Char → Bool
  | [] => true
  | c :: text =>
      if "\x60,.;*%><=?^|&/:".toList.contains c then false
      else if c == '(' || c == '[' then ending == .declared
      else if c == '+' || c == '-' then text.head? == some c
      else if c == '!' then text.head? != some '='
      else !beginsRelation (c :: text)

/-- Whether a statement may end where the cursor stands. -/
def endsHere (ending : Ending) (cursor : Cursor) : Bool :=
  let behind := cursor.skip fun c => isPlainSpace c && c != '\n'
  match behind.char? with
  | none => true
  | some c =>
      c == '\x7d' ||
        (c == '\n' &&
          mayEndBefore ending (((behind.pastComments isPlainSpace).rest.take 12).map Glyph.char))

/-- The place where a statement without a semicolon ends. Comments that stand in front of the end of
the line belong to the statement. -/
def statementEnd? (ending : Ending) (cursor : Cursor) : Option Cursor :=
  if ending == .closed then none
  else if endsHere ending cursor then some cursor
  else
    match _read : (cursor.skip isSpace).comment? with
    | some behind => statementEnd? ending behind
    | none => none
termination_by cursor.rest.length
decreasing_by
  have shorter := Cursor.comment?_length_lt _read
  have bound := cursor.skip_length_le isSpace
  omega

end Script
end LayerLint
