import LayerLint.Number.Reader
import LayerLint.Yaml.Token

/-!
# Block scalars

A block scalar is a header and the indented lines below it. Its lines are kept as they are, or folded:
then a line end between two lines that begin with a word is a space. The header says how many line
ends stay at the end, and it may say how deep the lines are indented.
-/

namespace LayerLint
namespace Yaml

/-- Which line ends stay at the end of a block scalar. -/
inductive Chomp
  | none
  | one
  | all
  deriving DecidableEq

/-- The header of a block scalar. -/
structure BlockHeader where
  chomp : Chomp := .one
  indent : Option Nat := none

/-- The sign for the line ends that stay. -/
def chomp? (c : Char) : Option Chomp :=
  if c = '+' then some .all else if c = '-' then some .none else none

/-- The digit for an indentation, which is not zero. -/
def indentDigit? (c : Char) : Option (Option Nat) :=
  if Number.isDigitOf 10 c then
    some (if c = '0' then none else Number.whole? 10 [c])
  else none

/-- The signs of a header at the front of a text, with their number. -/
def headerSigns? (text : List Char) : Option (BlockHeader × Nat) :=
  match text with
  | [] => some ({}, 0)
  | c :: rest =>
      match chomp? c, indentDigit? c with
      | some chomp, _ =>
          match rest.head?.bind indentDigit? with
          | some (some indent) => some ({ chomp, indent := some indent }, 2)
          | some none => none
          | none => some ({ chomp }, 1)
      | none, some (some indent) =>
          match rest.head?.bind chomp? with
          | some chomp => some ({ chomp, indent := some indent }, 2)
          | none => some ({ indent := some indent }, 1)
      | none, some none => none
      | none, none => some ({}, 0)

/-- The cursor behind spaces, a comment and the end of a line, if there is nothing else. -/
def restOfLine? (cursor : Cursor) : Option Cursor :=
  let behind := cursor.skipWhile (· == ' ')
  let behind := if behind.isAt '#' then behind.skipWhile fun c => !isBreak c else behind
  match behind.peek? with
  | none => some behind
  | some c => if isBreak c then some behind.next else none

/-- Pass over spaces up to a column. -/
def passIndent (indent : Nat) (cursor : Cursor) : Cursor :=
  cursor.skip (min (cursor.rest.takeWhile (· == ' ')).length (indent - cursor.column))

/-- Pass over empty lines and indentation up to a column. The line ends so far have the last one
first. -/
def blockBreaks (indent : Nat) : Nat → List Char → Cursor → List Char × Cursor
  | 0, breaks, cursor => (breaks.reverse, cursor)
  | count + 1, breaks, cursor =>
      let cursor := passIndent indent cursor
      match cursor.peek? with
      | none => (breaks.reverse, cursor)
      | some c =>
          if isBreak c then blockBreaks indent count (breakText c :: breaks) cursor.next
          else (breaks.reverse, cursor)

/-- Pass over empty lines and indentation, and find the largest column on the way. -/
def findIndent : Nat → List Char → Nat → Cursor → List Char × Nat × Cursor
  | 0, breaks, deepest, cursor => (breaks.reverse, deepest, cursor)
  | count + 1, breaks, deepest, cursor =>
      match cursor.peek? with
      | none => (breaks.reverse, deepest, cursor)
      | some c =>
          if c == ' ' then findIndent count breaks (max deepest cursor.next.column) cursor.next
          else if isBreak c then findIndent count (breakText c :: breaks) deepest cursor.next
          else (breaks.reverse, deepest, cursor)

/-- What was read of a block scalar: its text, the last line end, and the line ends behind it. -/
structure BlockRun where
  text : List Char
  lineEnd : List Char
  breaks : List Char
  cursor : Cursor

/-- Whether the cursor is at a line of a block scalar. -/
def atBlockLine (indent : Nat) (cursor : Cursor) : Bool :=
  cursor.column == indent && !cursor.rest.isEmpty

/-- Whether the cursor is at a space or a tab. -/
def atSpace (cursor : Cursor) : Bool :=
  cursor.peek?.any fun c => c == ' ' || c == '\t'

/-- Read the lines of a block scalar. -/
def blockLines (folded : Bool) (indent : Nat) : Nat → BlockRun → BlockRun
  | 0, run => run
  | count + 1, run =>
      if atBlockLine indent run.cursor then
        let line := run.cursor.rest.takeWhile fun c => !isBreak c
        let behind := run.cursor.skip line.length
        let lineEnd := (behind.peek?.map breakText).toList
        let (breaks, cursor) := blockBreaks indent (behind.rest.length + 1) [] behind.next
        let text := run.text ++ run.breaks ++ line
        let joint :=
          if !atBlockLine indent cursor then []
          else if folded && lineEnd == ['\n'] && !atSpace run.cursor && !atSpace cursor then
            (if breaks.isEmpty then [' '] else [])
          else lineEnd
        blockLines folded indent count { text := text ++ joint, lineEnd, breaks, cursor }
      else run

/-- Read a block scalar behind its first sign. Its lines are indented by at least `least`. -/
def blockRun? (folded : Bool) (least : Nat) (cursor : Cursor) : Option (List Char × Cursor) := do
  let (header, signs) ← headerSigns? cursor.rest
  let behind := cursor.skip signs
  let start ← if behind.peek?.all fun c => c == ' ' || isBreak c then restOfLine? behind else none
  let limit := start.rest.length + 1
  let (indent, breaks, first) := match header.indent with
    | some more =>
        let indent := least + more - 1
        let (breaks, first) := blockBreaks indent limit [] start
        (indent, breaks, first)
    | none =>
        let (breaks, deepest, first) := findIndent limit [] 0 start
        (max least deepest, breaks, first)
  let run := blockLines folded indent limit { text := [], lineEnd := [], breaks, cursor := first }
  let tail := match header.chomp with
    | .none => []
    | .one => run.lineEnd
    | .all => run.lineEnd ++ run.breaks
  some (run.text ++ tail, run.cursor)

end Yaml
end LayerLint
