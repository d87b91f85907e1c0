import LayerLint.Yaml.Directive
import LayerLint.Yaml.Scalar

/-!
# Cutting a YAML text into tokens

A colon makes the token before it a key, so the tokens that may turn out to be keys are remembered
with their numbers. A key stands on one line, and one that is the first token of a line of a block
table must turn out to be a key.
-/

namespace LayerLint
namespace Yaml

/-- A token that may turn out to be a key. -/
structure KeyCandidate where
  /-- The number of tokens before it. -/
  number : Nat
  required : Bool
  index : Nat
  line : Nat
  column : Nat

/-- The state of the reading of a text. -/
structure State where
  cursor : Cursor
  /-- The tokens so far, the last one first. -/
  tokens : List Token := []
  /-- The columns of the open blocks, the innermost one first. -/
  indents : List Nat := []
  /-- The number of open brackets. -/
  depth : Nat := 0
  /-- Whether a key may begin at the cursor. -/
  keyAllowed : Bool := true
  /-- The candidates for keys, by the number of brackets around them. -/
  candidates : List (Nat × KeyCandidate) := []

namespace State

/-- Put out a token. -/
def emit (state : State) (token : Token) : State :=
  { state with tokens := token :: state.tokens }

/-- Insert a token behind the first `number` tokens. -/
def insert (state : State) (number : Nat) (token : Token) : State :=
  let behind := state.tokens.length - number
  { state with tokens := state.tokens.take behind ++ token :: state.tokens.drop behind }

/-- Whether the reading is inside brackets. -/
def inBrackets (state : State) : Bool :=
  0 < state.depth

/-- The candidate for a key at the current depth. -/
def candidate? (state : State) : Option KeyCandidate :=
  state.candidates.lookup state.depth

/-- The state without a candidate at the current depth. -/
def forget (state : State) : State :=
  { state with candidates := state.candidates.filter fun entry => entry.1 != state.depth }

/-- Give up the candidate at the current depth, unless it must be a key. -/
def drop (state : State) : Attempt State :=
  if state.candidate?.any KeyCandidate.required then refuse else .ok state.forget

/-- Give up the candidates that lie on an earlier line or too far back. -/
def dropStale (state : State) : Attempt State :=
  let isStale := fun (entry : Nat × KeyCandidate) =>
    entry.2.line != state.cursor.line || entry.2.index + 1024 < state.cursor.index
  if state.candidates.any fun entry => isStale entry && entry.2.required then refuse
  else .ok { state with candidates := state.candidates.filter fun entry => !isStale entry }

/-- Remember that the next token may turn out to be a key. -/
def remember (state : State) : Attempt State :=
  if state.keyAllowed then do
    let state ← state.drop
    let candidate : KeyCandidate :=
      { number := state.tokens.length
        required := !state.inBrackets && state.indents.head? == some state.cursor.column
        index := state.cursor.index
        line := state.cursor.line
        column := state.cursor.column }
    pure { state with candidates := (state.depth, candidate) :: state.candidates }
  else .ok state

/-- Whether a column lies deeper than the innermost block. -/
def isDeeper (state : State) (column : Nat) : Bool :=
  state.indents.head?.all fun indent => indent < column

/-- Close the blocks whose columns satisfy a test, from the innermost one on. -/
def closeBlocks (state : State) (test : Nat → Bool) : State :=
  let closed := (state.indents.takeWhile test).length
  { state with
    tokens := List.replicate closed .blockEnd ++ state.tokens
    indents := state.indents.drop closed }

/-- Close the blocks that lie deeper than the cursor. -/
def unwind (state : State) : State :=
  if state.inBrackets then state
  else state.closeBlocks fun indent => state.cursor.column < indent

/-- Open a block at the cursor if it lies deeper than the innermost block. -/
def openBlock (state : State) (token : Token) : State :=
  if state.isDeeper state.cursor.column then
    { state.emit token with indents := state.cursor.column :: state.indents }
  else state

/-- Move the cursor. -/
def move (state : State) (count : Nat) : State :=
  { state with cursor := state.cursor.skip count }

/-- Set whether a key may come next. -/
def allow (state : State) (keyAllowed : Bool) : State :=
  { state with keyAllowed }

/-- Pass over spaces, comments and line ends. -/
def passGap : Nat → State → State
  | 0, state => state
  | count + 1, state =>
      let cursor := state.cursor.skipWhile (· == ' ')
      let cursor := if cursor.isAt '#' then cursor.skipWhile fun c => !isBreak c else cursor
      if cursor.isAtBreak then
        passGap count
          { state with
            cursor := cursor.next
            keyAllowed := state.keyAllowed || !state.inBrackets }
      else { state with cursor }

/-- A mark that starts or ends a document. -/
def documentMark (state : State) (token : Token) : Attempt State := do
  let state ← (state.closeBlocks fun _ => true).drop
  pure ((state.emit token).move 3 |>.allow false)

/-- An opening bracket. -/
def openBracket (state : State) (token : Token) : Attempt State := do
  let state ← state.remember
  pure { (state.emit token).move 1 with depth := state.depth + 1, keyAllowed := true }

/-- A closing bracket. -/
def closeBracket (state : State) (token : Token) : Attempt State := do
  let state ← state.drop
  if state.depth == 0 then refuse
  else pure { (state.emit token).move 1 with depth := state.depth - 1, keyAllowed := false }

/-- A comma between brackets. -/
def comma (state : State) : Attempt State := do
  let state ← state.drop
  pure ((state.emit .comma).move 1 |>.allow true)

/-- The mark of an item, or of a key that is marked as such; it opens a block of its kind. -/
def blockMark (state : State) (block mark : Token) (keyBehind : Bool) : Attempt State := do
  let opened ←
    if state.inBrackets then pure state
    else if state.keyAllowed then pure (state.openBlock block)
    else refuse
  let dropped ← opened.drop
  pure ((dropped.emit mark).move 1 |>.allow keyBehind)

/-- A colon in front of a value. The candidate becomes a key. -/
def colon (state : State) : Attempt State :=
  match state.candidate? with
  | some candidate =>
      let keyed := state.forget.insert candidate.number .key
      let keyed :=
        if !state.inBrackets && state.isDeeper candidate.column then
          { keyed.insert candidate.number .blockTable with
            indents := candidate.column :: state.indents }
        else keyed
      .ok ((keyed.emit .value).move 1 |>.allow false)
  | none => state.blockMark .blockTable .value (!state.inBrackets)

/-- Whether a character may stand directly behind the name of an anchor. -/
def endsName (c : Char) : Bool :=
  isGap c || "?:,]\x7d%@\x60".toList.contains c

/-- An anchor or an alias. -/
def name (state : State) (token : List Char → Token) : Attempt State := do
  let state ← state.remember
  let behind := state.cursor.rest.drop 1
  let name := behind.takeWhile isNameChar
  if name.isEmpty || !(behind.drop name.length).head?.all endsName then refuse
  else pure ((state.emit (token name)).move (name.length + 1) |>.allow false)

/-- A token that is cut off the front of the text by a function. -/
def cut (state : State) (found : Option (Token × List Char)) : Attempt State :=
  match found with
  | none => refuse
  | some (token, rest) => .ok ((state.emit token).move (state.cursor.rest.length - rest.length))

/-- A tag. -/
def tag (state : State) : Attempt State := do
  let state ← state.remember
  (state.allow false).cut (cutTag? state.cursor.rest)

/-- A directive with the rest of its line. -/
def directive (state : State) : Attempt State := do
  let state ← (state.closeBlocks fun _ => true).drop
  let state ← (state.move 1 |>.allow false).cut (cutDirective? (state.cursor.rest.drop 1))
  match restOfLine? state.cursor with
  | some cursor => pure { state with cursor }
  | none => refuse

/-- A quoted scalar. -/
def quoted (state : State) (double : Bool) : Attempt State := do
  let state ← state.remember
  let (codes, cursor) ← quotedRun double (state.cursor.rest.length + 1) [] state.cursor.next
  pure { state.emit (.quoted codes) with cursor, keyAllowed := false }

/-- The smallest column of text in a block inside the innermost block. -/
def innerColumn (state : State) : Nat :=
  (state.indents.head?.map (· + 1)).getD 0

/-- A block scalar. -/
def block (state : State) (folded : Bool) : Attempt State := do
  let state ← (state.allow true).drop
  match blockRun? folded (max state.innerColumn 1) state.cursor.next with
  | some (text, cursor) => pure { state.emit (.quoted (text.map Char.toNat)) with cursor }
  | none => refuse

/-- A plain scalar. -/
def plain (state : State) : Attempt State := do
  let state ← state.remember
  let limit := state.cursor.rest.length + 1
  let run := plainRun state.inBrackets state.innerColumn limit [] [] false state.cursor
  pure { state.emit (.plain run.text) with cursor := run.cursor, keyAllowed := run.broken }

/-- Whether a plain scalar may begin with a character, in front of the given text. -/
def beginsPlain (state : State) (c : Char) (rest : List Char) : Bool :=
  !(isGap c || "-?:,[]\x7b\x7d#&*!|>\x27\x22%@\x60".toList.contains c) ||
    (!atGap rest && (c == '-' || (!state.inBrackets && (c == '?' || c == ':'))))

/-- Read the token at the cursor. -/
def token (state : State) (c : Char) (rest : List Char) : Attempt State :=
  let loose := state.inBrackets || atGap rest
  let marked := state.cursor.column == 0 && atDocumentMark state.cursor.rest
  if c == '%' && state.cursor.column == 0 then state.directive
  else if marked && c == '-' then state.documentMark .documentStart
  else if marked then state.documentMark .documentEnd
  else if c == '[' then state.openBracket .openList
  else if c == '\x7b' then state.openBracket .openTable
  else if c == ']' then state.closeBracket .closeList
  else if c == '\x7d' then state.closeBracket .closeTable
  else if c == ',' then state.comma
  else if c == '-' && atGap rest then state.blockMark .blockList .item true
  else if c == '?' && loose then state.blockMark .blockTable .key (!state.inBrackets)
  else if c == ':' && loose then state.colon
  else if c == '*' then state.name .alias
  else if c == '&' then state.name .anchor
  else if c == '!' then state.tag
  else if c == '|' && !state.inBrackets then state.block false
  else if c == '>' && !state.inBrackets then state.block true
  else if c == '\x27' then state.quoted false
  else if c == '\x22' then state.quoted true
  else if state.beginsPlain c rest then state.plain
  else refuse

/-- Read tokens up to the end of the text. The first argument bounds their number. -/
def run : Nat → State → Attempt (List Token)
  | 0, _ => refuse
  | count + 1, state => do
      let state ← (state.passGap (state.cursor.rest.length + 1)).dropStale
      let state := state.unwind
      match state.cursor.rest with
      | [] => do
          let state ← (state.closeBlocks fun _ => true).drop
          pure state.tokens.reverse
      | c :: rest => do
          let state ← state.token c rest
          run count state

end State

/-- The tokens of a text. Every token takes up at least one character. -/
def tokens (text : List Char) : Attempt (List Token) :=
  if text.all isPermitted then
    let cursor : Cursor := ⟨text, 0, 0, 0⟩
    let cursor := if cursor.isAt '\ufeff' then cursor.next else cursor
    State.run (text.length + 1) { cursor }
  else refuse

end Yaml
end LayerLint
