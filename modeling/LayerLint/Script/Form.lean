import LayerLint.Script.Phrase
import LayerLint.Tree

/-!
# Forms

A form says how the text of a phrase is put together: from terminals and other phrases, in sequence,
by ordered choice and by repetition. Reading a form moves a cursor behind the longest text that the
form describes, and gathers the nodes of the syntax tree that are of interest.
-/

namespace LayerLint
namespace Script

/-- The smallest parts of a source. Unless it says otherwise, white space and comments may stand in
front of a terminal. -/
inductive Terminal
  | nothing
  /-- A particular word. -/
  | word (text : String)
  /-- A word that may name a variable. -/
  | name
  /-- Any word, and any word behind a number sign. -/
  | anyWord
  | number
  | string
  | regex
  /-- A sign; longer signs are not cut. -/
  | sign (text : String)
  /-- A text, whatever stands behind it. -/
  | mark (text : String)
  /-- A text, with nothing in front of it. -/
  | bare (text : String)
  | templateText
  | markupText
  | markupName
  | markupString
  /-- The end of a statement that has no semicolon. -/
  | statementEnd (ending : Ending)

/-- Words that cannot name a variable. -/
def reservedWords : List String :=
  ["break", "case", "catch", "class", "const", "continue", "debugger", "default", "delete", "do", "else",
    "enum", "export", "extends", "finally", "for", "function", "if", "import", "in", "instanceof", "new",
    "return", "switch", "throw", "try", "typeof", "var", "void", "while", "with"]

/-- Move a cursor over a terminal. -/
def Terminal.read (cursor : Cursor) : Terminal → Option Cursor
  | .nothing => some cursor
  | .word text => cursor.pastTrivia.word? text
  | .name =>
      let here := cursor.pastTrivia
      if reservedWords.contains here.wordText then none else here.anyWord?
  | .anyWord =>
      let here := cursor.pastTrivia
      if here.sees (· == '#') then here.step.anyWord? else here.anyWord?
  | .number => cursor.pastTrivia.number?
  | .string => cursor.pastTrivia.string?
  | .regex => cursor.pastTrivia.regex?
  | .sign text =>
      match cursor.pastTrivia.sign? with
      | some (found, behind) => if found == text then some behind else none
      | none => none
  | .mark text => cursor.pastTrivia.strip? text.toList
  | .bare text => cursor.strip? text.toList
  | .templateText => cursor.templateText?
  | .markupText => cursor.markupText?
  | .markupName => cursor.pastTrivia.markupName?
  | .markupString => cursor.pastTrivia.markupString?
  | .statementEnd ending => statementEnd? ending cursor

/-- How a phrase is put together. -/
inductive Form
  | terminal (terminal : Terminal)
  | phrase (phrase : Phrase)
  /-- One form and then another one. -/
  | andThen (first second : Form)
  /-- The first form, or where it does not fit the second one. -/
  | orElse (first second : Form)
  /-- A form as often as it fits. -/
  | many (form : Form)
  /-- A form that fits, without moving over it. -/
  | ahead (form : Form)
  /-- A form that does not fit. -/
  | notAhead (form : Form)
  /-- A form whose text becomes a node of the syntax tree. -/
  | node (kind : String) (form : Form)
  /-- A form whose text names a module. -/
  | source (form : Form)

namespace Form

/-- The form that always fits and moves over nothing. -/
def nothing : Form :=
  .terminal .nothing

/-- A particular word. -/
def word (text : String) : Form :=
  .terminal (.word text)

/-- A word that may name a variable. -/
def name : Form :=
  .terminal .name

/-- Any word. -/
def anyWord : Form :=
  .terminal .anyWord

/-- A string. -/
def string : Form :=
  .terminal .string

/-- A particular sign. -/
def sign (text : String) : Form :=
  .terminal (.sign text)

/-- A particular text. -/
def mark (text : String) : Form :=
  .terminal (.mark text)

/-- The end of a statement that has no semicolon. -/
def statementEnd (ending : Ending) : Form :=
  .terminal (.statementEnd ending)

/-- Forms one after the other. -/
def all : List Form → Form
  | [] => nothing
  | [form] => form
  | form :: forms => .andThen form (all forms)

/-- The first form that fits. -/
def any : List Form → Form
  | [] => .notAhead nothing
  | [form] => form
  | form :: forms => .orElse form (any forms)

/-- A form that may be missing. -/
def opt (form : Form) : Form :=
  .orElse form nothing

/-- One of several words. -/
def wordOf (texts : List String) : Form :=
  any (texts.map word)

/-- One of several signs. -/
def signOf (texts : List String) : Form :=
  any (texts.map sign)

/-- Forms in round brackets. -/
def round (form : Form) : Form :=
  all [sign "(", form, sign ")"]

/-- Forms in square brackets. -/
def square (form : Form) : Form :=
  all [sign "[", form, sign "]"]

/-- Forms in braces. -/
def braces (form : Form) : Form :=
  all [sign "\x7b", form, sign "\x7d"]

/-- Forms with commas between them, at least one. -/
def commas (form : Form) : Form :=
  all [form, .many (all [sign ",", form])]

/-- Forms with commas between, in front of and behind them, or none at all. -/
def looseCommas (form : Form) : Form :=
  .many (any [form, sign ","])

/-- A semicolon, or the end of a statement without one. -/
def semicolon (ending : Ending) : Form :=
  any [statementEnd ending, sign ";"]

/-- A word that the end of its line does not make an expression of its own. -/
def leadingWord (ending : Ending) (text : String) : Form :=
  all [word text, .notAhead (statementEnd ending)]

/-- What is being read: the cursor, and the nodes so far with the last one first. -/
structure Progress where
  cursor : Cursor
  nodes : List Tree := []

/-- The label of a span. -/
def labelOf (kind : String) (start stop : Place) : Label :=
  { kind, start := start.offset, stop := stop.offset, row := start.row, column := start.column }

/-- Read a form, by the forms of the phrases in it. The number bounds how deeply forms are nested. -/
def read (formOf : Phrase → Form) : Nat → Form → Progress → Option Progress
  | 0, _, _ => none
  | depth + 1, form, progress =>
      match form with
      | .terminal part =>
          match part.read progress.cursor with
          | some cursor => some ⟨cursor, progress.nodes⟩
          | none => none
      | .phrase part => read formOf depth (formOf part) progress
      | .andThen first second =>
          match read formOf depth first progress with
          | some next => read formOf depth second next
          | none => none
      | .orElse first second =>
          match read formOf depth first progress with
          | some next => some next
          | none => read formOf depth second progress
      | .many inner =>
          match read formOf depth inner progress with
          | some next =>
              if progress.cursor.place.offset < next.cursor.place.offset then
                read formOf depth (.many inner) next
              else some next
          | none => some progress
      | .ahead inner =>
          match read formOf depth inner progress with
          | some _ => some progress
          | none => none
      | .notAhead inner =>
          match read formOf depth inner progress with
          | some _ => none
          | none => some progress
      | .node kind inner =>
          let start := progress.cursor.pastTrivia
          match read formOf depth inner ⟨start, []⟩ with
          | some next =>
              let label := labelOf kind start.place next.cursor.place
              some ⟨next.cursor, .node label next.nodes.reverse :: progress.nodes⟩
          | none => none
      | .source inner =>
          let start := progress.cursor.pastTrivia
          match read formOf depth inner ⟨start, []⟩ with
          | some next =>
              let label :=
                { labelOf "string" start.place next.cursor.place with
                  content := start.bytesUpTo next.cursor.place.offset
                  field := some "source" }
              some ⟨next.cursor, .node label [] :: progress.nodes⟩
          | none => none

end Form
end Script
end LayerLint
