import LayerLint.Breakdown
import LayerLint.Json.Token

/-!
# Reading of JSON

The words of a text are read one by one by a machine with a stack of unfinished lists and tables.
Of two entries with one key the last value stays. Reading ends at the first fault: at a word that does
not fit, or at a number that has too many digits. It may also be given a bound on the number of lists and
tables that are open at once.
-/

namespace LayerLint
namespace Json

/-- Why a text has no value. -/
inductive Fault
  | malformed
  | breakdown (cause : Breakdown)
  deriving DecidableEq

/-- An unfinished list or table; its parts are kept with the last one first. -/
inductive Frame
  | list (items : List Value)
  | table (entries : List (Scalar × Value)) (key : Scalar)

/-- What the machine waits for. -/
inductive State
  | wantValue (stack : List Frame)
  | wantValueOrClose (stack : List Frame)
  | wantKeyOrClose (stack : List Frame)
  | wantKey (entries : List (Scalar × Value)) (stack : List Frame)
  | wantColon (entries : List (Scalar × Value)) (key : Scalar) (stack : List Frame)
  | wantNext (items : Frame) (stack : List Frame)
  | finished (value : Value)

/-- Hand a complete value to the list or table around it. -/
def State.give (value : Value) : List Frame → State
  | [] => .finished value
  | .list items :: stack => .wantNext (.list (value :: items)) stack
  | .table entries key :: stack => .wantNext (.table ((key, value) :: entries) key) stack

/-- Read a word where a value is expected. -/
def State.begin (stack : List Frame) : Token → Except Fault State
  | .scalar value => .ok (.give (.scalar value) stack)
  | .openList => .ok (.wantValueOrClose stack)
  | .openTable => .ok (.wantKeyOrClose stack)
  | .oversized count => .error (.breakdown (.tooManyDigits count))
  | _ => .error .malformed

/-- Read a word where a key is expected. -/
def State.key (entries : List (Scalar × Value)) (stack : List Frame) : Token → Except Fault State
  | .scalar key => if key.toCodes?.isSome then .ok (.wantColon entries key stack) else .error .malformed
  | _ => .error .malformed

/-- Read one word. -/
def State.step : State → Token → Except Fault State
  | .wantValue stack, token => State.begin stack token
  | .wantValueOrClose stack, .closeList => .ok (.give (.list []) stack)
  | .wantValueOrClose stack, token => State.begin (.list [] :: stack) token
  | .wantKeyOrClose stack, .closeTable => .ok (.give (.table []) stack)
  | .wantKeyOrClose stack, token => State.key [] stack token
  | .wantKey entries stack, token => State.key entries stack token
  | .wantColon entries key stack, .colon => .ok (.wantValue (.table entries key :: stack))
  | .wantNext (.list items) stack, .comma => .ok (.wantValue (.list items :: stack))
  | .wantNext (.list items) stack, .closeList => .ok (.give (.list items.reverse) stack)
  | .wantNext (.table entries _) stack, .comma => .ok (.wantKey entries stack)
  | .wantNext (.table entries _) stack, .closeTable =>
      .ok (.give (Value.ofEntries entries.reverse) stack)
  | _, _ => .error .malformed

/-- Read words one after the other. -/
def State.run : State → List Token → Except Fault State
  | state, [] => .ok state
  | state, token :: tokens => (state.step token).bind fun next => next.run tokens

/-- The value of a JSON text. -/
def parse (text : List Char) : Except Fault Value := do
  match ← (State.wantValue []).run (tokens text) with
  | .finished value => pure value
  | _ => throw .malformed

/-- The number of lists and tables that are open. -/
def State.depth : State → Nat
  | .wantValue stack => stack.length
  | .wantValueOrClose stack => stack.length + 1
  | .wantKeyOrClose stack => stack.length + 1
  | .wantKey _ stack => stack.length + 1
  | .wantColon _ _ stack => stack.length + 1
  | .wantNext _ stack => stack.length + 1
  | .finished _ => 0

/-- What is nested too deep when a word opens one list or table too many. -/
def Token.nesting (token : Token) : Nesting :=
  if token = .openList then .jsonList else .jsonTable

/-- Read words one after the other, with at most so many lists and tables open at once. -/
def State.runWithin (levels : Nat) : State → List Token → Except Fault State
  | state, [] => .ok state
  | state, token :: tokens =>
      (state.step token).bind fun next =>
        if levels < next.depth then .error (.breakdown (.tooDeep token.nesting))
        else next.runWithin levels tokens

/-- The value of a JSON text in which at most so many lists and tables are open at once. -/
def parseWithin (levels : Nat) (text : List Char) : Except Fault Value := do
  match ← (State.wantValue []).runWithin levels (tokens text) with
  | .finished value => pure value
  | _ => throw .malformed

end Json
end LayerLint
