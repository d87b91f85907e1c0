/-!
# Trace entries

While a file is checked the program reports what it does. Each entry names the part of the program
that wrote it. A warning is always written, a trace entry has a level and is written when the debug
number of the policy reaches that level.
-/

namespace LayerLint

/-- The part of the program that an entry comes from. -/
inductive Channel
  | layers
  | policy
  | walker
  | linter
  deriving DecidableEq

/-- The name of a channel in the log. -/
def Channel.name : Channel → String
  | .layers => "fences.engine.layers"
  | .policy => "fences.engine.policy"
  | .walker => "fences.engine.walker"
  | .linter => "fences.linter"

/-- How much detail an entry of the trace adds. -/
inductive Detail
  | skips
  | resolution
  | patterns
  | globs
  | nodes
  deriving DecidableEq

/-- The smallest debug number that shows a kind of detail. -/
def Detail.level : Detail → Int
  | .skips => 1
  | .resolution => 2
  | .patterns => 3
  | .globs => 4
  | .nodes => 5

/-- Why an entry was written. -/
inductive Severity
  | trace (detail : Detail)
  | warning
  deriving DecidableEq

/-- The name of a severity in the log. -/
def Severity.name : Severity → String
  | .trace _ => "DEBUG"
  | .warning => "WARNING"

/-- One line of the log. -/
structure Entry where
  severity : Severity
  channel : Channel
  text : String
  deriving DecidableEq

/-- An entry as it is written to the log. -/
def Entry.render (entry : Entry) : String :=
  entry.severity.name ++ " " ++ entry.channel.name ++ ": " ++ entry.text

/-- Whether an entry is shown under a debug number. -/
def Entry.isShown (debug : Int) (entry : Entry) : Bool :=
  match entry.severity with
  | .trace detail => detail.level ≤ debug
  | .warning => true

end LayerLint
