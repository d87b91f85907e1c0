import LayerLint.Command.Arguments
import LayerLint.Disk
import LayerLint.Number.Typed

/-!
# Settings of a command

The options of a command line are turned into settings in the order in which they are given, and the
arguments after them. The first value that is refused is reported; words that are left over are
reported last.
-/

namespace LayerLint
namespace Command

/-- The formats of a report. -/
inductive Format
  | rich
  | json
  | porcelain
  deriving DecidableEq

/-- The names of the formats of a report. -/
def formats : List (String × Format) :=
  [("rich", .rich), ("json", .json), ("porcelain", .porcelain)]

/-- The settings of a command. -/
structure Settings where
  format : Format := .porcelain
  strict : Bool := false
  debug : Option Int := none
  project : Option DiskPath := none
  config : Option DiskPath := none
  paths : List DiskPath := []

/-- The options that name the project and its policy. -/
def projectOptions : List OptionSpec :=
  [{ name := "--project", takesValue := true }, { name := "--config", takesValue := true }]

/-- The options of a command. -/
def options : Command → List OptionSpec
  | .lint =>
      [{ name := "--format", takesValue := true }, { name := "--strict" },
        { name := "--debug", takesValue := true }] ++ projectOptions
  | _ => projectOptions

/-- The options in front of the command. -/
def globalOptions : List OptionSpec :=
  [{ name := "--version" }, { name := "--verbose", letter := some 'v' }]

/-- What the text of a path leads to, with whether the user may read it. An empty text leads nowhere. -/
def nodeAt? (disk : Disk) (text : String) : Option (DiskNode × Bool) :=
  if text = "" then none
  else do
    let names ← (disk.reach text (.ofString text)).toOption
    let node ← disk.find? names
    match node with
    | .directory _ => some (node, (disk.rights names).reads)
    | _ => if DiskPath.endsAsDirectory text then none else some (node, (disk.rights names).reads)

/-- Why a value is not accepted: it is refused, or the run breaks off. -/
inductive Rejection
  | refused (fault : ValueFault)
  | breakdown (cause : Breakdown)

/-- Accept the text of a path. -/
def acceptPath (disk : Disk) (kind : PathKind) (mustExist : Bool) (text : String) :
    Except Rejection DiskPath :=
  let path := DiskPath.ofString text
  if path.hasNull then .error (.breakdown .nullInPath)
  else
    match nodeAt? disk text, kind with
    | none, _ => if mustExist then .error (.refused (.missing kind text)) else .ok path
    | some (.file _ _, _), .directory => .error (.refused (.isFile kind text))
    | some (.directory _, _), .file => .error (.refused (.isDirectory kind text))
    | some (_, reads), _ => if reads then .ok path else .error (.refused (.notReadable kind text))

/-- Accept the text of a debug number. -/
def acceptDebug (text : String) : Except Rejection Int :=
  match Number.typedInt? text with
  | none => .error (.refused (.notInteger text))
  | some value => if value < 0 then .error (.refused (.negative value)) else .ok value

/-- Accept the name of a format. -/
def acceptFormat (text : String) : Except Rejection Format :=
  match formats.lookup text with
  | some format => .ok format
  | none => .error (.refused (.notChoice text (formats.map Prod.fst)))

/-- Why a command line is not carried out: it is faulty, or the run breaks off. -/
inductive Stop
  | usage (fault : UsageFault)
  | breakdown (cause : Breakdown)

/-- Why a command line is not carried out when a value at a place is not accepted. -/
def Rejection.at (place : String) : Rejection → Stop
  | .refused fault => .usage (.badValue place fault)
  | .breakdown cause => .breakdown cause

namespace Settings

/-- Set what an option says. -/
def set (disk : Disk) (settings : Settings) (given : Given) : Except Rejection Settings :=
  match given.name with
  | "--format" => (acceptFormat given.value).map fun format => { settings with format }
  | "--debug" => (acceptDebug given.value).map fun debug => { settings with debug := some debug }
  | "--project" =>
      (acceptPath disk .directory true given.value).map fun path =>
        { settings with project := some path }
  | "--config" =>
      (acceptPath disk .file false given.value).map fun path => { settings with config := some path }
  | "--strict" => .ok { settings with strict := true }
  | _ => .ok settings

/-- Set what several options say, in order. -/
def setAll (disk : Disk) (settings : Settings) : List Given → Except Stop Settings
  | [] => .ok settings
  | given :: rest =>
      match settings.set disk given with
      | .ok next => next.setAll disk rest
      | .error rejection => .error (rejection.at given.name)

/-- Accept the paths of several arguments, in order. -/
def acceptPaths (disk : Disk) : List String → Except Rejection (List DiskPath)
  | [] => .ok []
  | word :: words => do
      let first ← acceptPath disk .any true word
      let rest ← acceptPaths disk words
      pure (first :: rest)

/-- Set what the arguments of a command say. -/
def setWords (disk : Disk) (settings : Settings) (command : Command) (words : List String) :
    Except Stop Settings :=
  let extra := fun (settings : Settings) (rest : List String) =>
    if rest.isEmpty then .ok settings else .error (.usage (.extraArguments rest))
  match command, words with
  | .lint, words =>
      match acceptPaths disk words with
      | .ok paths => .ok { settings with paths }
      | .error rejection => .error (rejection.at "[PATHS]...")
  | .checkConfig, words => extra settings words
  | .which, [] => .error (.usage (.argumentMissing "FILE"))
  | .which, word :: rest =>
      if (DiskPath.ofString word).hasNull then .error (.breakdown .nullInPath)
      else extra { settings with paths := [.ofString word] } rest

/-- The settings of a command that the words behind its name give. -/
def read (disk : Disk) (command : Command) (words : List String) : Except Stop Settings := do
  let arguments ← (Arguments.read command.options true {} words).mapError .usage
  let settings ← ({} : Settings).setAll disk arguments.final
  settings.setWords disk command arguments.words

end Settings
end Command
end LayerLint
