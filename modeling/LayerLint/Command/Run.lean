import LayerLint.Command.Grid
import LayerLint.Command.Settings
import LayerLint.Project.Lint
import LayerLint.Report.Porcelain
import LayerLint.Report.Rich
import LayerLint.Report.Structured

/-!
# Running a command

A command line is carried out on a disk. The outcome is what the program writes and its exit code:
two for a faulty command line or configuration, one for violations in strict mode, else zero. The log
goes to the error output, warnings always and the trace on demand.
-/

namespace LayerLint
namespace Command

/-- What a run of the program comes to. -/
structure Outcome where
  exit : Nat := 0
  stdout : String := ""
  stderr : String := ""
  /-- Why the run broke off, if it did. -/
  breakdown : Option Breakdown := none
  deriving DecidableEq

/-- Each line with its line end. -/
def textOf (lines : List String) : String :=
  String.join (lines.map fun line => line ++ "\n")

/-- Whether an entry of the log is written. -/
def isWritten (verbose : Bool) (entry : Entry) : Bool :=
  verbose || entry.severity == .warning

/-- The log as it is written. -/
def logText (verbose : Bool) (log : List Entry) : String :=
  textOf ((log.filter (isWritten verbose)).map Entry.render)

/-- Put the log in front of what else is written to the error output. -/
def Outcome.withLog (verbose : Bool) (result : Traced Outcome) : Outcome :=
  { result.value with stderr := logText verbose result.log ++ result.value.stderr }

/-- The outcome of a run that stops with a message. -/
def failure (message : String) : Outcome :=
  { exit := 2, stderr := "Error: " ++ message ++ "\n" }

/-- The outcome of a run that breaks off. -/
def brokenOff (cause : Breakdown) : Outcome :=
  { exit := 1, breakdown := some cause }

/-- The outcome of a run that stops in the set-up. -/
def setupFailure : Project.SetupFault → Outcome
  | .breakdown cause => brokenOff cause
  | fault => failure fault.message

/-- The message for a project without a policy. -/
def noPolicy : String := "no fences.yml found. Pass --config or create one."

/-- The root of the project: the one that is set, or the working directory. -/
def projectRoot (disk : Disk) (settings : Settings) : DiskPath :=
  settings.project.getD (.absolute disk.workingDir)

/-- A report in one of the formats. -/
def report : Format → Option DiskPath → LintResult → String
  | .rich => Report.rich
  | .json => Report.structured
  | .porcelain => Report.porcelain

/-- The outcome of a run over the files of a project. -/
def lintOutcome (disk : Disk) (settings : Settings) (result : LintResult) : Outcome :=
  match Project.reportRoot disk (projectRoot disk settings) result with
  | .error cause => brokenOff cause
  | .ok root =>
      let text := report settings.format root result
      { exit := if settings.strict && !result.violations.isEmpty then 1 else 0
        stdout := if text = "" then "" else text ++ "\n" }

/-- Check the files of a project. -/
def runLint (disk : Disk) (settings : Settings) : Traced Outcome := do
  let root := projectRoot disk settings
  match ← Project.lint disk root settings.config settings.paths settings.debug with
  | .error fault => pure (setupFailure fault)
  | .ok result => pure (lintOutcome disk settings result)

/-- Go on with the policy of a project. -/
def withPolicy (disk : Disk) (settings : Settings) (next : Project.Checked → Traced Outcome) :
    Traced Outcome := do
  match ← Project.setUp disk (projectRoot disk settings) settings.config none with
  | .error fault => pure (setupFailure fault)
  | .ok none => pure (failure noPolicy)
  | .ok (some checked) => next checked

/-- A text, or another one if it is empty. -/
def orElse (text other : String) : String :=
  if text = "" then other else text

/-- The layers that a layer may import from, as the overview shows them. -/
def targetsText (policy : Policy) (layer : Layer) : String :=
  match policy.allowed? layer.name with
  | some (target :: targets) => String.intercalate ", " (target :: targets)
  | _ => "(own layer only)"

/-- A row of the overview. -/
def overviewRow (policy : Policy) (layer : Layer) (index : Nat) : List String :=
  [toString (index + 1), layer.name, orElse (String.intercalate ", " layer.patterns) "(none)",
    targetsText policy layer]

/-- The overview of the layers of a policy. -/
def overview (policy : Policy) : Grid :=
  { title := "Layers (first match wins)"
    headings := ["#", "layer", "patterns", "may import"]
    rows := policy.layers.zipIdx.map fun entry => overviewRow policy entry.1 entry.2 }

/-- The lines about a valid policy. -/
def policyLines (checked : Project.Checked) : List String :=
  let policy := checked.policy
  ["Base dir: " ++ policy.baseDir, ""] ++ (overview policy).lines ++
  (if policy.excluded.isEmpty then [] else ["Excluded: " ++ String.intercalate ", " policy.excluded]) ++
  (checked.warnings.map fun warning => "Warning: " ++ warning) ++
  ["✓ Policy is valid"]

/-- Show the policy of a project. -/
def runCheckConfig (disk : Disk) (settings : Settings) : Traced Outcome :=
  withPolicy disk settings fun checked => pure { stdout := textOf (policyLines checked) }

/-- The layer of a package as it is shown. A layer without a name shows like no layer. -/
def layerText (policy : Policy) (package : String) : Traced String := do
  if ← Layer.isExcluded Glob.isMatch package policy.excluded then pure "excluded"
  else do
    let layer ← Layer.classify policy.layers Glob.isMatch policy.debug package
    pure (orElse (layer.getD "") "unclassified")

/-- Show the package and the layer of a file. -/
def runWhich (disk : Disk) (settings : Settings) : Traced Outcome :=
  withPolicy disk settings fun checked => do
    match disk.resolve (settings.paths.headD (.ofString ".")) with
    | .error cause => pure (brokenOff cause)
    | .ok file =>
        let package := Package.ofFile file.render (some checked.policy.baseDir)
        let layer ← layerText checked.policy package
        pure { stdout := textOf ["package: " ++ package, "layer:   " ++ layer] }

/-- Carry out a command with its settings. -/
def perform (disk : Disk) (settings : Settings) : Command → Traced Outcome
  | .lint => runLint disk settings
  | .checkConfig => runCheckConfig disk settings
  | .which => runWhich disk settings

/-- The outcome of a faulty command line. -/
def usageFailure (command : Option Command) (fault : UsageFault) : Outcome :=
  { exit := 2, stderr := fault.render command }

/-- Whether an option was given. -/
def Arguments.has (arguments : Arguments) (name : String) : Bool :=
  arguments.options.any fun given => given.name == name

/-- The outcome of a run that shows the version. -/
def versionOutcome : Outcome :=
  { stdout := textOf [program ++ ", version " ++ version] }

/-- The outcome when no command begins with the given word. The words are read as options once more,
because they may follow the mark that ends the options. -/
def noCommand (word : String) (words : List String) : Outcome :=
  match Arguments.read globalOptions false {} (word :: words) with
  | .error fault => usageFailure none fault
  | .ok arguments =>
      if arguments.has "--version" then versionOutcome
      else usageFailure none (.unknownCommand word (Text.closest (all.map name) word))

/-- Carry out the command that begins with the given word. -/
def runCommand (disk : Disk) (verbose : Bool) (word : String) (words : List String) : Outcome :=
  match ofName? word with
  | none => noCommand word words
  | some command =>
      match Settings.read disk command words with
      | .error (.usage fault) => usageFailure (some command) fault
      | .error (.breakdown cause) => brokenOff cause
      | .ok settings => Outcome.withLog verbose (perform disk settings command)

/-- Carry out a command line. -/
def run (disk : Disk) (words : List String) : Outcome :=
  match Arguments.read globalOptions false {} words with
  | .error fault => usageFailure none fault
  | .ok arguments =>
      if arguments.has "--version" then versionOutcome
      else
        match arguments.words with
        | [] => usageFailure none .commandMissing
        | word :: rest => runCommand disk (arguments.has "--verbose") word rest

/-- The base directory of the policy that a command line selects, if it selects one. -/
def baseDir? (disk : Disk) (words : List String) : Option String :=
  match Arguments.read globalOptions false {} words with
  | .ok { words := word :: rest, .. } => do
      let command ← ofName? word
      let settings ← (Settings.read disk command rest).toOption
      let checked ← (Project.setUp disk (projectRoot disk settings) settings.config none).value.toOption
      checked.map fun checked => checked.policy.baseDir
  | _ => none

end Command
end LayerLint
