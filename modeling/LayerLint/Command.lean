import LayerLint.Text.Quoted

/-!
# Commands

The program has three commands. Every command takes options, and two of them take arguments. What is
wrong with a command line is reported with the usage of the command, unless an option lacks its value
or has a value that it does not take.
-/

namespace LayerLint

/-- A command of the program. -/
inductive Command
  | lint
  | checkConfig
  | which
  deriving DecidableEq

namespace Command

/-- The name of the program. -/
def program : String := "fences"

/-- The version of the program. -/
def version : String := "0.1.0"

/-- All commands. -/
def all : List Command := [.lint, .checkConfig, .which]

/-- The name of a command. -/
def name : Command → String
  | .lint => "lint"
  | .checkConfig => "check-config"
  | .which => "which"

/-- The command of a name. -/
def ofName? (name : String) : Option Command :=
  all.find? fun command => command.name == name

/-- What a command takes behind its name. -/
def takes : Command → String
  | .lint => "[OPTIONS] [PATHS]..."
  | .checkConfig => "[OPTIONS]"
  | .which => "[OPTIONS] FILE"

/-- The words that lead to a command, or to the program as a whole. -/
def path : Option Command → String
  | none => program
  | some command => program ++ " " ++ command.name

/-- The usage of a command, or of the program as a whole. -/
def usage : Option Command → String
  | none => program ++ " [OPTIONS] COMMAND [ARGS]..."
  | some command => path (some command) ++ " " ++ command.takes

/-- The kind of file that an option or an argument names. -/
inductive PathKind
  | any
  | directory
  | file
  deriving DecidableEq

/-- The name of a kind of file. -/
def PathKind.name : PathKind → String
  | .any => "Path"
  | .directory => "Directory"
  | .file => "File"

/-- Why a value is refused. -/
inductive ValueFault
  | notChoice (value : String) (choices : List String)
  | notInteger (value : String)
  | negative (value : Int)
  | missing (kind : PathKind) (value : String)
  | isFile (kind : PathKind) (value : String)
  | isDirectory (kind : PathKind) (value : String)
  | notReadable (kind : PathKind) (value : String)
  deriving DecidableEq

/-- The message for a refused value. -/
def ValueFault.message : ValueFault → String
  | .notChoice value choices =>
      Text.quoted value ++ " is not one of " ++
        String.intercalate ", " (choices.map Text.quoted) ++ "."
  | .notInteger value => Text.quoted value ++ " is not a valid integer range."
  | .negative value => toString value ++ " is not in the range x>=0."
  | .missing kind value => kind.name ++ " " ++ Text.quoted value ++ " does not exist."
  | .isFile kind value => kind.name ++ " " ++ Text.quoted value ++ " is a file."
  | .isDirectory kind value => kind.name ++ " " ++ Text.quoted value ++ " is a directory."
  | .notReadable kind value => kind.name ++ " " ++ Text.quoted value ++ " is not readable."

/-- What is wrong with a command line. -/
inductive UsageFault
  | unknownOption (name : String) (close : List String)
  | valueMissing (name : String)
  | valueUnwanted (name : String)
  | unknownCommand (name : String) (close : List String)
  | commandMissing
  | badValue (place : String) (fault : ValueFault)
  | argumentMissing (place : String)
  | extraArguments (arguments : List String)
  deriving DecidableEq

namespace UsageFault

/-- The hint at the names that are close to the one that was given. -/
def suggestion : List String → String
  | [] => ""
  | [name] => " Did you mean " ++ Text.quoted name ++ "?"
  | names => " (Did you mean one of: " ++ String.intercalate ", " (names.map Text.quoted) ++ "?)"

/-- The message for a faulty command line. -/
def message : UsageFault → String
  | .unknownOption name close => "No such option " ++ Text.quoted name ++ "." ++ suggestion close
  | .valueMissing name => "Option " ++ Text.quoted name ++ " requires an argument."
  | .valueUnwanted name => "Option " ++ Text.quoted name ++ " does not take a value."
  | .unknownCommand name close => "No such command " ++ Text.quoted name ++ "." ++ suggestion close
  | .commandMissing => "Missing command."
  | .badValue place fault => "Invalid value for '" ++ place ++ "': " ++ fault.message
  | .argumentMissing place => "Missing argument '" ++ place ++ "'."
  | .extraArguments arguments =>
      "Got unexpected extra argument" ++ (if arguments.length = 1 then "" else "s") ++ " (" ++
        String.intercalate " " arguments ++ ")"

/-- Whether the usage is shown with a message. -/
def showsUsage : UsageFault → Bool
  | .valueMissing _ => false
  | .valueUnwanted _ => false
  | _ => true

/-- The text about a faulty command line. -/
def render (command : Option Command) (fault : UsageFault) : String :=
  let hint :=
    if fault.showsUsage then
      "Usage: " ++ usage command ++ "\nTry '" ++ path command ++ " --help' for help.\n\n"
    else ""
  hint ++ "Error: " ++ fault.message ++ "\n"

end UsageFault
end Command
end LayerLint
