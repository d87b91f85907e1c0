import LayerLint.Command
import LayerLint.Text.Similar

/-!
# Options and arguments

A command line is a sequence of words. A word that begins with a dash is an option; its value stands
behind an equals sign or is the next word. Two dashes end the options. Several flags of one letter may
share a dash.
-/

namespace LayerLint
namespace Command

/-- An option: its long name, and whether it takes a value. A flag may have a short name of one
letter too. -/
structure OptionSpec where
  name : String
  takesValue : Bool := false
  letter : Option Char := none
  deriving DecidableEq

/-- An option as it was given. -/
structure Given where
  name : String
  value : String := ""
  deriving DecidableEq

/-- What was given on a command line, in order. -/
structure Arguments where
  options : List Given := []
  words : List String := []
  deriving DecidableEq

/-- Cut a text at its first equals sign. -/
def cutValue : List Char → List Char × Option (List Char)
  | [] => ([], none)
  | c :: rest =>
      if c = '=' then ([], some rest)
      else
        let (name, value) := cutValue rest
        (c :: name, value)

/-- Whether a word is an option. -/
def isOption (word : String) : Bool :=
  match word.toList with
  | '-' :: _ :: _ => true
  | _ => false

/-- Whether a word is a long option. -/
def isLong (word : String) : Bool :=
  match word.toList with
  | '-' :: '-' :: _ => true
  | _ => false

/-- Read the letters of a word as flags. -/
def readLetters (specs : List OptionSpec) : List Char → Except UsageFault (List Given)
  | [] => .ok []
  | c :: rest =>
      match specs.find? fun spec => spec.letter == some c with
      | none => .error (.unknownOption (String.ofList ['-', c]) [])
      | some spec => do
          let more ← readLetters specs rest
          pure (⟨spec.name, ""⟩ :: more)

/-- The name of the option that every command has besides its own. -/
def helpName : String := "--help"

/-- The fault of a long option that does not exist. -/
def unknownLong (specs : List OptionSpec) (name : String) : UsageFault :=
  .unknownOption name (Text.closest (specs.map OptionSpec.name ++ [helpName]) name)

/-- Read a command line. If arguments and options may not be mixed, the first argument ends the
options. -/
def Arguments.read (specs : List OptionSpec) (mixed : Bool) (found : Arguments) :
    List String → Except UsageFault Arguments
  | [] => .ok found
  | word :: rest =>
      let add := fun (given : List Given) => { found with options := found.options ++ given }
      if word = "--" then .ok { found with words := found.words ++ rest }
      else if isOption word then
        let (name, value?) := cutValue word.toList
        match specs.find? fun spec => spec.name.toList == name with
        | some spec =>
            match spec.takesValue, value? with
            | true, some value => read specs mixed (add [⟨spec.name, String.ofList value⟩]) rest
            | true, none =>
                match rest with
                | [] => .error (.valueMissing spec.name)
                | value :: more => read specs mixed (add [⟨spec.name, value⟩]) more
            | false, none => read specs mixed (add [⟨spec.name, ""⟩]) rest
            | false, some _ => .error (.valueUnwanted spec.name)
        | none =>
            if isLong word then .error (unknownLong specs (String.ofList name))
            else
              match readLetters specs word.toList.tail with
              | .ok given => read specs mixed (add given) rest
              | .error fault => .error fault
      else if mixed then read specs mixed { found with words := found.words ++ [word] } rest
      else .ok { found with words := found.words ++ word :: rest }

/-- The options that were given, each once, in the order in which they first appear and with the
value that was given last. -/
def Arguments.final (arguments : Arguments) : List Given :=
  (arguments.options.map Given.name).eraseDups.filterMap fun name =>
    arguments.options.reverse.find? fun given => given.name == name

end Command
end LayerLint
