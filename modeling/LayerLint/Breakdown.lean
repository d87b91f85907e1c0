import LayerLint.Calendar
import LayerLint.Text.Quoted

/-!
# Breakdowns

Most faults of a configuration are explained to the user. Some are not foreseen: a run that meets one
of them breaks off, and only the cause is known.
-/

namespace LayerLint

/-- Why a path cannot be followed, or the file that it leads to cannot be read. -/
inductive ReadFault
  | missing
  | denied
  | notDirectory
  | isDirectory
  | nameTooLong
  | tooManyLinks
  /-- The path holds the character that ends paths. -/
  | nullInPath
  deriving DecidableEq

/-- The text of a read fault for the path that was to be read. -/
def ReadFault.message (fault : ReadFault) (path : String) : String :=
  let cause := match fault with
    | .missing => "[Errno 2] No such file or directory"
    | .denied => "[Errno 13] Permission denied"
    | .notDirectory => "[Errno 20] Not a directory"
    | .isDirectory => "[Errno 21] Is a directory"
    | .nameTooLong => "[Errno 36] File name too long"
    | .tooManyLinks => "[Errno 40] Too many levels of symbolic links"
    | .nullInPath => "embedded null byte"
  cause ++ ": " ++ Text.quoted path

/-- What can be nested deeper than the program can follow. -/
inductive Nesting
  /-- Lists in a JSON text. -/
  | jsonList
  /-- Tables in a JSON text. -/
  | jsonTable
  /-- Nodes of a YAML text. -/
  | yamlNode
  /-- Lists and tables that a message shows. -/
  | shownValue
  /-- Directories below a root that is searched. -/
  | directory
  /-- Links on the way to other links. -/
  | link
  deriving DecidableEq

/-- Why a run breaks off. -/
inductive Breakdown
  /-- The bytes of a file are no text. -/
  | undecodable
  /-- Links on the way to a path lead back to themselves. -/
  | linkLoop (path : String)
  /-- A path holds the character that ends paths. -/
  | nullInPath
  /-- The system does not say what a path leads to. -/
  | refused (fault : ReadFault) (path : String)
  /-- Something is nested too deep. -/
  | tooDeep (nesting : Nesting)
  /-- A path holds code points that cannot stand in a path, at the given place. -/
  | unwritable (place : Nat) (codes : List Nat)
  /-- A text that is marked as a whole number is none of the base. -/
  | notWhole (base : Nat) (text : String)
  /-- A text that is marked as a number is none. -/
  | notNumber (text : String)
  /-- A whole number is written with too many digits. -/
  | tooManyDigits (count : Nat)
  /-- A whole number has too many digits to be written. -/
  | tooLongToWrite
  /-- An escape asks for a code point that does not exist. -/
  | codeTooLarge
  /-- An escape asks for a code point that does not even fit a machine word. -/
  | codeTooWide
  /-- A number in parts of base sixty has too many parts. -/
  | tooManyParts
  /-- A day or a moment does not exist. -/
  | calendar (fault : Calendar.Fault)
  deriving DecidableEq

namespace Breakdown

/-- How a bound on the number of digits is put into words. -/
def digitBound : String :=
  "Exceeds the limit (" ++ toString Number.maxDigits ++ " digits) for integer string conversion"

/-- The advice that goes with a bound on the number of digits. -/
def digitAdvice : String :=
  "; use sys.set_int_max_str_digits() to increase the limit"

/-- How code points at a place are put into words. -/
def placed (place : Nat) : List Nat → String
  | [code] =>
      "character \x27\\u" ++ String.ofList (Text.hexDigits 4 code) ++ "\x27 in position " ++ toString place
  | codes =>
      "characters in position " ++ toString place ++ "-" ++ toString (place + codes.length - 1)

/-- How the program was busy when something turned out to be nested too deep. -/
def busyWith : Nesting → String
  | .jsonList => " while decoding a JSON array from a unicode string"
  | .jsonTable => " while decoding a JSON object from a unicode string"
  | .shownValue => " while getting the repr of an object"
  | _ => ""

/-- The message for a breakdown. -/
def message : Breakdown → String
  | .undecodable => ""
  | .linkLoop path => "Symlink loop from " ++ Text.quoted path
  | .nullInPath => "embedded null byte"
  | .refused fault path => fault.message path
  | .tooDeep nesting => "maximum recursion depth exceeded" ++ busyWith nesting
  | .unwritable place codes =>
      "\x27utf-8\x27 codec can\x27t encode " ++ placed place codes ++ ": surrogates not allowed"
  | .notWhole base text =>
      "invalid literal for int() with base " ++ toString base ++ ": " ++ Text.quoted text
  | .notNumber text => "could not convert string to float: " ++ Text.quoted text
  | .tooManyDigits count => digitBound ++ ": value has " ++ toString count ++ " digits" ++ digitAdvice
  | .tooLongToWrite => digitBound ++ digitAdvice
  | .codeTooLarge => "chr() arg not in range(0x110000)"
  | .codeTooWide => "Python int too large to convert to C int"
  | .tooManyParts => "int too large to convert to float"
  | .calendar fault => fault.message

end Breakdown
end LayerLint
