import LayerLint.Breakdown
import LayerLint.Script.Source
import LayerLint.Text.Lowercase

/-!
# Grammars

The extension of a file selects the grammar of its source. Grammars are loaded on demand, and the
outcome of the first attempt for an extension is remembered, a failure no less than a success.
-/

namespace LayerLint

/-- The name of the grammar of a dialect. -/
def Script.Dialect.name : Script.Dialect → String
  | .plain => "typescript"
  | .markup => "tsx"

namespace Grammar

/-- The supported extensions in alphabetical order, each with the dialect of its files. -/
def extensions : List (String × Script.Dialect) :=
  [(".cjs", .markup), (".cts", .plain), (".js", .markup), (".jsx", .markup), (".mjs", .markup),
    (".mts", .plain), (".ts", .plain), (".tsx", .markup)]

/-- The dialect of the files with an extension in lower case. -/
def dialectOf? (extension : String) : Option Script.Dialect :=
  extensions.lookup extension

/-- Whether an extension is supported, in whatever case. -/
def isSupported (extension : String) : Bool :=
  (dialectOf? (Text.lower extension)).isSome

/-- The source of a script: bytes, or a text that is given by its code points. -/
inductive Source
  | bytes (content : List UInt8)
  | text (codes : List Nat)
  deriving DecidableEq

/-- Why there is no syntax tree of a source. -/
inductive Fault
  /-- There is no grammar for the files with an extension. -/
  | missing (extension : String)
  /-- The text of the source holds code points that are no characters, at the given place. -/
  | unwritable (place : Nat) (codes : List Nat)
  deriving DecidableEq

/-- The text of a fault. -/
def Fault.message : Fault → String
  | .missing extension => "no parser available for '" ++ extension ++ "' files"
  | .unwritable place codes => (Breakdown.unwritable place codes).message

/-- The bytes of a source. Code points that are no characters have none. -/
def Source.encode : Source → Except Fault (List UInt8)
  | .bytes content => .ok content
  | .text codes =>
      let characters := codes.takeWhile Text.Utf8.isCharacter
      match codes.dropWhile Text.Utf8.isCharacter with
      | [] => .ok (Text.Utf8.encode (String.ofList (characters.map Char.ofNat)))
      | rest =>
          .error (.unwritable characters.length (rest.takeWhile fun code => !Text.Utf8.isCharacter code))

/-- The outcomes of loading grammars, by extension in lower case. -/
structure Cache where
  outcomes : List (String × Option Script.Dialect) := []
  /-- Whether grammars can be loaded at present. -/
  loadable : Bool := true
  deriving DecidableEq

namespace Cache

/-- Look up the grammar for an extension, and load it if that was not tried before. -/
def get (cache : Cache) (extension : String) : Option Script.Dialect × Cache :=
  let key := Text.lower extension
  match cache.outcomes.lookup key with
  | some outcome => (outcome, cache)
  | none =>
      let outcome := if cache.loadable then dialectOf? key else none
      (outcome, { cache with outcomes := (key, outcome) :: cache.outcomes })

/-- Forget all outcomes. -/
def clear (cache : Cache) : Cache :=
  { cache with outcomes := [] }

/-- The syntax tree of a source in the grammar for an extension. -/
def parse (cache : Cache) (extension : String) (source : Source) : Except Fault Tree × Cache :=
  match cache.get extension with
  | (some dialect, next) => (source.encode.map (Script.tree dialect), next)
  | (none, next) => (.error (.missing extension), next)

end Cache

/-- The syntax tree of a source in the grammar for an extension. -/
def parse (extension : String) (source : Source) : Except Fault Tree :=
  (Cache.parse {} extension source).1

end Grammar
end LayerLint
