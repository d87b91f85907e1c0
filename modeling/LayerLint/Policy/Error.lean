import LayerLint.Breakdown
import LayerLint.Value

/-!
# Faults of a configuration

The ways in which a policy can be unusable, with the message for each. The first group is about the
shape of the document, the second about its content.
-/

namespace LayerLint

/-- Where a list of texts stands in a policy document: in a part of it, or under a name in a part. -/
structure ListPlace where
  part : String
  name : Option (List Nat) := none
  deriving DecidableEq

/-- How messages call the place of a list. -/
def ListPlace.text (place : ListPlace) : String :=
  place.part ++ (place.name.map fun name => "." ++ Text.ofCodes name).getD ""

/-- A fault in the shape of a policy document. -/
inductive ShapeFault
  | unreadable (path : String) (fault : ReadFault)
  | malformed (name : String)
  | notTable
  | unknownKeys (keys : List Scalar)
  | bothRuleKeys
  | notNamedLists (part : String)
  | keyNotText (part : String) (key : Scalar)
  | notTextList (place : ListPlace)
  | itemNotText (place : ListPlace) (index : Nat) (item : Value)
  | badDebug (value : Value)
  | badBaseDir (value : Value)

/-- What keeps a fault from being put into words, if messages can show so many levels of a value. -/
def ShapeFault.obstacle? (levels : Nat) : ShapeFault → Option Breakdown
  | .unknownKeys keys => keys.findSome? (Value.scalarObstacle? levels)
  | .keyNotText _ key => Value.scalarObstacle? levels key
  | .itemNotText _ _ item => item.obstacle? levels
  | .badDebug value => value.obstacle? levels
  | .badBaseDir value => value.obstacle? levels
  | _ => none

/-- A fault of a configuration. -/
inductive ConfigFault
  | shape (fault : ShapeFault)
  | missingBaseDir
  | undeclaredLayers (names : List String)

/-- The message for a fault in the shape of a policy document. -/
def ShapeFault.message : ShapeFault → String
  | .unreadable path fault => "cannot read " ++ path ++ ": " ++ fault.message path
  | .malformed name => name ++ " is not valid YAML"
  | .notTable => "policy must be a YAML mapping"
  | .unknownKeys keys =>
      let names := (keys.map Scalar.label).mergeSort fun first second => !second.lex first Nat.blt
      "unknown policy keys: " ++ String.intercalate ", " (names.map Text.ofCodes)
  | .bothRuleKeys => "use either 'rules' or 'allowlist', not both"
  | .notNamedLists part => "'" ++ part ++ "' must be a mapping of names to lists"
  | .keyNotText part key => "'" ++ part ++ "' keys must be strings, got " ++ key.render
  | .notTextList place => place.text ++ " must be a list of strings"
  | .itemNotText place index item =>
      place.text ++ "[" ++ toString index ++ "] must be a string, got " ++ item.render
  | .badDebug value => "'debug' must be a non-negative integer, got " ++ value.render
  | .badBaseDir value => "'base_dir' must be a non-empty string, got " ++ value.render

/-- The message for a fault of a configuration. -/
def ConfigFault.message : ConfigFault → String
  | .shape fault => fault.message
  | .missingBaseDir =>
      "base directory is not configured: set 'base_dir' in the policy " ++
        "or 'compilerOptions.baseUrl' in tsconfig.json"
  | .undeclaredLayers names =>
      "Layer used in rules, but not defined in layers: " ++
        String.intercalate ", " (names.map fun name => "'" ++ name ++ "'")

end LayerLint
