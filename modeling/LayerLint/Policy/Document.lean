import LayerLint.Policy.Error
import LayerLint.Text.Blank

/-!
# Policy documents

The shape of a policy document: a table with the keys `layers`, `rules` or `allowlist`, `excluded`,
`debug` and `base_dir`, each of which may be absent or empty. The first fault that is found, in the
order in which the keys are looked at, is reported.
-/

namespace LayerLint
namespace Policy

/-- The parts of a policy as a document states them, with the code points of its texts. The base directory
may be left to the compiler options. -/
structure Document where
  layers : List (List Nat × List (List Nat))
  rules : List (List Nat × List (List Nat))
  excluded : List (List Nat)
  debug : Int
  baseDir : Option (List Nat)

namespace Document

/-- The keys that a policy document may have. -/
def knownKeys : List String :=
  ["layers", "rules", "allowlist", "excluded", "debug", "base_dir"]

/-- The texts of a list of values that are all texts; `index` counts the items passed. -/
def texts (place : ListPlace) : Nat → List Value → Except ShapeFault (List (List Nat))
  | _, [] => .ok []
  | index, item :: items =>
      match item.toCodes? with
      | some text => do
          let rest ← texts place (index + 1) items
          pure (text :: rest)
      | none => .error (.itemNotText place index item)

/-- A list of texts; nothing at all is an empty list. -/
def textList (place : ListPlace) (value : Value) : Except ShapeFault (List (List Nat)) :=
  match value.view with
  | .scalar .null => .ok []
  | .list items => texts place 0 items
  | _ => .error (.notTextList place)

/-- The entries of a table whose keys are texts and whose values are lists of texts. -/
def namedLists (part : String) :
    List (Scalar × Value) → Except ShapeFault (List (List Nat × List (List Nat)))
  | [] => .ok []
  | (key, value) :: entries =>
      match key.toCodes? with
      | some name => do
          let items ← textList ⟨part, name⟩ value
          let rest ← namedLists part entries
          pure ((name, items) :: rest)
      | none => .error (.keyNotText part key)

/-- A table of named lists; nothing at all is an empty table. -/
def namedListTable (part : String) (value : Value) :
    Except ShapeFault (List (List Nat × List (List Nat))) :=
  match value.view with
  | .scalar .null => .ok []
  | .table entries => namedLists part entries
  | _ => .error (.notNamedLists part)

/-- A debug number; nothing at all counts as zero. -/
def debugNumber : Value → Except ShapeFault Int
  | .scalar .null => .ok 0
  | .scalar (.int (.ofNat number)) => .ok number
  | other => .error (.badDebug other)

/-- A base directory that is not blank, or nothing at all. -/
def baseDirectory : Value → Except ShapeFault (Option (List Nat))
  | .scalar .null => .ok none
  | .scalar scalar =>
      match scalar.toCodes? with
      | some codes =>
          if codes.all fun code => Text.isBlank (Char.ofNat code) then
            .error (.badBaseDir (.scalar scalar))
          else .ok (some codes)
      | none => .error (.badBaseDir (.scalar scalar))
  | other => .error (.badBaseDir other)

/-- Whether a policy document has a key. -/
def isKnown (key : Scalar) : Bool :=
  knownKeys.any fun name => key == .text name

/-- The keys of a table that a policy document does not have. -/
def unknownKeys (entries : List (Scalar × Value)) : List Scalar :=
  (entries.map Prod.fst).filter fun key => !isKnown key

/-- The value of a key, with nothing at all for an absent one. -/
def part (entries : List (Scalar × Value)) (key : String) : Value :=
  (Value.find? entries key).getD .null

/-- The key of the rules: the alternative one if the document has it. -/
def rulesKey (entries : List (Scalar × Value)) : String :=
  if (Value.find? entries "allowlist").isSome then "allowlist" else "rules"

/-- Read a table as a policy document. -/
def ofEntries (entries : List (Scalar × Value)) : Except ShapeFault Document := do
  if unknownKeys entries ≠ [] then throw (.unknownKeys (unknownKeys entries))
  if (Value.find? entries "rules").isSome && (Value.find? entries "allowlist").isSome then
    throw .bothRuleKeys
  let layers ← namedListTable "layers" (part entries "layers")
  let rules ← namedListTable (rulesKey entries) (part entries (rulesKey entries))
  let excluded ← textList ⟨"excluded", none⟩ (part entries "excluded")
  let debug ← debugNumber (part entries "debug")
  let baseDir ← baseDirectory (part entries "base_dir")
  pure { layers, rules, excluded, debug, baseDir }

/-- Read a value as a policy document; nothing at all is an empty document. -/
def ofValue (value : Value) : Except ShapeFault Document :=
  match value.view with
  | .scalar .null => ofEntries []
  | .table entries => ofEntries entries
  | _ => .error .notTable

end Document
end Policy
end LayerLint
