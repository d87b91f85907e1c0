import LayerLint.Yaml.Plain

/-!
# Tags

A tag says what kind of value a node is. A scalar without quotes and without a tag is tagged by its
spelling. The value of a scalar follows from its tag; not every text has a value under every tag.
-/

namespace LayerLint
namespace Yaml

/-- The kind of value that a node is. -/
inductive Tag
  | null
  | bool
  | int
  | float
  | stamp
  | text
  | list
  | table
  /-- The key under which the entries of other tables are taken over. -/
  | merge
  /-- The key of a default value; it is text as a key and stands for nothing elsewhere. -/
  | default
  | unknown
  deriving DecidableEq, Inhabited

namespace Tag

/-- What the names of the usual tags begin with. -/
def usualStart : List Char := "tag:yaml.org,2002:".toList

/-- The usual tags, by what comes behind their common beginning. -/
def usual : List (List Char × Tag) :=
  [("null".toList, .null), ("bool".toList, .bool), ("int".toList, .int), ("float".toList, .float),
    ("timestamp".toList, .stamp), ("str".toList, .text), ("seq".toList, .list),
    ("map".toList, .table), ("merge".toList, .merge), ("value".toList, .default)]

/-- The tag with a name. -/
def ofName (name : List Char) : Tag :=
  if usualStart.isPrefixOf name then (usual.lookup (name.drop usualStart.length)).getD .unknown
  else .unknown

/-- The tag of a scalar by its spelling. -/
def ofSpelling (text : List Char) : Tag :=
  if Plain.isTrue text || Plain.isFalse text then .bool
  else if Plain.isFloat text then .float
  else if Plain.isInt text then .int
  else if text == ['<', '<'] then .merge
  else if Plain.isNull text then .null
  else if (Calendar.stamp? true text).isSome then .stamp
  else if text == ['='] then .default
  else .text

/-- The tag of a node without quotes that may have the name of a tag. The name `!` leaves the choice to
the spelling. -/
def orSpelling (name : Option (List Char)) (text : List Char) : Tag :=
  match name with
  | none => ofSpelling text
  | some ['!'] => ofSpelling text
  | some name => ofName name

/-- The tag of a list or a table that may have the name of a tag. -/
def orElse (name : Option (List Char)) (tag : Tag) : Tag :=
  match name with
  | none => tag
  | some ['!'] => tag
  | some name => ofName name

end Tag

/-- The value of a text that is tagged as a truth value. -/
def boolValue (text : List Char) : Attempt Scalar :=
  let lower := text.map Char.toLower
  if Plain.isTrue lower then .ok (.bool true)
  else if Plain.isFalse lower then .ok (.bool false)
  else refuse

/-- The value of a text that is tagged as a day or a moment. -/
def stampValue (text : List Char) : Attempt Scalar :=
  match Calendar.stamp? false text with
  | none => refuse
  | some stamp =>
      match stamp.fault? with
      | none => .ok (.stamp stamp)
      | some fault => .error (.breakdown (.calendar fault))

/-- The value of a scalar with a tag. -/
def scalarValue (tag : Tag) (codes : List Nat) : Attempt Scalar :=
  let text := codes.map Char.ofNat
  match tag with
  | .null => .ok .null
  | .bool => boolValue text
  | .int => (Plain.intValue text).map .int
  | .float => (Plain.floatValue text).map .float
  | .stamp => stampValue text
  | .text => .ok (.ofCodes codes)
  | _ => refuse

end Yaml
end LayerLint
