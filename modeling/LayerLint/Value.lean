import LayerLint.Breakdown
import LayerLint.Number.Shortest
import LayerLint.Table

/-!
# Values of documents

A document that configures the program is a tree of scalars, lists and tables. The keys of a table
are scalars, and numbers that are equal are one key even when their kinds differ; a truth value
counts as zero or one there. Messages show a value in a notation of its own: `None`, `True`, numbers,
quoted text, `[1, 2]` and `{'a': 1}`.

A list or a table may hold itself. Such a value is a finite tree in which the part that stands for a
list or table around it is given by the mark of that list or table; messages show the part as `[...]`
or `{...}`.
-/

namespace LayerLint

open Number (Double)

/-- A value without parts. -/
inductive Scalar
  | null
  | bool (value : Bool)
  | int (value : Int)
  | float (value : Double)
  | text (value : String)
  /-- Text with code points that are no characters. -/
  | codes (value : List Nat)
  | stamp (value : Calendar.Stamp)
  deriving DecidableEq, Inhabited

/-- A value of a document. -/
inductive Value
  | scalar (value : Scalar)
  | list (items : List Value)
  | table (entries : List (Scalar × Value))
  /-- A list or a table with a mark. -/
  | marked (mark : Nat) (value : Value)
  /-- The list or the table around this place that has the mark. -/
  | again (mark : Nat) (isList : Bool)
  deriving Inhabited

namespace Scalar

/-- The whole number that a scalar equals, if it is a truth value or a whole number. -/
def toInt? : Scalar → Option Int
  | .bool value => some (if value then 1 else 0)
  | .int value => some value
  | _ => none

/-- The text of code points. -/
def ofCodes (codes : List Nat) : Scalar :=
  if codes.all fun code => code.isValidChar then .text (String.ofList (codes.map Char.ofNat))
  else .codes codes

/-- The code points of a scalar, if it is text. -/
def toCodes? : Scalar → Option (List Nat)
  | .text value => some (value.toList.map Char.toNat)
  | .codes value => some value
  | _ => none

/-- Whether two scalars are the same key of a table. -/
def sameKey (first second : Scalar) : Bool :=
  match first, second with
  | .null, .null => true
  | .text left, .text right => left == right
  | .codes left, .codes right => left == right
  | .text left, .codes right => left.toList.map Char.toNat == right
  | .codes left, .text right => left == right.toList.map Char.toNat
  | .stamp left, .stamp right => left.same right
  | .float left, .float right => left.equals right
  | .float left, right => right.toInt?.any left.equalsInt
  | left, .float right => left.toInt?.any right.equalsInt
  | left, right => left.toInt?.isSome && left.toInt? == right.toInt?

/-- Messages write numbers that are not finite as `inf` and `nan`. -/
def spelling : Number.Spelling := ⟨"nan", "inf"⟩

/-- A scalar as messages show it. -/
def render : Scalar → String
  | .null => "None"
  | .bool true => "True"
  | .bool false => "False"
  | .int value => toString value
  | .float value => value.render spelling
  | .text value => Text.quoted value
  | .codes value => Text.quotedCodes value
  | .stamp value => value.render

/-- The code points of a scalar as a name: text stands for itself. -/
def label : Scalar → List Nat
  | .stamp value => value.label.toList.map Char.toNat
  | other => other.toCodes?.getD (other.render.toList.map Char.toNat)

/-- Whether a scalar can be written: whole numbers have a bounded number of digits. -/
def isWritable : Scalar → Bool
  | .int value => value.natAbs < Nat.pow 10 Number.maxDigits
  | _ => true

end Scalar

namespace Value

/-- No value. -/
def null : Value := .scalar .null

/-- A text. -/
def text (value : String) : Value := .scalar (.text value)

/-- How messages show a list or a table inside itself. -/
def ellipsis (isList : Bool) : String :=
  if isList then "[...]" else "\x7b...\x7d"

/-- Whether a value is a list. -/
def isList : Value → Bool
  | .list _ => true
  | _ => false

mutual

/-- A value inside the lists and tables with the given marks, as messages show it. -/
def renderIn (around : List Nat) : Value → String
  | .scalar value => value.render
  | .list items => "[" ++ String.intercalate ", " (renderItems around items) ++ "]"
  | .table entries => "\x7b" ++ String.intercalate ", " (renderEntries around entries) ++ "\x7d"
  | .marked mark value =>
      if around.contains mark then ellipsis value.isList else renderIn (mark :: around) value
  | .again _ isList => ellipsis isList

/-- The items of a list as messages show them. -/
def renderItems (around : List Nat) : List Value → List String
  | [] => []
  | item :: items => renderIn around item :: renderItems around items

/-- The entries of a table as messages show them. -/
def renderEntries (around : List Nat) : List (Scalar × Value) → List String
  | [] => []
  | (key, value) :: entries =>
      (key.render ++ ": " ++ renderIn around value) :: renderEntries around entries

end

/-- A value as messages show it. -/
def render (value : Value) : String :=
  value.renderIn []

/-- The code points of a value, if it is text. -/
def toCodes? : Value → Option (List Nat)
  | .scalar value => value.toCodes?
  | _ => none

mutual

/-- Whether all scalars of a value can be written. -/
def isWritable : Value → Bool
  | .scalar value => value.isWritable
  | .list items => areWritable items
  | .table entries => haveWritable entries
  | .marked _ value => value.isWritable
  | .again _ _ => true

/-- Whether all scalars of several values can be written. -/
def areWritable : List Value → Bool
  | [] => true
  | item :: items => item.isWritable && areWritable items

/-- Whether all scalars of the entries of a table can be written. -/
def haveWritable : List (Scalar × Value) → Bool
  | [] => true
  | (key, value) :: entries => key.isWritable && value.isWritable && haveWritable entries

end

/-- What keeps a message from showing something on a level, if so many levels can be shown: there is no
level left, or what is shown there. -/
def obstacleAt? (levels : Nat) (inner : Option Breakdown) : Option Breakdown :=
  if levels = 0 then some (.tooDeep .shownValue) else inner

/-- What keeps a message from showing a scalar: a whole number may be too long. -/
def scalarObstacle? (levels : Nat) (value : Scalar) : Option Breakdown :=
  obstacleAt? levels (if value.isWritable then none else some .tooLongToWrite)

mutual

/-- What keeps a message from showing a value inside the lists and tables with the given marks, if so many
levels can be shown. The first obstacle counts. -/
def obstacleIn? (around : List Nat) (levels : Nat) : Value → Option Breakdown
  | .scalar value => scalarObstacle? levels value
  | .list items => obstacleAt? levels (itemObstacle? around (levels - 1) items)
  | .table entries => obstacleAt? levels (entryObstacle? around (levels - 1) entries)
  | .marked mark value =>
      if around.contains mark then obstacleAt? levels none else obstacleIn? (mark :: around) levels value
  | .again _ _ => obstacleAt? levels none

/-- What keeps a message from showing the items of a list. -/
def itemObstacle? (around : List Nat) (levels : Nat) : List Value → Option Breakdown
  | [] => none
  | item :: items => (obstacleIn? around levels item).or (itemObstacle? around levels items)

/-- What keeps a message from showing the entries of a table. -/
def entryObstacle? (around : List Nat) (levels : Nat) : List (Scalar × Value) → Option Breakdown
  | [] => none
  | (key, value) :: entries =>
      ((scalarObstacle? levels key).or (obstacleIn? around levels value)).or
        (entryObstacle? around levels entries)

end

/-- What keeps a message from showing a value, if so many levels can be shown. -/
def obstacle? (levels : Nat) (value : Value) : Option Breakdown :=
  value.obstacleIn? [] levels

mutual

/-- Put a value in the places that stand for the list or the table with a mark. -/
def fill (mark : Nat) (whole : Value) : Value → Value
  | .scalar value => .scalar value
  | .list items => .list (fillItems mark whole items)
  | .table entries => .table (fillEntries mark whole entries)
  | .marked other value =>
      if other = mark then .marked other value else .marked other (fill mark whole value)
  | .again other isList => if other = mark then whole else .again other isList

/-- Put a value in the places of several values. -/
def fillItems (mark : Nat) (whole : Value) : List Value → List Value
  | [] => []
  | item :: items => fill mark whole item :: fillItems mark whole items

/-- Put a value in the places of the entries of a table. -/
def fillEntries (mark : Nat) (whole : Value) : List (Scalar × Value) → List (Scalar × Value)
  | [] => []
  | (key, value) :: entries => (key, fill mark whole value) :: fillEntries mark whole entries

end

/-- A value as a scalar, a list or a table: the places in a marked list or table that stand for it are
filled with it. -/
def view : Value → Value
  | .marked mark value => fill mark (.marked mark value) value
  | value => value

/-- The value of a text key in a table. -/
def find? (entries : List (Scalar × Value)) (key : String) : Option Value :=
  (entries.find? fun entry => entry.1 == .text key).map Prod.snd

/-- A table from entries written one after the other. -/
def ofEntries (entries : List (Scalar × Value)) : Value :=
  .table (Table.ofEntries Scalar.sameKey entries)

end Value
end LayerLint
