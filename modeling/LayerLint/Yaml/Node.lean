import LayerLint.Yaml.Tag

/-!
# Nodes of documents

A document is a tree of scalars, lists and tables, each with a tag. A list or table inside itself is
given by the mark of the list or table around it. The value of a document is found in three steps. The
tables under merge keys are taken over, behind which a table's own entries have their say. Then the
nodes are looked at level by level, from the root down, for the first fault. Then the value is built.
-/

namespace LayerLint
namespace Yaml

/-- A node of a document. -/
inductive Node
  | scalar (tag : Tag) (codes : List Nat)
  | list (mark : Nat) (tag : Tag) (items : List Node)
  | table (mark : Nat) (tag : Tag) (entries : List (Node × Node))
  /-- The list or table around this place that has the mark. -/
  | again (mark : Nat) (isList : Bool)
  /-- A table that was to take over entries from something that is no table. -/
  | unmergeable
  deriving Inhabited

namespace Node

/-- A node without text. -/
def empty : Node := .scalar .null []

/-- Whether a node is the key under which tables are taken over. -/
def isMerge : Node → Bool
  | .scalar tag _ => tag == .merge
  | _ => false

/-- A node as a key: the key of a default value is text. -/
def asKey : Node → Node
  | .scalar .default codes => .scalar .text codes
  | node => node

mutual

/-- Whether a node holds a place that stands for a list or table around it. -/
def isCyclic : Node → Bool
  | .scalar _ _ => false
  | .list _ _ items => anyCyclic items
  | .table _ _ entries => anyEntryCyclic entries
  | .again _ _ => true
  | .unmergeable => false

/-- Whether one of several nodes holds such a place. -/
def anyCyclic : List Node → Bool
  | [] => false
  | node :: nodes => node.isCyclic || anyCyclic nodes

/-- Whether one of several entries holds such a place. -/
def anyEntryCyclic : List (Node × Node) → Bool
  | [] => false
  | (key, value) :: entries => key.isCyclic || value.isCyclic || anyEntryCyclic entries

end

mutual

/-- The number of levels of a node. -/
def depth : Node → Nat
  | .list _ _ items => depthOfAll items + 1
  | .table _ _ entries => depthOfEntries entries + 1
  | _ => 1

/-- The largest number of levels of several nodes. -/
def depthOfAll : List Node → Nat
  | [] => 0
  | node :: nodes => max node.depth (depthOfAll nodes)

/-- The largest number of levels of the values of entries. -/
def depthOfEntries : List (Node × Node) → Nat
  | [] => 0
  | (_, value) :: entries => max value.depth (depthOfEntries entries)

end

/-- The entries that a table takes over from another one. It takes over nothing from a table around
it. -/
def entries? : Node → Option (List (Node × Node))
  | .table _ _ entries => some entries
  | .again _ false => some []
  | _ => none

/-- The entries that a table takes over from a node under a merge key: those of a table, or those of
several tables, of which the first prevails; in a list of entries the last prevails. -/
def taken? : Node → Option (List (Node × Node))
  | .list _ _ items => (items.mapM entries?).map fun tables => tables.reverse.flatten
  | node => node.entries?

mutual

/-- A node in which tables have taken over the entries under their merge keys. -/
def merged : Node → Node
  | .scalar tag codes => .scalar tag codes
  | .list mark tag items => .list mark tag (mergedAll items)
  | .table mark tag entries =>
      match mergedEntries entries with
      | some (taken, own) => .table mark tag (taken ++ own)
      | none => .unmergeable
  | .again mark isList => .again mark isList
  | .unmergeable => .unmergeable

/-- Several nodes in which tables have taken over entries. -/
def mergedAll : List Node → List Node
  | [] => []
  | node :: nodes => node.merged :: mergedAll nodes

/-- The entries that a table takes over, and its own. -/
def mergedEntries : List (Node × Node) → Option (List (Node × Node) × List (Node × Node))
  | [] => some ([], [])
  | (key, value) :: entries => do
      let (taken, own) ← mergedEntries entries
      if key.isMerge then
        let first ← value.merged.taken?
        some (first ++ taken, own)
      else some (taken, (key.asKey, value.merged) :: own)

end

/-- Look at a node, and find out whether its parts are to be looked at on the next level. -/
def glance (node : Node) : Attempt (List Node) :=
  match node with
  | .scalar .list _ => .ok [node]
  | .scalar .table _ => .ok [node]
  | .scalar tag codes => (scalarValue tag codes).map fun _ => []
  | .list _ tag _ => if tag = .list ∨ tag = .table then .ok [node] else refuse
  | .table _ tag _ => if tag = .list ∨ tag = .table then .ok [node] else refuse
  | .again _ _ => .ok []
  | .unmergeable => .ok [node]

/-- Look at a node that is a key: only scalars are keys. -/
def glanceKey (node : Node) : Attempt Unit :=
  match node with
  | .scalar tag codes => (scalarValue tag codes).map fun _ => ()
  | _ => refuse

/-- Look at several nodes in order. -/
def glanceAll : List Node → Attempt (List Node)
  | [] => .ok []
  | node :: nodes => do
      let first ← node.glance
      let rest ← glanceAll nodes
      pure (first ++ rest)

/-- Look at several entries in order, each key before its value. -/
def glanceEntries : List (Node × Node) → Attempt (List Node)
  | [] => .ok []
  | (key, value) :: entries => do
      key.glanceKey
      let first ← value.glance
      let rest ← glanceEntries entries
      pure (first ++ rest)

/-- Look at the parts of a list or table. -/
def inspect : Node → Attempt (List Node)
  | .list _ .list items => glanceAll items
  | .table _ .table entries => glanceEntries entries
  | _ => refuse

/-- Look at the parts of several lists and tables. -/
def inspectAll : List Node → Attempt (List Node)
  | [] => .ok []
  | node :: nodes => do
      let first ← node.inspect
      let rest ← inspectAll nodes
      pure (first ++ rest)

/-- Look at nodes level by level. The number bounds the levels. -/
def inspectLevels : Nat → List Node → Attempt Unit
  | 0, _ => .ok ()
  | levels + 1, nodes => do
      let next ← inspectAll nodes
      inspectLevels levels next

/-- Look at a whole document for its first fault. -/
def check (node : Node) : Attempt Unit := do
  let parts ← node.glance
  inspectLevels node.depth parts

/-- The scalar of a node that is one. -/
def scalarOf : Node → Scalar
  | .scalar tag codes => (scalarValue tag codes).toOption.getD .null
  | _ => .null

/-- Whether two scalars are the same key: as elsewhere, and what is no number is one key here. -/
def sameKey (first second : Scalar) : Bool :=
  first.sameKey second || (first == .float .nan && second == .float .nan)

/-- A list or table with its mark, if the document needs marks. -/
def withMark (marks : Bool) (mark : Nat) (value : Value) : Value :=
  if marks then .marked mark value else value

mutual

/-- The value of a node without faults. -/
def value (marks : Bool) : Node → Value
  | .scalar tag codes => .scalar (scalarOf (.scalar tag codes))
  | .list mark _ items => withMark marks mark (.list (values marks items))
  | .table mark _ entries =>
      withMark marks mark (.table (Table.ofEntries sameKey (entryValues marks entries)))
  | .again mark isList => .again mark isList
  | .unmergeable => .null

/-- The values of several nodes. -/
def values (marks : Bool) : List Node → List Value
  | [] => []
  | node :: nodes => value marks node :: values marks nodes

/-- The keys and values of several entries. -/
def entryValues (marks : Bool) : List (Node × Node) → List (Scalar × Value)
  | [] => []
  | (key, node) :: entries => (key.scalarOf, value marks node) :: entryValues marks entries

end

/-- The value of a document. -/
def toValue (node : Node) : Attempt Value := do
  let merged := node.merged
  merged.check
  pure (merged.value merged.isCyclic)

mutual

/-- Put other nodes in the places that stand for lists and tables around the node. Inside, the marks of
lists and tables of the node itself stay. -/
def close (known : Nat → Option Node) (inside : List Nat) : Node → Node
  | .scalar tag codes => .scalar tag codes
  | .list mark tag items => .list mark tag (closeAll known (mark :: inside) items)
  | .table mark tag entries => .table mark tag (closeEntries known (mark :: inside) entries)
  | .again mark isList =>
      if inside.contains mark then .again mark isList else (known mark).getD (.again mark isList)
  | .unmergeable => .unmergeable

/-- Put other nodes in the places of several nodes. -/
def closeAll (known : Nat → Option Node) (inside : List Nat) : List Node → List Node
  | [] => []
  | node :: nodes => close known inside node :: closeAll known inside nodes

/-- Put other nodes in the places of several entries. -/
def closeEntries (known : Nat → Option Node) (inside : List Nat) :
    List (Node × Node) → List (Node × Node)
  | [] => []
  | (key, value) :: entries =>
      (close known inside key, close known inside value) :: closeEntries known inside entries

end

end Node
end Yaml
end LayerLint
