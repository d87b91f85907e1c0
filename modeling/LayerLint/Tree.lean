import LayerLint.Text.Quoted
import LayerLint.Text.Utf8

/-!
# Syntax trees

A syntax tree is a label with subtrees. A label holds the kind of a node, its bytes, its place in the
file and the part that it plays in its parent. A module specifier is the string that plays the part of
the source in an import or export statement, or the string of a required module.
-/

namespace LayerLint

/-- What a syntax tree says about one node. -/
structure Label where
  kind : String
  content : List UInt8 := []
  start : Int := 0
  stop : Int := 0
  row : Int := 0
  column : Int := 0
  field : Option String := none
  deriving DecidableEq, Inhabited

/-- A syntax tree. -/
inductive Tree
  | node (label : Label) (children : List Tree)
  deriving Inhabited

namespace Tree

/-- The label of the root of a tree. -/
def label : Tree → Label
  | .node label _ => label

/-- The subtrees directly below the root. -/
def children : Tree → List Tree
  | .node _ children => children

/-- The kind of the root. -/
def kind (tree : Tree) : String :=
  tree.label.kind

/-- The text of the root; bytes that are no text show as replacement characters. -/
def text (tree : Tree) : String :=
  String.ofList (Text.Utf8.decodeLenient tree.label.content)

/-- The line of the root, counted from one. -/
def line (tree : Tree) : Int :=
  tree.label.row + 1

/-- The kind and the span of the root, as a short description. -/
def describe (tree : Tree) : String :=
  Text.quoted tree.kind ++ ", " ++ toString tree.label.start ++ ".." ++ toString tree.label.stop

/-- The first child that plays a part. -/
def child? (tree : Tree) (field : String) : Option Tree :=
  tree.children.find? fun child => child.label.field == some field

/-- The kinds of statements whose source is a module specifier. -/
def isSourceStatement (kind : String) : Bool :=
  kind == "import_statement" || kind == "export_statement"

/-- Whether two nodes take up the same bytes. -/
def sameSpan (first second : Tree) : Bool :=
  first.label.start == second.label.start && first.label.stop == second.label.stop

/-- Whether a tree below the given parent is the text of a module specifier. -/
def isImport (parent : Option Tree) (tree : Tree) : Bool :=
  match parent with
  | none => false
  | some parent =>
      tree.kind == "string" &&
        (parent.kind == "import_require_clause" ||
          (isSourceStatement parent.kind && (parent.child? "source").any (sameSpan tree)))

mutual

/-- The number of nodes of a tree. -/
def size : Tree → Nat
  | .node _ children => sizeAll children + 1

/-- The number of nodes of several trees. -/
def sizeAll : List Tree → Nat
  | [] => 0
  | tree :: trees => tree.size + sizeAll trees

end

/-- A node as a walk comes across it: its parent, and the kinds of the nodes between the root of the
walk and the node, each behind a colon. -/
structure Visit where
  parent : Tree
  path : String
  node : Tree

mutual

/-- The nodes below a tree, each before the nodes below itself and after its elder siblings. -/
def visits (path : String) : Tree → List Visit
  | .node label children => visitsAll (.node label children) path children

/-- The given children of a node and the nodes below them. -/
def visitsAll (parent : Tree) (path : String) : List Tree → List Visit
  | [] => []
  | child :: rest =>
      ⟨parent, path, child⟩ :: (visits (path ++ ":" ++ child.kind) child ++ visitsAll parent path rest)

end

/-- The proper descendants of a tree in document order. -/
def preorder (tree : Tree) : List Visit :=
  visits "" tree

/-- The nodes of a tree in document order, the root included, each with its parent. -/
def nodes (tree : Tree) : List (Option Tree × Tree) :=
  (none, tree) :: tree.preorder.map fun visit => (some visit.parent, visit.node)

/-- The module specifiers of a tree in document order. -/
def imports (tree : Tree) : List Tree :=
  (tree.nodes.filter fun entry => isImport entry.1 entry.2).map Prod.snd

/-- The subtree reached by child numbers, with its parent. -/
def descend? (parent : Option Tree) (tree : Tree) : List Nat → Option (Option Tree × Tree)
  | [] => some (parent, tree)
  | index :: path => (tree.children[index]?).bind fun child => descend? (some tree) child path

end Tree
end LayerLint
