import LayerLint.Glob
import LayerLint.Package
import LayerLint.Policy
import LayerLint.Specifier
import LayerLint.Tree

/-!
# Walkers

A walker checks one file. It starts out unclassified. If the package of the file is excluded, the
walker is done at once. If the package has no layer, one violation is reported and the walker aborts.
Otherwise every import below the root of the syntax tree is checked in document order, and a violation
does not end the walk.
-/

namespace LayerLint

/-- An import that was found in a file. The specifier is the text as it stands in the file. -/
structure Edge where
  file : String
  start : Int
  stop : Int
  specifier : String
  package : String
  layer : Option String
  deriving DecidableEq

/-- A violation of a policy. Lines count from one and columns from zero. -/
structure Violation where
  file : String
  start : Int
  stop : Int
  line : Int
  column : Int
  rule : String
  message : String
  package : Option String
  deriving DecidableEq

namespace Violation

/-- The rule that every file that is not excluded has a layer. -/
def unclassifiedFile : String := "unclassified_file"

/-- The rule that every imported package has a layer. -/
def unmatchedImport : String := "unmatched_import"

/-- The rule that a file imports only from the layers that its own layer may import from. -/
def forbiddenImport : String := "forbidden_import"

end Violation

/-- How far a walker has come. -/
inductive WalkState
  | unclassified
  | classified
  | aborted
  | done
  deriving DecidableEq

/-- The name of a state. -/
def WalkState.name : WalkState → String
  | .unclassified => "unclassified"
  | .classified => "classified"
  | .aborted => "aborted"
  | .done => "done"

/-- What a walk does after a node. -/
inductive Advance
  | descend
  | stop
  deriving DecidableEq

/-- Why a walker refuses to go on. -/
inductive WalkFault
  | alreadyRan (file : String) (state : WalkState)
  | noLayer
  deriving DecidableEq

/-- The message for a walk fault. -/
def WalkFault.message : WalkFault → String
  | .alreadyRan file state => "walker for " ++ file ++ " already ran (state " ++ state.name ++ ")"
  | .noLayer => ""

/-- A walker for one file. -/
structure Walker where
  policy : Policy
  file : String
  isMatch : Matcher := Glob.isMatch
  state : WalkState := .unclassified
  package : String := ""
  layer : Option String := none
  violations : List Violation := []
  edges : List Edge := []

namespace Walker

/-- Add a violation at a node. -/
def report (walker : Walker) (node : Tree) (rule message : String) (package : Option String) :
    Walker :=
  { walker with
    violations := walker.violations ++
      [{ file := walker.file, start := node.label.start, stop := node.label.stop
         line := node.line, column := node.label.column, rule, message, package }] }

/-- Add an edge for an import. -/
def link (walker : Walker) (node : Tree) (package : String) (layer : Option String) : Walker :=
  { walker with
    edges := walker.edges ++
      [{ file := walker.file, start := node.label.start, stop := node.label.stop
         specifier := node.text, package, layer }] }

/-- Allowed layers as the trace shows them: nothing, or a list in round brackets in which a single
item is followed by a comma. -/
def renderAllowed : Option (List String) → String
  | none => "None"
  | some [name] => "(" ++ Text.quoted name ++ ",)"
  | some names => "(" ++ String.intercalate ", " (names.map Text.quoted) ++ ")"

/-- The package that an import in the file of the walker denotes. -/
def targetOf (walker : Walker) (node : Tree) : String :=
  Specifier.resolve node.text walker.file (some walker.policy.baseDir)

/-- Check an import in a file of the given layer. -/
def checkImport (walker : Walker) (own : String) (node : Tree) : Traced Walker := do
  let policy := walker.policy
  let package := walker.targetOf node
  Traced.trace policy.debug .resolution .walker (walker.package ++ " found import " ++ package)
  let target ← Layer.classify policy.layers walker.isMatch policy.debug package
  let walker := walker.link node package target
  match target with
  | none =>
      pure (walker.report node Violation.unmatchedImport (package ++ " not matched to any layer")
        (some package))
  | some layer =>
      if layer = own then pure walker
      else
        let allowed := policy.allowed? own
        Traced.trace policy.debug .resolution .walker
          ("tested: " ++ walker.package ++ " imported " ++ package ++ " from layer " ++ layer ++
            ", allowed: " ++ renderAllowed allowed)
        if (allowed.getD []).contains layer then pure walker
        else
          pure (walker.report node Violation.forbiddenImport
            ("'" ++ own ++ "' is not allowed to import '" ++ layer ++ "' (" ++ package ++ ")")
            (some package))

/-- Write a node to the trace, with the kinds of the nodes above it. -/
def dump (walker : Walker) (path : String) (node : Tree) : Traced Unit :=
  Traced.trace walker.policy.debug .nodes .walker (path ++ ":" ++ node.kind ++ " " ++ node.text)

/-- Visit a node: check it if it is an import. Only a walker with a classified file visits nodes. -/
def visit (walker : Walker) (parent : Option Tree) (path : String) (node : Tree) :
    Traced (Walker × Except WalkFault Advance) :=
  if walker.state = .classified then
    if Tree.isImport parent node then
      match walker.layer with
      | none => pure (walker, .error .noLayer)
      | some own => do
          let next ← walker.checkImport own node
          next.dump path node
          pure (next, .ok .descend)
    else do
      walker.dump path node
      pure (walker, .ok .descend)
  else pure (walker, .ok .stop)

/-- The children of a node as entries of the agenda of a walk. -/
def agendaOf (path : String) (tree : Tree) : List Tree.Visit :=
  tree.children.map fun child => ⟨tree, path, child⟩

/-- The number of nodes that an agenda stands for. -/
def agendaSize (agenda : List Tree.Visit) : Nat :=
  Tree.sizeAll (agenda.map Tree.Visit.node)

theorem sizeAll_append (trees others : List Tree) :
    Tree.sizeAll (trees ++ others) = Tree.sizeAll trees + Tree.sizeAll others := by
  induction trees with
  | nil => simp [Tree.sizeAll]
  | cons tree trees ih => simp [Tree.sizeAll, ih, Nat.add_assoc]

theorem agendaSize_agendaOf (path : String) (tree : Tree) :
    agendaSize (agendaOf path tree) < tree.size := by
  cases tree with
  | node label children =>
      simp only [agendaSize, agendaOf, Tree.children, List.map_map, Tree.size, Function.comp_def,
        List.map_id']
      exact Nat.lt_succ_self _

/-- Work off an agenda: visit its first node and put the children of that node before the rest. -/
def work (walker : Walker) : List Tree.Visit → Traced (Walker × Except WalkFault Unit)
  | [] => pure (walker, .ok ())
  | entry :: agenda => do
      let result ← walker.visit (some entry.parent) entry.path entry.node
      match result with
      | (next, .error fault) => pure (next, .error fault)
      | (next, .ok .stop) => pure (next, .ok ())
      | (next, .ok .descend) =>
          next.work (agendaOf (entry.path ++ ":" ++ entry.node.kind) entry.node ++ agenda)
termination_by agenda => agendaSize agenda
decreasing_by
  have := agendaSize_agendaOf (entry.path ++ ":" ++ entry.node.kind) entry.node
  simp only [agendaSize, List.map_append, sizeAll_append, List.map_cons, Tree.sizeAll] at this ⊢
  omega

/-- Visit all nodes below a root. -/
def traverse (walker : Walker) (root : Tree) : Traced (Walker × Except WalkFault Unit) :=
  walker.work (agendaOf "" root)

/-- The node that stands for a whole file: the first child of the root, or the root itself. -/
def anchor (root : Tree) : Tree :=
  root.children.headD root

/-- Check a file that is not excluded. -/
def runChecked (walker : Walker) (root : Tree) : Traced (Walker × Except WalkFault Unit) := do
  let policy := walker.policy
  let layer ← Layer.classify policy.layers walker.isMatch policy.debug walker.package
  match layer with
  | none =>
      let walker := walker.report (anchor root) Violation.unclassifiedFile
        ("File not found in layers config and was not excluded. (" ++ walker.package ++ ")") none
      pure ({ walker with state := .aborted, layer := none }, .ok ())
  | some own =>
      let (walker, result) ← { walker with state := .classified, layer := some own }.traverse root
      match result with
      | .error fault => pure (walker, .error fault)
      | .ok () => pure ({ walker with state := .done }, .ok ())

/-- Classify the file and check it. A walker runs only once. -/
def run (walker : Walker) (root : Tree) : Traced (Walker × Except WalkFault Unit) := do
  if walker.state = .unclassified then
    let policy := walker.policy
    let walker := { walker with package := Package.ofFile walker.file (some policy.baseDir) }
    if (← Layer.isExcluded walker.isMatch walker.package policy.excluded) then
      Traced.trace policy.debug .skips .walker
        ("Skipping " ++ walker.file ++ " in package " ++ walker.package ++
          " because it was excluded")
      pure ({ walker with state := .done }, .ok ())
    else walker.runChecked root
  else pure (walker, .error (.alreadyRan walker.file walker.state))

end Walker

/-- Check one file with a new walker: the walker at the end of its run. -/
def checkFile (policy : Policy) (isMatch : Matcher) (file : String) (root : Tree) :
    Traced (Walker × Except WalkFault Unit) :=
  ({ policy, file, isMatch } : Walker).run root

end LayerLint
