import LayerLint.Proofs.Classification
import LayerLint.Walker

/-!
# The walk of a classified file

A walker with a classified file works off an agenda of nodes and puts the children of each node before
the rest. This file shows that the agenda visits exactly the proper descendants of the root, each once
and in document order, and reads off what a run leaves behind: one edge for every import, and one
violation for every import that has no layer or a layer that the rules do not permit.
-/

namespace LayerLint

namespace Tree

def Visit.isImport (visit : Visit) : Bool :=
  Tree.isImport (some visit.parent) visit.node

/-- A visited node and the nodes below it, in document order. -/
def Visit.spread (visit : Visit) : List Visit :=
  visit :: visits (visit.path ++ ":" ++ visit.node.kind) visit.node

/-- The imports among the visited nodes, in the same order. -/
def importsOf (visits : List Visit) : List Tree :=
  (visits.filter Visit.isImport).map Visit.node

theorem importsOf_append (first second : List Visit) :
    importsOf (first ++ second) = importsOf first ++ importsOf second := by
  rw [importsOf, List.filter_append, List.map_append]
  rfl

theorem visitsAll_eq_flatMap (parent : Tree) (path : String) (children : List Tree) :
    visitsAll parent path children =
      (children.map fun child => Visit.mk parent path child).flatMap Visit.spread := by
  induction children with
  | nil => rfl
  | cons child rest ih =>
      rw [List.map_cons, List.flatMap_cons, ← ih]
      rfl

theorem visits_eq_flatMap (path : String) (tree : Tree) :
    visits path tree = (Walker.agendaOf path tree).flatMap Visit.spread := by
  cases tree with
  | node label children => exact visitsAll_eq_flatMap (.node label children) path children

/-- The nodes of an agenda are the first one and those that are left when its children take its place. -/
theorem flatMap_spread_cons (entry : Visit) (agenda : List Visit) :
    (entry :: agenda).flatMap Visit.spread =
      entry :: (Walker.agendaOf (entry.path ++ ":" ++ entry.node.kind) entry.node ++ agenda).flatMap
        Visit.spread := by
  rw [List.flatMap_cons, List.flatMap_append, ← visits_eq_flatMap]
  rfl

end Tree

namespace Policy

def packageOf (policy : Policy) (file : String) : String :=
  Package.ofFile file (some policy.baseDir)

/-- A package is excluded when one of the excluded patterns matches it. -/
def Excludes (policy : Policy) (isMatch : Matcher) (package : String) : Prop :=
  ∃ pattern ∈ policy.excluded, isMatch package pattern = true

def layerOf? (policy : Policy) (isMatch : Matcher) (package : String) : Option String :=
  (Layer.classify policy.layers isMatch policy.debug package).value

/-- A layer may import from itself and from the layers that the rules list for it. -/
def Permits (policy : Policy) (own target : String) : Prop :=
  target = own ∨ ∃ targets, policy.allowed? own = some targets ∧ target ∈ targets

theorem permits_iff (policy : Policy) (own target : String) :
    policy.Permits own target ↔ target = own ∨ target ∈ (policy.allowed? own).getD [] := by
  cases allowed : policy.allowed? own <;> simp [Permits, allowed]

instance (policy : Policy) (own target : String) : Decidable (policy.Permits own target) :=
  decidable_of_iff' _ (policy.permits_iff own target)

theorem value_isExcluded_iff (policy : Policy) (isMatch : Matcher) (package : String) :
    (Layer.isExcluded isMatch package policy.excluded).value = true ↔
      policy.Excludes isMatch package := by
  rw [Layer.value_isExcluded, List.any_eq_true]
  rfl

end Policy

/-- The edge that an import of a file stands for. -/
def Edge.ofImport (policy : Policy) (isMatch : Matcher) (file : String) (node : Tree) : Edge :=
  let package := Specifier.resolve node.text file (some policy.baseDir)
  { file, start := node.label.start, stop := node.label.stop, specifier := node.text, package
    layer := policy.layerOf? isMatch package }

namespace Violation

def atImport (node : Tree) (edge : Edge) (rule message : String) : Violation :=
  { file := edge.file, start := node.label.start, stop := node.label.stop, line := node.line
    column := node.label.column, rule, message, package := some edge.package }

/-- The violation at an import, if there is one: its package has no layer, or the layer of the file
may not import from the layer of the package. -/
def ofImport (policy : Policy) (own : String) (node : Tree) (edge : Edge) : Option Violation :=
  match edge.layer with
  | none =>
      some (atImport node edge unmatchedImport (edge.package ++ " not matched to any layer"))
  | some target =>
      if policy.Permits own target then none
      else
        some (atImport node edge forbiddenImport
          ("'" ++ own ++ "' is not allowed to import '" ++ target ++ "' (" ++ edge.package ++ ")"))

/-- The violation of a file without a layer, placed at the first child of the root, or at the root
itself if it has no children. -/
def ofFile (policy : Policy) (file : String) (root : Tree) : Violation :=
  let place := match root.children with
    | first :: _ => first.label
    | [] => root.label
  { file, start := place.start, stop := place.stop, line := place.row + 1, column := place.column
    rule := "unclassified_file"
    message := "File not found in layers config and was not excluded. (" ++
      policy.packageOf file ++ ")"
    package := none }

end Violation

namespace Walker

def extend (walker : Walker) (edges : List Edge) (violations : List Violation) : Walker :=
  { walker with
    edges := walker.edges ++ edges
    violations := walker.violations ++ violations }

@[simp] theorem extend_nil (walker : Walker) : walker.extend [] [] = walker := by
  simp [extend]

def edgesFor (walker : Walker) (imports : List Tree) : List Edge :=
  imports.map (Edge.ofImport walker.policy walker.isMatch walker.file)

def violationsFor (walker : Walker) (own : String) (imports : List Tree) : List Violation :=
  imports.filterMap fun node =>
    Violation.ofImport walker.policy own node
      (Edge.ofImport walker.policy walker.isMatch walker.file node)

theorem link_eq_extend (walker : Walker) (node : Tree) :
    walker.link node (walker.targetOf node)
        (walker.policy.layerOf? walker.isMatch (walker.targetOf node)) =
      walker.extend (walker.edgesFor [node]) [] := by
  simp [link, extend, edgesFor, Edge.ofImport, targetOf]

theorem violationsFor_singleton (walker : Walker) (own : String) (node : Tree) :
    walker.violationsFor own [node] =
      (Violation.ofImport walker.policy own node
        (Edge.ofImport walker.policy walker.isMatch walker.file node)).toList := by
  rw [violationsFor, List.filterMap_cons]
  split
  next unreported => rw [unreported, List.filterMap_nil, Option.toList_none]
  next violation reported => rw [reported, List.filterMap_nil, Option.toList_some]

theorem value_checkImport (walker : Walker) (own : String) (node : Tree) :
    (walker.checkImport own node).value =
      walker.extend (walker.edgesFor [node]) (walker.violationsFor own [node]) := by
  have linked := walker.link_eq_extend node
  have classified : (Layer.classify walker.policy.layers walker.isMatch walker.policy.debug
      (walker.targetOf node)).value =
        walker.policy.layerOf? walker.isMatch (walker.targetOf node) := rfl
  have edgeLayer : (Edge.ofImport walker.policy walker.isMatch walker.file node).layer =
      walker.policy.layerOf? walker.isMatch (walker.targetOf node) := rfl
  simp only [checkImport, Traced.value_bind, classified, violationsFor_singleton]
  cases found : walker.policy.layerOf? walker.isMatch (walker.targetOf node) with
  | none =>
      rw [found] at linked edgeLayer
      simp only [Violation.ofImport, edgeLayer, linked]
      simp [report, extend, Violation.atImport, Edge.ofImport, targetOf]
  | some target =>
      rw [found] at linked edgeLayer
      simp only [Violation.ofImport, edgeLayer, linked, walker.policy.permits_iff]
      by_cases same : target = own
      · simp [same]
      · by_cases listed : target ∈ (walker.policy.allowed? own).getD []
        · simp [same, listed]
        · simp [same, listed, report, extend, Violation.atImport, Edge.ofImport, targetOf]

/-- The check of one node by a walker whose file has the given layer. -/
def inspect (own : String) (walker : Walker) (visit : Tree.Visit) : Traced Walker := do
  let next ← if visit.isImport then walker.checkImport own visit.node else pure walker
  next.dump visit.path visit.node
  pure next

theorem visit_eq_inspect (walker : Walker) (own : String) (visit : Tree.Visit)
    (classified : walker.state = .classified) (layered : walker.layer = some own) :
    walker.visit (some visit.parent) visit.path visit.node = (do
      let next ← walker.inspect own visit
      pure (next, .ok .descend)) := by
  by_cases imported : visit.isImport = true
  · have isImport : Tree.isImport (some visit.parent) visit.node = true := imported
    simp [Walker.visit, inspect, classified, layered, imported, isImport]
  · have notImport : ¬ Tree.isImport (some visit.parent) visit.node = true := imported
    simp [Walker.visit, inspect, classified, imported, notImport]

theorem value_inspect (own : String) (walker : Walker) (visit : Tree.Visit) :
    (inspect own walker visit).value =
      walker.extend (walker.edgesFor (Tree.importsOf [visit]))
        (walker.violationsFor own (Tree.importsOf [visit])) := by
  by_cases imported : visit.isImport = true
  · simp [inspect, Tree.importsOf, imported, value_checkImport]
  · simp [inspect, Tree.importsOf, imported, edgesFor, violationsFor]

/-- A classified walker works off its agenda by inspecting, in document order, the nodes of the agenda
and all nodes below them. It never stops early and never fails. -/
theorem work_eq_foldlM (walker : Walker) (own : String) (agenda : List Tree.Visit)
    (classified : walker.state = .classified) (layered : walker.layer = some own) :
    walker.work agenda = (do
      let next ← (agenda.flatMap Tree.Visit.spread).foldlM (inspect own) walker
      pure (next, .ok ())) := by
  fun_induction work walker agenda with
  | case1 walker => simp
  | case2 walker entry agenda ih =>
      rw [Tree.flatMap_spread_cons, List.foldlM_cons,
        visit_eq_inspect walker own entry classified layered]
      simp only [bind_assoc, pure_bind]
      -- The equation for the rest holds only of walkers that are still classified.
      apply Traced.bind_congr
      apply ih
      · rw [value_inspect]
        exact classified
      · rw [value_inspect]
        exact layered

theorem value_foldlM_inspect (own : String) (visits : List Tree.Visit) (walker : Walker) :
    (visits.foldlM (inspect own) walker).value =
      walker.extend (walker.edgesFor (Tree.importsOf visits))
        (walker.violationsFor own (Tree.importsOf visits)) := by
  induction visits generalizing walker with
  | nil => simp [Tree.importsOf, edgesFor, violationsFor]
  | cons visit visits ih =>
      have imports := Tree.importsOf_append [visit] visits
      rw [List.singleton_append] at imports
      rw [List.foldlM_cons, Traced.value_bind, ih, value_inspect, imports]
      simp [extend, edgesFor, violationsFor]

theorem value_traverse (walker : Walker) (own : String) (root : Tree)
    (classified : walker.state = .classified) (layered : walker.layer = some own) :
    (walker.traverse root).value =
      (walker.extend (walker.edgesFor (Tree.importsOf root.preorder))
        (walker.violationsFor own (Tree.importsOf root.preorder)), .ok ()) := by
  rw [traverse, work_eq_foldlM walker own _ classified layered, ← Tree.visits_eq_flatMap,
    Traced.value_bind, value_foldlM_inspect]
  rfl

/-- A walker that has not run yet. -/
def fresh (policy : Policy) (isMatch : Matcher) (file : String) : Walker :=
  { policy, file, isMatch }

/-- What is left after the run of a walker: the state it ends in, the layer of its file, and the edges
and violations that were found. -/
def settled (policy : Policy) (isMatch : Matcher) (file : String) (state : WalkState)
    (layer : Option String) (edges : List Edge) (violations : List Violation) : Walker :=
  { policy, file, isMatch, state, package := policy.packageOf file, layer, violations, edges }

theorem value_run_of_excludes (policy : Policy) (isMatch : Matcher) (file : String) (root : Tree)
    (excluded : policy.Excludes isMatch (policy.packageOf file)) :
    ((fresh policy isMatch file).run root).value =
      (settled policy isMatch file .done none [] [], .ok ()) := by
  have test := (policy.value_isExcluded_iff isMatch (policy.packageOf file)).mpr excluded
  rw [Policy.packageOf] at test
  simp only [run, fresh, Traced.value_bind, test, if_true]
  rfl

theorem value_run_of_no_layer (policy : Policy) (isMatch : Matcher) (file : String) (root : Tree)
    (included : ¬ policy.Excludes isMatch (policy.packageOf file))
    (unclassified : policy.layerOf? isMatch (policy.packageOf file) = none) :
    ((fresh policy isMatch file).run root).value =
      (settled policy isMatch file .aborted none [] [Violation.ofFile policy file root], .ok ()) := by
  have test := mt (policy.value_isExcluded_iff isMatch (policy.packageOf file)).mp included
  rw [Policy.packageOf] at test
  rw [Policy.layerOf?, Policy.packageOf] at unclassified
  simp only [run, fresh, Traced.value_bind, test, if_true, Bool.false_eq_true, if_false, runChecked,
    unclassified]
  -- The violation stands at the first child, so that the two kinds of roots differ.
  obtain ⟨label, children⟩ := root
  cases children with
  | nil => rfl
  | cons first others => rfl

theorem value_run_of_layer (policy : Policy) (isMatch : Matcher) (file own : String) (root : Tree)
    (included : ¬ policy.Excludes isMatch (policy.packageOf file))
    (layered : policy.layerOf? isMatch (policy.packageOf file) = some own) :
    ((fresh policy isMatch file).run root).value =
      (settled policy isMatch file .done (some own)
        ((fresh policy isMatch file).edgesFor (Tree.importsOf root.preorder))
        ((fresh policy isMatch file).violationsFor own (Tree.importsOf root.preorder)), .ok ()) := by
  have test := mt (policy.value_isExcluded_iff isMatch (policy.packageOf file)).mp included
  rw [Policy.packageOf] at test
  rw [Policy.layerOf?, Policy.packageOf] at layered
  simp only [run, fresh, Traced.value_bind, test, if_true, Bool.false_eq_true, if_false, runChecked,
    layered]
  rw [value_traverse _ own root rfl rfl]
  rfl

end Walker

/-- The check of a file ends in one of three ways, and never with a fault. -/
theorem checkFile_cases (policy : Policy) (isMatch : Matcher) (file : String) (root : Tree) :
    (policy.Excludes isMatch (policy.packageOf file) ∧
      (checkFile policy isMatch file root).value =
        (Walker.settled policy isMatch file .done none [] [], .ok ())) ∨
    (¬ policy.Excludes isMatch (policy.packageOf file) ∧
      policy.layerOf? isMatch (policy.packageOf file) = none ∧
      (checkFile policy isMatch file root).value =
        (Walker.settled policy isMatch file .aborted none [] [Violation.ofFile policy file root],
          .ok ())) ∨
    ∃ own, ¬ policy.Excludes isMatch (policy.packageOf file) ∧
      policy.layerOf? isMatch (policy.packageOf file) = some own ∧
      (checkFile policy isMatch file root).value =
        (Walker.settled policy isMatch file .done (some own)
          ((Walker.fresh policy isMatch file).edgesFor (Tree.importsOf root.preorder))
          ((Walker.fresh policy isMatch file).violationsFor own (Tree.importsOf root.preorder)),
          .ok ()) := by
  by_cases excluded : policy.Excludes isMatch (policy.packageOf file)
  · exact .inl ⟨excluded, Walker.value_run_of_excludes policy isMatch file root excluded⟩
  · cases layered : policy.layerOf? isMatch (policy.packageOf file) with
    | none =>
        exact .inr (.inl ⟨excluded, rfl,
          Walker.value_run_of_no_layer policy isMatch file root excluded layered⟩)
    | some own =>
        exact .inr (.inr ⟨own, excluded, rfl,
          Walker.value_run_of_layer policy isMatch file own root excluded layered⟩)

section Found

variable {policy : Policy} {isMatch : Matcher} {file : String} {root : Tree}

theorem edge_of_mem_checkFile {edge : Edge}
    (member : edge ∈ (checkFile policy isMatch file root).value.1.edges) :
    edge.package = Specifier.resolve edge.specifier file (some policy.baseDir) ∧
      edge.layer = policy.layerOf? isMatch edge.package := by
  obtain ⟨-, ended⟩ | ⟨-, -, ended⟩ | ⟨own, -, -, ended⟩ := checkFile_cases policy isMatch file root
  · rw [ended] at member
    exact absurd member List.not_mem_nil
  · rw [ended] at member
    exact absurd member List.not_mem_nil
  · rw [ended] at member
    obtain ⟨node, -, rfl⟩ := List.mem_map.mp member
    exact ⟨rfl, rfl⟩

/-- A violation is that of a file without a layer, or it is found at an import. -/
theorem violation_of_mem_checkFile {violation : Violation}
    (member : violation ∈ (checkFile policy isMatch file root).value.1.violations) :
    violation = .ofFile policy file root ∨
      ∃ own node, (checkFile policy isMatch file root).value.1.layer = some own ∧
        Violation.ofImport policy own node (.ofImport policy isMatch file node) = some violation := by
  obtain ⟨-, ended⟩ | ⟨-, -, ended⟩ | ⟨own, -, -, ended⟩ := checkFile_cases policy isMatch file root
  · rw [ended] at member
    exact absurd member List.not_mem_nil
  · rw [ended] at member
    exact .inl (List.mem_singleton.mp member)
  · rw [ended] at member ⊢
    obtain ⟨node, -, found⟩ := List.mem_filterMap.mp member
    exact .inr ⟨own, node, rfl, found⟩

end Found

/-- The check of a file that has a layer and is not excluded ends without a fault. Its edges are the
imports among the proper descendants of the root in document order, and its violations are, in the same
order, those of the imports that have no layer or a layer that the layer of the file may not import
from. -/
theorem checkFile_checks_imports_in_document_order (policy : Policy) (isMatch : Matcher)
    (file own : String) (root : Tree)
    (included : ¬ policy.Excludes isMatch (policy.packageOf file))
    (layered : policy.layerOf? isMatch (policy.packageOf file) = some own) :
    let imports := (root.preorder.filter fun visit =>
      Tree.isImport (some visit.parent) visit.node).map Tree.Visit.node
    ∃ walker, (checkFile policy isMatch file root).value = (walker, .ok ()) ∧
      walker.edges = imports.map (Edge.ofImport policy isMatch file) ∧
      walker.violations = imports.filterMap fun node =>
        Violation.ofImport policy own node (Edge.ofImport policy isMatch file node) :=
  ⟨_, Walker.value_run_of_layer policy isMatch file own root included layered, rfl, rfl⟩

/-- A file with an import from its own layer, a forbidden one further down in the tree, and one that
has no layer. -/
theorem checkFile_checks_three_imports :
    let policy : Policy :=
      { baseDir := "/p", layers := [⟨"upper", ["a/*"]⟩, ⟨"lower", ["b"]⟩]
        rules := [("lower", ["upper"])], excluded := ["z"] }
    let specifier (text : String) (start : Int) : Tree :=
      .node { kind := "string", content := Text.Utf8.encode text, start
              stop := start + (Text.Utf8.encode text).length, field := some "source" } []
    let root : Tree :=
      .node { kind := "program" }
        [.node { kind := "import_statement" } [specifier "'./y'" 7],
          .node { kind := "statement_block" }
            [.node { kind := "export_statement" } [specifier "'../b'" 30]],
          .node { kind := "import_statement" } [specifier "'c'" 50]]
    ¬ policy.Excludes Glob.isMatch (policy.packageOf "/p/a/x.ts") ∧
      policy.layerOf? Glob.isMatch (policy.packageOf "/p/a/x.ts") = some "upper" ∧
      ∃ walker, (checkFile policy Glob.isMatch "/p/a/x.ts" root).value = (walker, .ok ()) ∧
        walker.edges.map (fun edge => (edge.start, edge.package, edge.layer)) =
          [(7, "a/y", some "upper"), (30, "b", some "lower"), (50, "c", none)] ∧
        walker.violations.map (fun violation => (violation.start, violation.rule)) =
          [(30, "forbidden_import"), (50, "unmatched_import")] := by
  intro policy specifier root
  have included : ¬ policy.Excludes Glob.isMatch (policy.packageOf "/p/a/x.ts") := by
    rw [← policy.value_isExcluded_iff]
    decide +kernel
  have layered : policy.layerOf? Glob.isMatch (policy.packageOf "/p/a/x.ts") = some "upper" := by
    decide +kernel
  obtain ⟨walker, ended, edges, violations⟩ :=
    checkFile_checks_imports_in_document_order policy Glob.isMatch "/p/a/x.ts" "upper" root
      included layered
  refine ⟨included, layered, walker, ended, ?_, ?_⟩
  · rw [edges]
    decide +kernel
  · rw [violations]
    decide +kernel

end LayerLint
