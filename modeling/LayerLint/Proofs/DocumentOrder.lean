import Mathlib.Data.List.Chain
import LayerLint.Proofs.Traversal

/-!
# Document order

The nodes of a syntax tree take up spans of the file. If the spans of the children of every node lie one
behind the other inside the span of their parent, the walk of a file comes across its nodes in the order
of their first bytes, and so edges and violations come in this order too. Two imports start at different
bytes unless one of them is empty or lies inside the other.
-/

namespace LayerLint

/-- The span of the second label runs forward and is a part of the span of the first one. -/
structure Label.Covers (outer inner : Label) : Prop where
  start : outer.start ≤ inner.start
  runsForward : inner.start ≤ inner.stop
  stop : inner.stop ≤ outer.stop

theorem Label.Covers.trans {outer middle inner : Label} (first : outer.Covers middle)
    (second : middle.Covers inner) : outer.Covers inner :=
  ⟨Int.le_trans first.start second.start, second.runsForward, Int.le_trans second.stop first.stop⟩

namespace Tree

/-- No span ends before it starts, the spans of the children of a node lie inside its own span, and each
child ends before the next one starts. -/
inductive IsLaidOut : Tree → Prop
  | node {label : Label} {children : List Tree} (runsForward : label.start ≤ label.stop)
      (inside : ∀ child ∈ children,
        label.start ≤ child.label.start ∧ child.label.stop ≤ label.stop)
      (apart : children.IsChain fun child next => child.label.stop ≤ next.label.start)
      (below : ∀ child ∈ children, IsLaidOut child) :
      IsLaidOut (.node label children)

/-- The nodes below a visited node. -/
def Visit.below (visit : Visit) : List Visit :=
  visits (visit.path ++ ":" ++ visit.node.kind) visit.node

/-- One node starts no later than another one that is visited after it, and it ends before the other one
starts unless the other one lies below it. -/
structure Visit.Precedes (first second : Visit) : Prop where
  start : first.node.label.start ≤ second.node.label.start
  apart : first.node.label.stop ≤ second.node.label.start ∨ second ∈ first.below

section LaidOut

variable {tree : Tree} {children : List Tree} {visit : Visit} {path : String}

theorem IsLaidOut.runsForward (laidOut : tree.IsLaidOut) : tree.label.start ≤ tree.label.stop := by
  cases laidOut with
  | node runsForward inside apart below => exact runsForward

theorem mem_visits_iff :
    visit ∈ visits path tree ↔
      ∃ child ∈ tree.children, visit ∈ Visit.spread ⟨tree, path, child⟩ := by
  simp [visits_eq_flatMap, Walker.agendaOf]

/-- Of siblings that are laid out, each one ends before all later ones start. -/
theorem pairwise_of_isChain
    (apart : children.IsChain fun child next => child.label.stop ≤ next.label.start)
    (laidOut : ∀ child ∈ children, child.IsLaidOut) :
    children.Pairwise fun child later => child.label.stop ≤ later.label.start := by
  induction children with
  | nil => exact .nil
  | cons child rest ih =>
      have restApart := ih apart.of_cons fun other member =>
        laidOut other (List.mem_cons_of_mem child member)
      refine .cons (fun later member => ?_) restApart
      cases rest with
      | nil => exact absurd member List.not_mem_nil
      | cons next others =>
          have first : child.label.stop ≤ next.label.start := apart.rel
          rcases List.mem_cons.mp member with rfl | member
          · exact first
          · have behind := List.rel_of_pairwise_cons restApart member
            have forward := (laidOut next (by simp)).runsForward
            omega

/-- The span of a tree covers the spans of all nodes below its root. -/
theorem IsLaidOut.covers (laidOut : tree.IsLaidOut) :
    ∀ visit ∈ visits path tree, tree.label.Covers visit.node.label := by
  induction laidOut generalizing path with
  | @node label children runsForward inside apart below ih =>
      intro visit member
      obtain ⟨child, isChild, member⟩ := mem_visits_iff.mp member
      have here : label.Covers child.label :=
        ⟨(inside child isChild).1, (below child isChild).runsForward, (inside child isChild).2⟩
      rcases List.mem_cons.mp member with rfl | member
      · exact here
      · exact here.trans (ih child isChild visit member)

theorem IsLaidOut.covers_spread (laidOut : visit.node.IsLaidOut) :
    ∀ inner ∈ visit.spread, visit.node.label.Covers inner.node.label := by
  intro inner member
  rcases List.mem_cons.mp member with rfl | member
  · exact ⟨Int.le_refl _, laidOut.runsForward, Int.le_refl _⟩
  · exact laidOut.covers inner member

/-- The walk of a tree comes across its nodes in the order of their first bytes. -/
theorem IsLaidOut.pairwise_visits (laidOut : tree.IsLaidOut) :
    (visits path tree).Pairwise Visit.Precedes := by
  induction laidOut generalizing path with
  | @node label children runsForward inside apart below ih =>
      rw [visits_eq_flatMap, Walker.agendaOf, List.pairwise_flatMap]
      constructor
      · intro visit member
        obtain ⟨child, isChild, rfl⟩ := List.mem_map.mp member
        refine .cons (fun inner isBelow => ⟨?_, .inr isBelow⟩) (ih child isChild)
        exact ((below child isChild).covers inner isBelow).start
      · rw [List.pairwise_map]
        refine (pairwise_of_isChain apart below).imp_of_mem ?_
        intro child later isChild isLater separate first firstMember second secondMember
        have firstCovers := IsLaidOut.covers_spread (below child isChild) first firstMember
        have secondCovers := IsLaidOut.covers_spread (below later isLater) second secondMember
        have ends : first.node.label.stop ≤ second.node.label.start :=
          Int.le_trans firstCovers.stop (Int.le_trans separate secondCovers.start)
        exact ⟨Int.le_trans firstCovers.runsForward ends, .inl ends⟩

theorem IsLaidOut.pairwise_imports (laidOut : tree.IsLaidOut) :
    (importsOf tree.preorder).Pairwise fun first second =>
      first.label.start ≤ second.label.start := by
  rw [importsOf, List.pairwise_map]
  exact (laidOut.pairwise_visits.filter _).imp fun precedes => precedes.start

/-- Imports that are not empty and do not lie inside each other start at different bytes. -/
theorem IsLaidOut.pairwise_lt_imports (laidOut : tree.IsLaidOut)
    (nonempty : ∀ visit ∈ tree.preorder, visit.isImport = true →
      visit.node.label.start < visit.node.label.stop)
    (unnested : ∀ visit ∈ tree.preorder, visit.isImport = true →
      ∀ inner ∈ visit.below, inner.isImport = false) :
    (importsOf tree.preorder).Pairwise fun first second =>
      first.label.start < second.label.start := by
  rw [importsOf, List.pairwise_map]
  refine (laidOut.pairwise_visits.filter _).imp_of_mem ?_
  intro first second firstMember secondMember precedes
  obtain ⟨firstMember, firstImport⟩ := List.mem_filter.mp firstMember
  obtain ⟨-, secondImport⟩ := List.mem_filter.mp secondMember
  rcases precedes.apart with ends | isBelow
  · exact Int.lt_of_lt_of_le (nonempty first firstMember firstImport) ends
  · have notImport := unnested first firstMember firstImport second isBelow
    rw [notImport] at secondImport
    exact absurd secondImport (by decide)

end LaidOut

end Tree

theorem Violation.start_ofImport {policy : Policy} {own : String} {node : Tree} {edge : Edge}
    {violation : Violation} (found : ofImport policy own node edge = some violation) :
    violation.start = node.label.start := by
  unfold ofImport at found
  split at found
  · rw [← Option.some.inj found]
    rfl
  · split_ifs at found
    rw [← Option.some.inj found]
    rfl

/-- The violations and the edges of a file start in whatever order the imports of its tree start in. -/
theorem pairwise_start_checkFile {inOrder : Int → Int → Prop} (policy : Policy) (isMatch : Matcher)
    (file : String) {root : Tree}
    (imports : (Tree.importsOf root.preorder).Pairwise fun first second =>
      inOrder first.label.start second.label.start) :
    ∃ walker, (checkFile policy isMatch file root).value = (walker, .ok ()) ∧
      (walker.violations.map Violation.start).Pairwise inOrder ∧
      (walker.edges.map Edge.start).Pairwise inOrder := by
  obtain ⟨-, ended⟩ | ⟨-, -, ended⟩ | ⟨own, -, -, ended⟩ := checkFile_cases policy isMatch file root
  · exact ⟨_, ended, .nil, .nil⟩
  · exact ⟨_, ended, List.pairwise_singleton _ _, .nil⟩
  · refine ⟨_, ended, ?_, ?_⟩
    · rw [List.pairwise_map]
      refine List.pairwise_filterMap.mpr (imports.imp ?_)
      intro first second ordered violation found other otherFound
      rw [Violation.start_ofImport found, Violation.start_ofImport otherFound]
      exact ordered
    · rw [List.pairwise_map]
      exact List.pairwise_map.mpr imports

/-- In a tree that is laid out, the violations and the edges of a file come in the order of their first
bytes. No two of them start at the same byte if no import is empty and none lies below another one. -/
theorem checkFile_reports_in_order_of_first_bytes (policy : Policy) (isMatch : Matcher)
    (file : String) (root : Tree) (laidOut : root.IsLaidOut) :
    ∃ walker, (checkFile policy isMatch file root).value = (walker, .ok ()) ∧
      (walker.violations.map Violation.start).Pairwise (· ≤ ·) ∧
      (walker.edges.map Edge.start).Pairwise (· ≤ ·) ∧
      ((∀ visit ∈ root.preorder, visit.isImport = true →
          visit.node.label.start < visit.node.label.stop) →
        (∀ visit ∈ root.preorder, visit.isImport = true →
          ∀ inner ∈ visit.below, inner.isImport = false) →
        (walker.violations.map Violation.start).Pairwise (· < ·) ∧
          (walker.edges.map Edge.start).Pairwise (· < ·)) := by
  obtain ⟨walker, ended, violations, edges⟩ :=
    pairwise_start_checkFile policy isMatch file laidOut.pairwise_imports
  refine ⟨walker, ended, violations, edges, fun nonempty unnested => ?_⟩
  obtain ⟨other, sameEnd, strictly⟩ :=
    pairwise_start_checkFile policy isMatch file (laidOut.pairwise_lt_imports nonempty unnested)
  obtain rfl : other = walker := congrArg Prod.fst (sameEnd.symm.trans ended)
  exact strictly

/-- A forbidden import inside a block that stands between an import from the own layer and one that has
no layer. -/
theorem checkFile_reports_nested_import_in_order :
    let policy : Policy :=
      { baseDir := "/p", layers := [⟨"upper", ["a/*"]⟩, ⟨"lower", ["b"]⟩] }
    let specifier (text : String) (start : Int) : Tree :=
      .node { kind := "string", content := Text.Utf8.encode text, start
              stop := start + (Text.Utf8.encode text).length, field := some "source" } []
    let block : Tree :=
      .node { kind := "statement_block", start := 13, stop := 40 }
        [.node { kind := "export_statement", start := 20, stop := 38 }
          [specifier "'../b'" 30]]
    let root : Tree :=
      .node { kind := "program", start := 0, stop := 60 }
        [.node { kind := "import_statement", start := 0, stop := 13 } [specifier "'./y'" 7],
          block, .node { kind := "import_statement", start := 41, stop := 54 } [specifier "'c'" 50]]
    root.IsLaidOut ∧
      ∃ walker, (checkFile policy Glob.isMatch "/p/a/x.ts" root).value = (walker, .ok ()) ∧
        (walker.violations.map Violation.start).Pairwise (· < ·) ∧
        (walker.edges.map Edge.start).Pairwise (· < ·) ∧
        walker.edges.map Edge.start = [7, 30, 50] := by
  intro policy specifier block root
  have leaf (text : String) (start : Int) : (specifier text start).IsLaidOut := by
    have forward : start ≤ start + (Text.Utf8.encode text).length := by omega
    exact .node forward (by simp) .nil (by simp)
  have blockLaidOut : block.IsLaidOut := by
    refine .node (by decide) (by decide) (.singleton _) (List.forall_mem_singleton.mpr ?_)
    exact .node (by decide) (by decide +kernel) (.singleton _) (List.forall_mem_singleton.mpr (leaf _ _))
  have laidOut : root.IsLaidOut := by
    refine .node (by decide) (by decide) (by decide) ?_
    simp only [List.forall_mem_cons]
    refine ⟨?_, blockLaidOut, ?_, by simp⟩
    · exact .node (by decide) (by decide +kernel) (.singleton _) (List.forall_mem_singleton.mpr (leaf _ _))
    · exact .node (by decide) (by decide +kernel) (.singleton _) (List.forall_mem_singleton.mpr (leaf _ _))
  obtain ⟨walker, ended, -, -, strictly⟩ :=
    checkFile_reports_in_order_of_first_bytes policy Glob.isMatch "/p/a/x.ts" root laidOut
  obtain ⟨violations, edges⟩ := strictly (by decide +kernel) (by decide +kernel)
  refine ⟨laidOut, walker, ended, violations, edges, ?_⟩
  have starts : (checkFile policy Glob.isMatch "/p/a/x.ts" root).value.1.edges.map Edge.start =
      [7, 30, 50] := by decide +kernel
  rw [ended] at starts
  exact starts

end LayerLint
