import LayerLint.Proofs.NodeAddresses

/-!
# Module specifiers

Whether a string names a module is decided by comparing spans: it has to take up the same bytes as the
first child of its statement that plays the part of the source. A node of a tree is given here by the child
numbers that lead to it. If no two siblings have the same span, equal spans among the children of a
statement mean the same child number, and the test picks out the source itself.
-/

namespace LayerLint
namespace Tree

/-- No two children of a node take up the same bytes, and neither do any further down. -/
inductive HasApartSiblings : Tree → Prop
  | node {label : Label} {children : List Tree}
      (apart : children.Pairwise fun first second =>
        (first.label.start, first.label.stop) ≠ (second.label.start, second.label.stop))
      (below : ∀ child ∈ children, HasApartSiblings child) :
      HasApartSiblings (.node label children)

/-- A child number belongs to the first child that plays a part. -/
structure IsFirstChild (tree : Tree) (field : String) (index : Nat) : Prop where
  plays : ∃ child, tree.children[index]? = some child ∧ child.label.field = some field
  first : ∀ earlier < index, ∀ child, tree.children[earlier]? = some child →
    child.label.field ≠ some field

/-- The children of a node that name a module if they are strings: every child of a clause that requires
one, and the source of an import or export statement. -/
def HoldsSpecifierAt (statement : Tree) (index : Nat) : Prop :=
  statement.kind = "import_require_clause" ∨
    (statement.kind = "import_statement" ∨ statement.kind = "export_statement") ∧
      statement.IsFirstChild "source" index

section Paths

variable {tree node : Tree} {parent beyond : Option Tree} {path : List Nat}

theorem descend?_concat (parent : Option Tree) (tree : Tree) (path : List Nat) (index : Nat) :
    descend? parent tree (path ++ [index]) = (descend? parent tree path).bind fun entry =>
      (entry.2.children[index]?).map fun child => (some entry.2, child) := by
  induction path generalizing parent tree with
  | nil =>
      rw [List.nil_append, descend?, descend?, Option.bind_some]
      cases tree.children[index]? <;> rfl
  | cons first path ih =>
      rw [List.cons_append, descend?, descend?, Option.bind_assoc]
      simp only [ih]

/-- The root has no number and no parent, and any other node is a child of the one above it. -/
theorem descend?_eq_some_iff :
    descend? none tree path = some (parent, node) ↔
      (path = [] ∧ parent = none ∧ node = tree) ∨
        ∃ above index beyond statement, path = above ++ [index] ∧ parent = some statement ∧
          descend? none tree above = some (beyond, statement) ∧
          statement.children[index]? = some node := by
  rcases List.eq_nil_or_concat' path with rfl | ⟨above, index, rfl⟩
  · have atRoot : descend? none tree [] = some (parent, node) ↔ parent = none ∧ node = tree := by
      rw [descend?, Option.some.injEq, Prod.mk.injEq, eq_comm, @eq_comm _ tree]
    rw [atRoot]
    simp
  · rw [descend?_concat]
    constructor
    · intro reached
      obtain ⟨⟨beyond, statement⟩, upTo, reached⟩ := Option.bind_eq_some_iff.mp reached
      obtain ⟨child, isChild, same⟩ := Option.map_eq_some_iff.mp reached
      cases same
      exact .inr ⟨above, index, beyond, statement, rfl, rfl, upTo, isChild⟩
    · rintro (⟨empty, -, -⟩ | ⟨other, last, beyond, statement, same, rfl, upTo, isChild⟩)
      · exact absurd empty (List.concat_ne_nil _ _)
      · obtain ⟨rfl, rfl⟩ := List.append_singleton_inj.mp same
        rw [upTo, Option.bind_some, isChild]
        rfl

theorem HasApartSiblings.of_descend? (apart : tree.HasApartSiblings)
    (reached : descend? parent tree path = some (beyond, node)) : node.HasApartSiblings := by
  induction path generalizing tree parent with
  | nil =>
      cases reached
      exact apart
  | cons index path ih =>
      obtain ⟨child, isChild, reached⟩ := Option.bind_eq_some_iff.mp reached
      cases apart with
      | node apart below => exact ih (below child (List.mem_of_getElem? isChild)) reached

/-- The nodes that the walk of a tree comes across are those that child numbers lead to. -/
theorem mem_nodes_iff {entry : Option Tree × Tree} :
    entry ∈ tree.nodes ↔ ∃ path, descend? none tree path = some entry := by
  rw [nodes, List.mem_cons, List.mem_map]
  constructor
  · rintro (rfl | ⟨visit, member, rfl⟩)
    · exact ⟨[], rfl⟩
    · obtain ⟨path, isAt⟩ := exists_isAt_of_mem_preorder member
      exact ⟨path, isAt.reached⟩
  · rintro ⟨path, reached⟩
    cases path with
    | nil =>
        cases reached
        exact .inl rfl
    | cons index path =>
        have nonempty : index :: path ≠ [] := List.cons_ne_nil index path
        obtain ⟨visit, member, isAt⟩ := exists_mem_preorder_of_descend? nonempty reached
        exact .inr ⟨visit, member, Option.some.inj (isAt.reached.symm.trans reached)⟩

end Paths

section Children

variable {statement first second : Tree} {field : String} {index other : Nat}

theorem IsFirstChild.unique (isFirst : statement.IsFirstChild field index)
    (also : statement.IsFirstChild field other) : index = other := by
  obtain ⟨child, isChild, plays⟩ := isFirst.plays
  obtain ⟨otherChild, isOther, otherPlays⟩ := also.plays
  rcases Nat.lt_trichotomy index other with before | same | behind
  · exact absurd plays (also.first index before child isChild)
  · exact same
  · exact absurd otherPlays (isFirst.first other behind otherChild isOther)

theorem child?_eq_some_iff {child : Tree} :
    statement.child? field = some child ↔
      ∃ index, statement.children[index]? = some child ∧ statement.IsFirstChild field index := by
  rw [child?, List.find?_eq_some_iff_getElem]
  constructor
  · rintro ⟨plays, index, bound, rfl, first⟩
    have isChild : statement.children[index]? = some statement.children[index] :=
      List.getElem?_eq_getElem bound
    refine ⟨index, isChild, ⟨_, isChild, by simpa using plays⟩, ?_⟩
    intro earlier before child isEarlier
    obtain ⟨inside, rfl⟩ := List.getElem?_eq_some_iff.mp isEarlier
    simpa using first earlier before
  · rintro ⟨index, isChild, isFirst⟩
    obtain ⟨bound, rfl⟩ := List.getElem?_eq_some_iff.mp isChild
    obtain ⟨child, sameChild, plays⟩ := isFirst.plays
    rw [isChild] at sameChild
    cases sameChild
    refine ⟨by simpa using plays, index, bound, rfl, ?_⟩
    intro earlier before
    have unlike := isFirst.first earlier before _ (List.getElem?_eq_getElem (by omega))
    simpa using unlike

/-- Among siblings with different spans, a child is given by the bytes that it takes up. -/
theorem HasApartSiblings.eq_of_sameSpan (apart : statement.HasApartSiblings)
    (isFirst : statement.children[index]? = some first)
    (isSecond : statement.children[other]? = some second) (same : sameSpan first second = true) :
    index = other := by
  cases apart with
  | node apart below =>
      rw [List.pairwise_iff_getElem] at apart
      obtain ⟨bound, rfl⟩ := List.getElem?_eq_some_iff.mp isFirst
      obtain ⟨otherBound, rfl⟩ := List.getElem?_eq_some_iff.mp isSecond
      rw [sameSpan, Bool.and_eq_true, beq_iff_eq, beq_iff_eq] at same
      rcases Nat.lt_trichotomy index other with before | equal | behind
      · exact absurd (Prod.ext same.1 same.2) (apart index other bound otherBound before)
      · exact equal
      · exact absurd (Prod.ext same.1.symm same.2.symm) (apart other index otherBound bound behind)

/-- In an import or export statement only the source names a module. -/
theorem HoldsSpecifierAt.isFirstChild (holds : statement.HoldsSpecifierAt index)
    (isStatement : statement.kind = "import_statement" ∨ statement.kind = "export_statement") :
    statement.IsFirstChild "source" index := by
  rcases holds with isClause | ⟨-, isFirst⟩
  · rw [isClause] at isStatement
    exact absurd isStatement (by decide)
  · exact isFirst

theorem isSourceStatement_iff (kind : String) :
    isSourceStatement kind = true ↔ kind = "import_statement" ∨ kind = "export_statement" := by
  simp [isSourceStatement]

/-- Among siblings with different spans, the strings that name a module are those in the place for it. -/
theorem HasApartSiblings.isImport_iff (apart : statement.HasApartSiblings)
    (isChild : statement.children[index]? = some first) :
    isImport (some statement) first = true ↔
      first.kind = "string" ∧ statement.HoldsSpecifierAt index := by
  rw [isImport, Bool.and_eq_true, beq_iff_eq, Bool.or_eq_true, beq_iff_eq, Bool.and_eq_true,
    isSourceStatement_iff, HoldsSpecifierAt]
  refine and_congr_right fun _ => or_congr_right (and_congr_right fun _ => ?_)
  rw [Option.any_eq_true]
  constructor
  · rintro ⟨source, found, same⟩
    obtain ⟨place, isSource, isFirst⟩ := child?_eq_some_iff.mp found
    rw [apart.eq_of_sameSpan isChild isSource same]
    exact isFirst
  · intro isFirst
    exact ⟨first, child?_eq_some_iff.mpr ⟨index, isChild, isFirst⟩, by simp [sameSpan]⟩

end Children

/-- In a tree whose siblings have different spans, a node that child numbers lead to names a module exactly
if it is a string in a place for one: below a clause that requires a module, or as the first child that
plays the part of the source in an import or export statement. So no two children of such a statement name
modules, and the root never does. These nodes are all that the walk of the tree comes across. -/
theorem isImport_picks_module_specifiers (tree : Tree) (apart : tree.HasApartSiblings) :
    (∀ path parent node, descend? none tree path = some (parent, node) →
      (isImport parent node = true ↔
        node.kind = "string" ∧ ∃ above index statement, path = above ++ [index] ∧
          parent = some statement ∧ statement.HoldsSpecifierAt index)) ∧
    (∀ path beyond statement, descend? none tree path = some (beyond, statement) →
      statement.kind = "import_statement" ∨ statement.kind = "export_statement" →
      ∀ (index other : Nat) (first second : Tree),
        statement.children[index]? = some first → isImport (some statement) first = true →
        statement.children[other]? = some second → isImport (some statement) second = true →
        index = other) ∧
    ∀ entry, entry ∈ tree.nodes ↔ ∃ path, descend? none tree path = some entry := by
  refine ⟨?_, ?_, fun entry => mem_nodes_iff⟩
  · intro path parent node reached
    rcases descend?_eq_some_iff.mp reached with
      ⟨rfl, rfl, rfl⟩ | ⟨above, index, beyond, statement, rfl, rfl, upTo, isChild⟩
    · simp [isImport]
    · rw [(apart.of_descend? upTo).isImport_iff isChild]
      refine and_congr_right fun _ => ⟨fun holds => ⟨above, index, statement, rfl, rfl, holds⟩, ?_⟩
      rintro ⟨other, last, same, samePath, sameParent, holds⟩
      obtain ⟨rfl, rfl⟩ := List.append_singleton_inj.mp samePath
      cases sameParent
      exact holds
  · intro path beyond statement reached isStatement index other first second isFirst firstImport
      isSecond secondImport
    have siblings := apart.of_descend? reached
    obtain ⟨-, holds⟩ := (siblings.isImport_iff isFirst).mp firstImport
    obtain ⟨-, alsoHolds⟩ := (siblings.isImport_iff isSecond).mp secondImport
    exact (holds.isFirstChild isStatement).unique (alsoHolds.isFirstChild isStatement)

/-- Of two strings that play the part of the source only the first names a module, and a string that plays
no part does not. -/
theorem isImport_picks_first_of_two_sources :
    let text (start : Int) (field : Option String) : Tree :=
      .node { kind := "string", start, stop := start + 3, field } []
    let statement : Tree :=
      .node { kind := "export_statement", start := 0, stop := 30 }
        [text 5 none, text 10 (some "source"), text 20 (some "source")]
    let root : Tree := .node { kind := "program", start := 0, stop := 30 } [statement]
    root.HasApartSiblings ∧
      descend? none root [0, 1] = some (some statement, text 10 (some "source")) ∧
      statement.HoldsSpecifierAt 1 ∧
      isImport (some statement) (text 5 none) = false ∧
      isImport (some statement) (text 10 (some "source")) = true ∧
      isImport (some statement) (text 20 (some "source")) = false ∧
      isImport none root = false := by
  intro text statement root
  have leaf (start : Int) (field : Option String) : (text start field).HasApartSiblings :=
    .node .nil (by simp)
  have siblings : statement.HasApartSiblings := by
    refine .node (by decide) ?_
    simp only [List.forall_mem_cons]
    exact ⟨leaf _ _, leaf _ _, leaf _ _, by simp⟩
  have apart : root.HasApartSiblings :=
    .node (List.pairwise_singleton _ _) (List.forall_mem_singleton.mpr siblings)
  obtain ⟨picks, onlyOne, -⟩ := isImport_picks_module_specifiers root apart
  have holds : statement.HoldsSpecifierAt 1 := by
    refine .inr ⟨.inr rfl, ⟨_, rfl, rfl⟩, ?_⟩
    intro earlier before child isEarlier
    obtain rfl : earlier = 0 := by omega
    cases isEarlier
    decide
  have found : isImport (some statement) (text 10 (some "source")) = true :=
    (picks [0, 1] _ _ rfl).mpr ⟨rfl, [0], 1, statement, rfl, rfl, holds⟩
  have others (index : Nat) (child : Tree) (isChild : statement.children[index]? = some child)
      (apartIndex : index ≠ 1) : isImport (some statement) child = false := by
    rw [Bool.eq_false_iff]
    intro isImport
    exact apartIndex (onlyOne [0] _ statement rfl (.inr rfl) index 1 child _ isChild isImport rfl found)
  refine ⟨apart, rfl, holds, others 0 _ rfl (by decide), found, others 2 _ rfl (by decide), ?_⟩
  rw [Bool.eq_false_iff]
  intro isImport
  obtain ⟨-, above, index, statement, empty, -⟩ := (picks [] none root rfl).mp isImport
  exact absurd empty (by simp)

end Tree
end LayerLint
