import LayerLint.Proofs.Traversal
import Mathlib.Data.List.Forall2
import Mathlib.Data.List.Infix

/-!
# Addresses of nodes

The child numbers that lead from the root of a tree to a node are the address of the node. Nodes with the
same content have different addresses, and in document order the addresses ascend: a node comes before the
nodes below it, and the nodes below a child come before those below a later one. This file lists the
addresses of a tree and shows that the nodes of a walk are the nodes at these addresses, one for each, and
that the path a walk keeps for a node names the nodes that its address leads through.
-/

namespace LayerLint
namespace Tree

/-- What holds of a tree whenever it holds of all children of the tree holds of every tree. -/
@[elab_as_elim]
theorem inductionOnChildren {motive : Tree → Prop}
    (step : ∀ tree, (∀ child ∈ tree.children, motive child) → motive tree) (tree : Tree) :
    motive tree := by
  apply step
  intro child isChild
  exact inductionOnChildren step child
termination_by sizeOf tree
decreasing_by
  cases tree with
  | node label children =>
      have smaller : sizeOf child < sizeOf children := List.sizeOf_lt_of_mem isChild
      rw [node.sizeOf_spec]
      omega

/-- The address of the child with a number, and the addresses below the child as seen from its parent. -/
def addressesUnder (index : Nat) (below : List (List Nat)) : List (List Nat) :=
  [index] :: below.map (index :: ·)

mutual

/-- The addresses of the nodes below a tree, in document order. -/
def addresses : Tree → List (List Nat)
  | .node _ children => addressesFrom 0 children

/-- The addresses of consecutive children, of which the first has the given number, and of the nodes below
them. -/
def addressesFrom (index : Nat) : List Tree → List (List Nat)
  | [] => []
  | child :: rest => addressesUnder index (addresses child) ++ addressesFrom (index + 1) rest

end

/-- The nodes that an address leads through, from the top, without the root and the last node. -/
def ancestors (root : Tree) (address : List Nat) : List Tree :=
  address.inits.tail.dropLast.filterMap fun above => (descend? none root above).map Prod.snd

/-- The kinds of some nodes, each behind a colon. -/
def kindPath (nodes : List Tree) : String :=
  String.join (nodes.map fun node => ":" ++ node.kind)

/-- A visit belongs to an address: its node and its parent are where the address leads, and its path names
the kinds of the ancestors. -/
structure Visit.IsAt (root : Tree) (address : List Nat) (visit : Visit) : Prop where
  reached : descend? none root address = some (some visit.parent, visit.node)
  path : visit.path = kindPath (root.ancestors address)

section Addresses

variable {tree child : Tree} {index : Nat} {address : List Nat}

/-- What is reached below a node does not depend on the parent of the node. -/
theorem descend?_of_ne_nil (first second : Option Tree) (tree : Tree) (nonempty : address ≠ []) :
    descend? first tree address = descend? second tree address := by
  cases address with
  | nil => exact absurd rfl nonempty
  | cons index address => rfl

theorem map_snd_descend? (first second : Option Tree) (tree : Tree) (address : List Nat) :
    (descend? first tree address).map Prod.snd = (descend? second tree address).map Prod.snd := by
  by_cases empty : address = []
  · rw [empty]
    rfl
  · rw [descend?_of_ne_nil first second tree empty]

theorem descend?_cons (isChild : tree.children[index]? = some child) (parent : Option Tree)
    (address : List Nat) :
    descend? parent tree (index :: address) = descend? (some tree) child address := by
  rw [descend?, isChild, Option.bind_some]

theorem mem_addressesUnder_iff {below : List (List Nat)} :
    address ∈ addressesUnder index below ↔
      ∃ rest, address = index :: rest ∧ (rest = [] ∨ rest ∈ below) := by
  rw [addressesUnder, List.mem_cons, List.mem_map]
  constructor
  · rintro (rfl | ⟨rest, isBelow, rfl⟩)
    · exact ⟨[], rfl, .inl rfl⟩
    · exact ⟨rest, rfl, .inr isBelow⟩
  · rintro ⟨rest, rfl, rfl | isBelow⟩
    · exact .inl rfl
    · exact .inr ⟨rest, isBelow, rfl⟩

theorem addresses_eq_flatMap (tree : Tree) :
    tree.addresses = tree.children.zipIdx.flatMap fun entry =>
      addressesUnder entry.2 entry.1.addresses := by
  have numbered (children : List Tree) (index : Nat) :
      addressesFrom index children = (children.zipIdx index).flatMap fun entry =>
        addressesUnder entry.2 entry.1.addresses := by
    induction children generalizing index with
    | nil => rfl
    | cons child rest ih => rw [addressesFrom, List.zipIdx_cons, List.flatMap_cons, ih]
  cases tree with
  | node label children => exact numbered children 0

theorem mem_addresses_iff_exists_child :
    address ∈ tree.addresses ↔ ∃ index child rest, tree.children[index]? = some child ∧
      address = index :: rest ∧ (rest = [] ∨ rest ∈ child.addresses) := by
  rw [addresses_eq_flatMap, List.mem_flatMap]
  constructor
  · rintro ⟨⟨child, index⟩, isChild, member⟩
    obtain ⟨rest, shape, place⟩ := mem_addressesUnder_iff.mp member
    exact ⟨index, child, rest, List.mem_zipIdx_iff_getElem?.mp isChild, shape, place⟩
  · rintro ⟨index, child, rest, isChild, shape, place⟩
    exact ⟨(child, index), List.mem_zipIdx_iff_getElem?.mpr isChild,
      mem_addressesUnder_iff.mpr ⟨rest, shape, place⟩⟩

/-- The addresses are those that lead to a node, apart from the empty one. -/
theorem mem_addresses_iff :
    address ∈ tree.addresses ↔ address ≠ [] ∧ (descend? none tree address).isSome = true := by
  induction address generalizing tree with
  | nil =>
      rw [mem_addresses_iff_exists_child]
      simp
  | cons index address ih =>
      rw [mem_addresses_iff_exists_child]
      constructor
      · rintro ⟨_, child, _, isChild, same, place⟩
        obtain ⟨rfl, rfl⟩ := List.cons.inj same
        refine ⟨List.cons_ne_nil index address, ?_⟩
        rw [descend?_cons isChild]
        rcases place with rfl | isBelow
        · rfl
        · obtain ⟨nonempty, reached⟩ := ih.mp isBelow
          rw [descend?_of_ne_nil (some tree) none child nonempty]
          exact reached
      · rintro ⟨-, reached⟩
        obtain ⟨entry, reached⟩ := Option.isSome_iff_exists.mp reached
        obtain ⟨child, isChild, reached⟩ := Option.bind_eq_some_iff.mp reached
        refine ⟨index, child, address, isChild, rfl, ?_⟩
        by_cases empty : address = []
        · exact .inl empty
        · rw [descend?_of_ne_nil (some tree) none child empty] at reached
          exact .inr (ih.mpr ⟨empty, Option.isSome_of_eq_some reached⟩)

theorem pairwise_lt_addressesUnder {below : List (List Nat)} (ascending : below.Pairwise (· < ·))
    (nonempty : [] ∉ below) (index : Nat) : (addressesUnder index below).Pairwise (· < ·) := by
  have ordered {first second : List Nat} (before : first < second) :
      index :: first < index :: second := List.cons_lt_cons_iff.mpr (.inr ⟨rfl, before⟩)
  constructor
  · intro address member
    obtain ⟨rest, isBelow, rfl⟩ := List.mem_map.mp member
    have something : rest ≠ [] := fun empty => nonempty (empty ▸ isBelow)
    obtain ⟨next, others, rfl⟩ := List.exists_cons_of_ne_nil something
    exact ordered (List.nil_lt_cons next others)
  · rw [List.pairwise_map]
    exact ascending.imp ordered

/-- In document order the addresses ascend. -/
theorem pairwise_lt_addresses (tree : Tree) : tree.addresses.Pairwise (· < ·) := by
  have numbers (children : List Tree) (start : Nat) :
      (children.zipIdx start).Pairwise fun entry later => entry.2 < later.2 := by
    induction children generalizing start with
    | nil => exact .nil
    | cons child rest ih =>
        exact .cons (fun later member => List.le_snd_of_mem_zipIdx member) (ih (start + 1))
  induction tree using inductionOnChildren with
  | step tree ih =>
      rw [addresses_eq_flatMap, List.pairwise_flatMap]
      constructor
      · rintro ⟨child, index⟩ isChild
        have isChild := List.mem_of_getElem? (List.mem_zipIdx_iff_getElem?.mp isChild)
        apply pairwise_lt_addressesUnder (ih child isChild)
        exact fun empty => (mem_addresses_iff.mp empty).1 rfl
      · refine (numbers tree.children 0).imp ?_
        intro first second before address member other otherMember
        obtain ⟨rest, rfl, -⟩ := mem_addressesUnder_iff.mp member
        obtain ⟨otherRest, rfl, -⟩ := mem_addressesUnder_iff.mp otherMember
        exact List.cons_lt_cons_iff.mpr (.inl before)

theorem ancestors_cons (isChild : tree.children[index]? = some child) (nonempty : address ≠ []) :
    tree.ancestors (index :: address) = child :: child.ancestors address := by
  obtain ⟨next, rest, rfl⟩ := List.exists_cons_of_ne_nil nonempty
  have nodes (above : List Nat) : (descend? none tree (index :: above)).map Prod.snd =
      (descend? none child above).map Prod.snd := by
    rw [descend?_cons isChild]
    exact map_snd_descend? (some tree) none child above
  have others : rest.inits ≠ [] := List.ne_nil_of_mem ((List.mem_inits rest rest).mpr List.prefix_rfl)
  have beginnings : ((next :: rest).inits.map (index :: ·)).dropLast =
      [index] :: (next :: rest).inits.tail.dropLast.map (index :: ·) := by
    rw [List.inits_cons, List.map_cons, List.tail_cons, List.dropLast_cons_of_ne_nil (by simp [others]),
      List.map_dropLast]
  rw [ancestors, List.inits_cons, List.tail_cons, beginnings, List.filterMap_cons, nodes [],
    List.filterMap_map, ancestors]
  simp only [Function.comp_def, nodes]
  rfl

theorem forall₂_addresses_visits (text : String) (tree : Tree) :
    List.Forall₂ (fun address visit =>
        descend? none tree address = some (some visit.parent, visit.node) ∧
          visit.path = text ++ kindPath (tree.ancestors address))
      tree.addresses (visits text tree) := by
  induction tree using inductionOnChildren generalizing text with
  | step tree ih =>
      have numbered : Walker.agendaOf text tree =
          tree.children.zipIdx.map fun entry => ⟨tree, text, entry.1⟩ := by
        have children := List.zipIdx_map_fst 0 tree.children
        rw [Walker.agendaOf]
        nth_rewrite 1 [← children]
        rw [List.map_map]
        rfl
      rw [addresses_eq_flatMap, visits_eq_flatMap, numbered, List.flatMap_map]
      have same : List.Forall₂ (fun entry other => entry = other ∧ tree.children[entry.2]? = some entry.1)
          tree.children.zipIdx tree.children.zipIdx :=
        List.forall₂_same.mpr fun entry member => ⟨rfl, List.mem_zipIdx_iff_getElem?.mp member⟩
      refine List.rel_flatMap same ?_
      rintro ⟨child, index⟩ _ ⟨rfl, isChild⟩
      refine .cons ⟨descend?_cons isChild none [], ?_⟩ ?_
      · have direct : kindPath (tree.ancestors [index]) = "" := rfl
        rw [direct, String.append_empty]
      · rw [List.forall₂_map_left_iff]
        refine (ih child (List.mem_of_getElem? isChild) (text ++ ":" ++ child.kind)).imp ?_
        rintro address visit ⟨reached, path⟩
        have nonempty : address ≠ [] := by
          rintro rfl
          cases reached
        rw [descend?_cons isChild, descend?_of_ne_nil (some tree) none child nonempty,
          ancestors_cons isChild nonempty, path]
        refine ⟨reached, ?_⟩
        simp [kindPath, String.append_assoc]

/-- The nodes of the walk of a tree belong to its addresses, one to each and in the same order. -/
theorem forall₂_isAt_preorder (tree : Tree) :
    List.Forall₂ (Visit.IsAt tree) tree.addresses tree.preorder := by
  refine (forall₂_addresses_visits "" tree).imp ?_
  rintro address visit ⟨reached, path⟩
  rw [String.empty_append] at path
  exact ⟨reached, path⟩

theorem exists_isAt_of_mem_preorder {visit : Visit} (member : visit ∈ tree.preorder) :
    ∃ address, Visit.IsAt tree address visit := by
  obtain ⟨place, bound, rfl⟩ := List.mem_iff_getElem.mp member
  obtain ⟨sameLength, isAt⟩ := List.forall₂_iff_get.mp (forall₂_isAt_preorder tree)
  have inside : place < tree.addresses.length := by omega
  exact ⟨_, isAt place inside bound⟩

theorem exists_mem_preorder_of_descend? {entry : Option Tree × Tree} (nonempty : address ≠ [])
    (reached : descend? none tree address = some entry) :
    ∃ visit ∈ tree.preorder, Visit.IsAt tree address visit := by
  have listed : address ∈ tree.addresses :=
    mem_addresses_iff.mpr ⟨nonempty, Option.isSome_of_eq_some reached⟩
  obtain ⟨place, bound, rfl⟩ := List.mem_iff_getElem.mp listed
  obtain ⟨sameLength, isAt⟩ := List.forall₂_iff_get.mp (forall₂_isAt_preorder tree)
  have inside : place < tree.preorder.length := by omega
  exact ⟨_, List.getElem_mem inside, isAt place bound inside⟩

end Addresses

end Tree
end LayerLint
