import LayerLint.Proofs.Resolution

/-!
# Where a project lies

The package of a file and the packages of its imports are named below the base directory. This file
shows that they do not depend on where the base directory lies, as long as no import climbs out of it:
the segments of a relative import are applied to the directory of the file, and they leave the segments
of the base directory alone. So two copies of a project have the same edges and the same violations,
apart from the names of the files. The base directory may be the root of the disk.
-/

namespace LayerLint

namespace NormalPath

open Segments

/-- Whether the double dots among some segments, applied one after the other to a stack, never find it
empty. -/
def NeverClimbs (stack : List Segment) : List Segment → Prop
  | [] => True
  | segment :: rest =>
      (segment = parent → stack ≠ []) ∧ NeverClimbs (push true stack segment) rest

instance decidableNeverClimbs (stack : List Segment) :
    (segments : List Segment) → Decidable (NeverClimbs stack segments)
  | [] => .isTrue trivial
  | segment :: rest =>
      have := decidableNeverClimbs (push true stack segment) rest
      inferInstanceAs (Decidable (_ ∧ _))

theorem push_append {stack : List Segment} {segment : Segment}
    (inside : segment = parent → stack ≠ []) (below : List Segment) :
    push true (stack ++ below) segment = push true stack segment ++ below := by
  unfold push
  by_cases dropped : segment = [] ∨ segment = ['.']
  · rw [if_pos dropped, if_pos dropped]
  · rw [if_neg dropped, if_neg dropped]
    by_cases isParent : segment = parent
    · rw [if_pos isParent, if_pos isParent]
      cases stack with
      | nil => exact absurd rfl (inside isParent)
      | cons top rest =>
          by_cases topParent : top = parent
          · simp [topParent]
          · simp [topParent]
    · rw [if_neg isParent, if_neg isParent, List.cons_append]

/-- Segments that never climb leave alone what lies below the stack. -/
theorem foldl_push_append {stack segments : List Segment} (inside : NeverClimbs stack segments)
    (below : List Segment) :
    segments.foldl (push true) (stack ++ below) = segments.foldl (push true) stack ++ below := by
  induction segments generalizing stack with
  | nil => rfl
  | cons segment segments ih =>
      rw [List.foldl_cons, List.foldl_cons, push_append inside.1, ih inside.2]

/-- A directory path in normal form with a single leading slash. -/
structure IsBase (base : String) : Prop where
  single : rootOfPath base.toList = .single
  normal : normalize base = base

/-- A relative path in normal form that names something below the directory where it starts. -/
structure IsInner (path : String) : Prop where
  relative : rootOfPath path.toList = .relative
  normal : normalize path = path
  nonempty : path ≠ ""
  named : ∀ segment ∈ path.toList.splitOn '/', segment ≠ ['.'] ∧ segment ≠ parent

theorem IsBase.names {base : String} (isBase : IsBase base) :
    ∀ segment ∈ segmentsOf base.toList, IsName segment :=
  isName_of_single isBase.single

theorem IsBase.eq_absolute {base : String} (isBase : IsBase base) :
    base.toList = absolute (segmentsOf base.toList) := by
  rw [← normalizeChars_of_single isBase.single, (normalize_eq_iff base base).mp isBase.normal]

theorem IsInner.names {path : String} (inner : IsInner path) :
    ∀ segment ∈ path.toList.splitOn '/', IsName segment := by
  have nonempty : path.toList ≠ [] := fun empty => inner.nonempty (String.toList_eq_nil_iff.mp empty)
  have normal := (normalize_eq_iff path path).mp inner.normal
  rw [normalizeChars_eq_render (unifySlashes_ne_nil nonempty), inner.relative] at normal
  -- Of no segment at all the normal form is a single dot, which is not a name.
  have kept : segmentsOf path.toList ≠ [] := by
    intro none
    have dot : path.toList = ['.'] := by
      rw [← normal, none]
      rfl
    exact (inner.named ['.'] (by rw [dot]; decide)).1 rfl
  obtain ⟨front, c, shape, -⟩ := exists_last_of_kept kept fun _ => isKept_of_mem_segmentsOf
  have joined : path.toList = ['/'].intercalate (segmentsOf path.toList) := by
    conv_lhs => rw [← normal]
    rw [render, shape]
    cases front <;> rfl
  have cut : path.toList.splitOn '/' = segmentsOf path.toList := by
    conv_lhs => rw [joined]
    exact List.splitOn_intercalate '/' (fun _ member => (isKept_of_mem_segmentsOf member).noSlash) kept
  intro segment member
  refine ⟨isKept_of_mem_segmentsOf (by rw [← cut]; exact member), ?_⟩
  exact (inner.named segment member).2

/-- The path of a file in a directory. -/
def fileIn (base path : String) : String :=
  String.ofList (append base.toList path.toList)

theorem toList_fileIn {base path : String} (isBase : IsBase base) (inner : IsInner path) :
    (fileIn base path).toList = absolute (segmentsOf base.toList ++ path.toList.splitOn '/') := by
  have joined : ['/'].intercalate (path.toList.splitOn '/') = path.toList := List.intercalate_splitOn '/'
  have unrooted : path.toList.head? ≠ some '/' := by
    rw [← joined]
    intro rooted
    obtain ⟨rest, shape⟩ := List.head?_eq_some_iff.mp rooted
    exact join_ne_slash_cons (fun segment member => (inner.names segment member).toIsKept) rest shape
  have kept : ∀ segment ∈ segmentsOf base.toList, IsKept segment := fun _ =>
    isKept_of_mem_segmentsOf
  rw [fileIn, String.toList_ofList]
  conv_lhs => rw [isBase.eq_absolute]
  rw [append_absolute kept unrooted, absolute, absolute]
  conv_lhs => rw [← joined]
  rw [intercalate_concat_intercalate _ (List.splitOn_ne_nil '/' path.toList)]

theorem names_fileIn {base path : String} (isBase : IsBase base) (inner : IsInner path)
    {directory : List Segment} {name : Segment} (shape : path.toList.splitOn '/' = directory ++ [name]) :
    ∀ segment ∈ segmentsOf base.toList ++ directory ++ [name], IsName segment := by
  intro segment member
  rw [List.append_assoc, ← shape] at member
  exact (List.mem_append.mp member).elim (isBase.names segment) (inner.names segment)

end NormalPath

open Segments NormalPath

namespace Package

/-- The package of a file in a base directory does not depend on the base directory. -/
theorem ofFile_fileIn {base path : String} (isBase : IsBase base) (inner : IsInner path)
    {directory : List Segment} {name : Segment} (shape : path.toList.splitOn '/' = directory ++ [name]) :
    ofFile (fileIn base path) (some base) = String.ofList (ofParts (['/'].intercalate directory) (stem name)) := by
  have names := names_fileIn isBase inner shape
  rw [ofFile, ofFileChars, toList_fileIn isBase inner, shape, ← List.append_assoc,
    normalizeChars_absolute names, splitName_absolute names, Option.getD_some,
    BaseDir.stripChars_below isBase.single]

end Package

namespace Specifier

/-- A specifier, in a file of the given directory below the base directory, that does not lead out of
the base directory on its way: it is not relative, or it does not begin with a slash and has no double
dot too many. -/
def StaysInside (directory : List Segment) (text : String) : Prop :=
  isRelative (unquote text) = true →
    (unifySlashes (unquote text).toList).head? ≠ some '/' ∧
      NeverClimbs directory.reverse ((unifySlashes (unquote text).toList).splitOn '/')

instance (directory : List Segment) (text : String) : Decidable (StaysInside directory text) :=
  inferInstanceAs (Decidable (_ → _))

theorem target_fileIn {base path : String} (isBase : IsBase base) (inner : IsInner path)
    {directory : List Segment} {name : Segment} (shape : path.toList.splitOn '/' = directory ++ [name])
    {specifier : List Char} (unrooted : (unifySlashes specifier).head? ≠ some '/')
    (inside : NeverClimbs directory.reverse ((unifySlashes specifier).splitOn '/')) :
    target specifier (fileIn base path).toList =
      absolute (segmentsOf base.toList ++
        (((unifySlashes specifier).splitOn '/').foldl (push true) directory.reverse).reverse) := by
  have names := names_fileIn isBase inner shape
  have directoryNames : ∀ segment ∈ segmentsOf base.toList ++ directory, IsName segment :=
    fun segment member => names segment (List.mem_append_left [name] member)
  obtain ⟨single, segments⟩ :=
    segmentsOf_append directoryNames unrooted (no_backslash_unifySlashes specifier)
  rw [target, toList_fileIn isBase inner, shape, ← List.append_assoc, normalizeChars_absolute names,
    NormalPath.directory, splitName_absolute names, normalizeChars_of_single single, segments,
    List.reverse_append, foldl_push_append inside, List.reverse_append, List.reverse_reverse]

/-- The package that an import denotes does not depend on the base directory. -/
theorem resolve_fileIn {base other path text : String} (isBase : IsBase base)
    (otherIsBase : IsBase other) (inner : IsInner path) {directory : List Segment} {name : Segment}
    (shape : path.toList.splitOn '/' = directory ++ [name]) (inside : StaysInside directory text) :
    resolve text (fileIn base path) (some base) = resolve text (fileIn other path) (some other) := by
  by_cases relative : isRelative (unquote text) = true
  · obtain ⟨unrooted, neverClimbs⟩ := inside relative
    have resolved {place : String} (isPlace : IsBase place) :
        resolve text (fileIn place path) (some place) = String.ofList (dropExtension (['/'].intercalate
          (((unifySlashes (unquote text).toList).splitOn '/').foldl (push true)
            directory.reverse).reverse)) := by
      rw [resolve_of_isRelative relative, targetPath, String.toList_ofList,
        target_fileIn isPlace inner shape unrooted neverClimbs,
        BaseDir.stripChars_below isPlace.single]
    rw [resolved isBase, resolved otherIsBase]
  · rw [resolve_of_not_isRelative relative, resolve_of_not_isRelative relative]

end Specifier

theorem Tree.imports_eq_importsOf (tree : Tree) : tree.imports = importsOf tree.preorder := by
  rw [imports, nodes, List.filter_cons_of_neg (by simp [isImport]), List.filter_map, List.map_map]
  rfl

def Edge.moveTo (file : String) (edge : Edge) : Edge :=
  { edge with file }

def Violation.moveTo (file : String) (violation : Violation) : Violation :=
  { violation with file }

/-- The same policy for another base directory. -/
def Policy.moveTo (base : String) (policy : Policy) : Policy :=
  { policy with baseDir := base }

theorem Violation.ofImport_moveTo (policy : Policy) {base other : String} (own file : String)
    (node : Tree) (edge : Edge) :
    Violation.ofImport (policy.moveTo other) own node (edge.moveTo file) =
      (Violation.ofImport (policy.moveTo base) own node edge).map (Violation.moveTo file) := by
  have permits (target : String) :
      (policy.moveTo other).Permits own target ↔ (policy.moveTo base).Permits own target := Iff.rfl
  have layer : (edge.moveTo file).layer = edge.layer := rfl
  unfold Violation.ofImport
  rw [layer]
  cases edge.layer with
  | none => rfl
  | some target =>
      by_cases permitted : (policy.moveTo base).Permits own target
      · simp only [if_pos permitted, if_pos ((permits target).mpr permitted), Option.map_none]
      · simp only [if_neg permitted, if_neg (mt (permits target).mp permitted), Option.map_some]
        rfl

section
variable {base other path : String} {directory : List Segment} {name : Segment}
variable (policy : Policy) (isMatch : Matcher)
variable (isBase : IsBase base) (otherIsBase : IsBase other) (inner : IsInner path)
variable (shape : path.toList.splitOn '/' = directory ++ [name])

include isBase otherIsBase inner shape

theorem Policy.packageOf_moveTo :
    (policy.moveTo other).packageOf (fileIn other path) =
      (policy.moveTo base).packageOf (fileIn base path) :=
  (Package.ofFile_fileIn otherIsBase inner shape).trans
    (Package.ofFile_fileIn isBase inner shape).symm

theorem Violation.ofFile_moveTo (root : Tree) :
    Violation.ofFile (policy.moveTo other) (fileIn other path) root =
      (Violation.ofFile (policy.moveTo base) (fileIn base path) root).moveTo
        (fileIn other path) := by
  unfold Violation.ofFile
  rw [policy.packageOf_moveTo isBase otherIsBase inner shape]
  rfl

theorem Edge.ofImport_moveTo {node : Tree}
    (inside : Specifier.StaysInside directory node.text) :
    Edge.ofImport (policy.moveTo other) isMatch (fileIn other path) node =
      (Edge.ofImport (policy.moveTo base) isMatch (fileIn base path) node).moveTo
        (fileIn other path) := by
  have package : Specifier.resolve node.text (fileIn other path) (some other) =
      Specifier.resolve node.text (fileIn base path) (some base) :=
    Specifier.resolve_fileIn otherIsBase isBase inner shape inside
  simp only [Edge.ofImport, Edge.moveTo, Policy.moveTo, package]
  rfl

theorem Walker.edgesFor_moveTo {imports : List Tree}
    (inside : ∀ node ∈ imports, Specifier.StaysInside directory node.text) :
    (fresh (policy.moveTo other) isMatch (fileIn other path)).edgesFor imports =
      ((fresh (policy.moveTo base) isMatch (fileIn base path)).edgesFor imports).map
        (Edge.moveTo (fileIn other path)) := by
  rw [edgesFor, edgesFor, List.map_map]
  apply List.map_congr_left
  intro node member
  exact Edge.ofImport_moveTo policy isMatch isBase otherIsBase inner shape (inside node member)

theorem Walker.violationsFor_moveTo (own : String) {imports : List Tree}
    (inside : ∀ node ∈ imports, Specifier.StaysInside directory node.text) :
    (fresh (policy.moveTo other) isMatch (fileIn other path)).violationsFor own imports =
      ((fresh (policy.moveTo base) isMatch (fileIn base path)).violationsFor own imports).map
        (Violation.moveTo (fileIn other path)) := by
  rw [violationsFor, violationsFor, List.map_filterMap]
  apply List.filterMap_congr
  intro node member
  have edge := Edge.ofImport_moveTo policy isMatch isBase otherIsBase inner shape
    (inside node member)
  simp only [fresh, edge]
  exact Violation.ofImport_moveTo policy own (fileIn other path) node _

end

/-- Where a project lies makes no difference. Below two base directories, the check of the same file
ends in the same state with the same package and layer, and with edges and violations that differ in the
name of the file only, provided that no relative import leads out of the base directory on its way. -/
theorem checkFile_independent_of_location (policy : Policy) (isMatch : Matcher)
    (base other path : String) (root : Tree)
    (isBase : IsBase base) (otherIsBase : IsBase other) (inner : IsInner path)
    (inside : ∀ node ∈ root.imports,
      Specifier.StaysInside (path.toList.splitOn '/').dropLast node.text) :
    ∃ walker moved,
      (checkFile (policy.moveTo base) isMatch (fileIn base path) root).value =
        (walker, .ok ()) ∧
      (checkFile (policy.moveTo other) isMatch (fileIn other path) root).value =
        (moved, .ok ()) ∧
      moved.state = walker.state ∧ moved.package = walker.package ∧ moved.layer = walker.layer ∧
      moved.edges = walker.edges.map (Edge.moveTo (fileIn other path)) ∧
      moved.violations = walker.violations.map (Violation.moveTo (fileIn other path)) := by
  have shape := (List.dropLast_concat_getLast (List.splitOn_ne_nil '/' path.toList)).symm
  rw [root.imports_eq_importsOf] at inside
  have package := policy.packageOf_moveTo isBase otherIsBase inner shape
  by_cases excluded : (policy.moveTo base).Excludes isMatch
      ((policy.moveTo base).packageOf (fileIn base path))
  · have otherExcluded : (policy.moveTo other).Excludes isMatch
        ((policy.moveTo other).packageOf (fileIn other path)) := by
      rw [package]
      exact excluded
    exact ⟨_, _, Walker.value_run_of_excludes _ isMatch _ root excluded,
      Walker.value_run_of_excludes _ isMatch _ root otherExcluded, rfl, package, rfl, rfl, rfl⟩
  · have otherIncluded : ¬ (policy.moveTo other).Excludes isMatch
        ((policy.moveTo other).packageOf (fileIn other path)) := by
      rw [package]
      exact excluded
    have otherLayer : (policy.moveTo other).layerOf? isMatch
        ((policy.moveTo other).packageOf (fileIn other path)) =
          (policy.moveTo base).layerOf? isMatch
            ((policy.moveTo base).packageOf (fileIn base path)) := by
      rw [package]
      rfl
    cases layered : (policy.moveTo base).layerOf? isMatch
        ((policy.moveTo base).packageOf (fileIn base path)) with
    | none =>
        rw [layered] at otherLayer
        have violation := Violation.ofFile_moveTo policy isBase otherIsBase inner shape root
        exact ⟨_, _, Walker.value_run_of_no_layer _ isMatch _ root excluded layered,
          Walker.value_run_of_no_layer _ isMatch _ root otherIncluded otherLayer, rfl, package, rfl,
          rfl, congrArg (fun violation => [violation]) violation⟩
    | some own =>
        rw [layered] at otherLayer
        exact ⟨_, _, Walker.value_run_of_layer _ isMatch _ own root excluded layered,
          Walker.value_run_of_layer _ isMatch _ own root otherIncluded otherLayer, rfl, package, rfl,
          Walker.edgesFor_moveTo policy isMatch isBase otherIsBase inner shape inside,
          Walker.violationsFor_moveTo policy isMatch isBase otherIsBase inner shape own inside⟩

/-- A project at the root of the disk and in a home directory, with an import that climbs as far as the
base directory, one with backslashes, and an external one. -/
theorem checkFile_independent_of_root_and_home :
    let policy : Policy :=
      { baseDir := "", layers := [⟨"upper", ["src/**"]⟩, ⟨"lower", ["lib/*"]⟩] }
    let specifier (text : String) : Tree :=
      .node { kind := "import_statement" }
        [.node { kind := "string", content := Text.Utf8.encode text, field := some "source" } []]
    let root : Tree :=
      .node { kind := "program" }
        [specifier "../../lib/b", specifier "./\\c",
          specifier "x"]
    IsBase "/" ∧ IsBase "/home/dev/p" ∧ IsInner "src/a/x.ts" ∧
      root.imports.map Tree.text = ["../../lib/b", "./\\c", "x"] ∧
      ∃ walker moved,
        (checkFile (policy.moveTo "/") Glob.isMatch "/src/a/x.ts" root).value = (walker, .ok ()) ∧
        (checkFile (policy.moveTo "/home/dev/p") Glob.isMatch "/home/dev/p/src/a/x.ts" root).value =
          (moved, .ok ()) ∧
        walker.edges.map Edge.package = ["lib/b", "src/a/c", "x"] ∧
        moved.edges.map Edge.package = ["lib/b", "src/a/c", "x"] := by
  intro policy specifier root
  have atRoot : IsBase "/" := ⟨by decide +kernel, by decide +kernel⟩
  have atHome : IsBase "/home/dev/p" := ⟨by decide +kernel, by decide +kernel⟩
  have inner : IsInner "src/a/x.ts" :=
    ⟨by decide +kernel, by decide +kernel, by decide, by decide +kernel⟩
  have texts : root.imports.map Tree.text = ["../../lib/b", "./\\c", "x"] := by decide +kernel
  have inside : ∀ node ∈ root.imports,
      Specifier.StaysInside ("src/a/x.ts".toList.splitOn '/').dropLast node.text := by
    intro node member
    have listed : node.text ∈ ["../../lib/b", "./\\c", "x"] :=
      texts ▸ List.mem_map_of_mem member
    have stay : ∀ text ∈ ["../../lib/b", "./\\c", "x"],
        Specifier.StaysInside ("src/a/x.ts".toList.splitOn '/').dropLast text := by decide +kernel
    exact stay node.text listed
  obtain ⟨walker, moved, ended, movedEnded, -, -, -, edges, -⟩ :=
    checkFile_independent_of_location policy Glob.isMatch "/" "/home/dev/p" "src/a/x.ts" root
      atRoot atHome inner inside
  have packages : walker.edges.map Edge.package = ["lib/b", "src/a/c", "x"] := by
    have computed : (checkFile (policy.moveTo "/") Glob.isMatch (fileIn "/" "src/a/x.ts")
        root).value.1.edges.map Edge.package = ["lib/b", "src/a/c", "x"] := by decide +kernel
    rw [ended] at computed
    exact computed
  have movedPackages : moved.edges.map Edge.package = walker.edges.map Edge.package := by
    rw [edges, List.map_map]
    rfl
  exact ⟨atRoot, atHome, inner, texts, walker, moved, ended, movedEnded, packages,
    movedPackages.trans packages⟩

end LayerLint
