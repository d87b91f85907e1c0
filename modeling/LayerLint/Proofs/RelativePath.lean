import LayerLint.Proofs.CanonicalPath
import LayerLint.Proofs.Resolution

/-!
# Relative imports as walks

A relative import is resolved by putting texts together and normalizing the outcome as a whole. This file
reads it as a walk: it starts in the directory of the importing file and takes the segments of the import
one after the other, each of which stays, enters a name, or goes back by one. A walk along two texts
joined by a slash is the walk along the second one from where the first one ends.
-/

namespace LayerLint

namespace NormalPath

open Segments

/-- Where one segment leads from a directory that is given by its segments. -/
def walkStep (directory : List Segment) (segment : Segment) : List Segment :=
  if segment = [] ∨ segment = ['.'] then directory
  else if segment = parent then directory.dropLast
  else directory ++ [segment]

/-- Where the segments of a text lead from a directory. -/
def walk (directory : List Segment) (text : List Char) : List Segment :=
  ((unifySlashes text).splitOn '/').foldl walkStep directory

/-- The segments of the directory that a file lies in. -/
def directorySegments (file : List Char) : List Segment :=
  ((directory (normalizeChars file)).splitOn '/').filter (· ≠ [])

theorem walk_append (directory : List Segment) (first second : List Char) :
    walk directory (first ++ '/' :: second) = walk (walk directory first) second := by
  have unified : unifySlashes (first ++ '/' :: second) =
      unifySlashes first ++ '/' :: unifySlashes second := by
    simp [unifySlashes]
  rw [walk, unified, List.splitOn_append_cons_self, List.foldl_append]
  rfl

/-- Below a root the rules for a stack of segments are the steps of a walk. -/
theorem Applies.reverse_eq_walkStep {stack next : List Segment} {segment : Segment}
    (applied : Applies true stack segment next) :
    next.reverse = walkStep stack.reverse segment := by
  unfold walkStep
  cases applied with
  | skip idle => rw [if_pos idle]
  | enter kept real => rw [if_neg kept, if_neg real, List.reverse_cons]
  | leave real =>
      rw [if_neg (by decide), if_pos rfl, List.reverse_cons, List.dropLast_concat]
  | vanish rooted => rfl
  | climb relative nothingReal => exact absurd relative (by decide)

theorem AppliesAll.reverse_eq_foldl {stack segments last : List Segment}
    (applied : AppliesAll true stack segments last) :
    last.reverse = segments.foldl walkStep stack.reverse := by
  induction applied with
  | nil => rfl
  | cons first rest ih => rw [ih, first.reverse_eq_walkStep, List.foldl_cons]

theorem isSettled_of_no_parent {isAbsolute : Bool} {stack : List Segment}
    (real : parent ∉ stack) : IsSettled isAbsolute stack := by
  induction stack with
  | nil => exact isSettled_nil
  | cons top stack ih =>
      rw [List.mem_cons, not_or] at real
      exact .above (Ne.symm real.1) (ih real.2)

theorem foldl_push_eq_walk {directory : List Segment} (real : parent ∉ directory)
    (segments : List Segment) :
    (segments.foldl (push true) directory.reverse).reverse = segments.foldl walkStep directory := by
  have settled : IsSettled true directory.reverse :=
    isSettled_of_no_parent fun member => real (List.mem_reverse.mp member)
  have applied : AppliesAll true directory.reverse segments
      (segments.foldl (push true) directory.reverse) := (appliesAll_iff settled).mpr rfl
  rw [applied.reverse_eq_foldl, List.reverse_reverse]

theorem directory_absolute {segments : List Segment}
    (names : ∀ segment ∈ segments, IsName segment) :
    directory (absolute segments) = absolute segments.dropLast := by
  by_cases atRoot : segments = []
  · rw [atRoot]
    rfl
  · rw [← List.dropLast_concat_getLast atRoot] at names ⊢
    rw [directory, splitName_absolute names, List.dropLast_concat]

theorem filter_splitOn_absolute {segments : List Segment}
    (names : ∀ segment ∈ segments, IsName segment) :
    ((absolute segments).splitOn '/').filter (· ≠ []) = segments := by
  rw [absolute, splitOn_slash_cons, List.filter_cons_of_neg (by simp)]
  by_cases atRoot : segments = []
  · rw [atRoot]
    rfl
  · rw [List.splitOn_intercalate '/' (fun segment member => (names segment member).noSlash) atRoot,
      List.filter_eq_self.mpr]
    intro segment member
    exact decide_eq_true (names segment member).ne_nil

/-- A path whose normal form begins with one slash has a single root. -/
theorem rootOfPath_of_leadingSlashes {path : List Char}
    (oneSlash : leadingSlashes (normalizeChars path) = 1) : rootOfPath path = .single := by
  have plain := unifySlashes_of_no_backslash (isNormal_normalizeChars path).noBackslash
  have slashes := (rootOf_eq_leadingSlashes (normalizeChars path)).1
  rw [oneSlash] at slashes
  rw [← rootOfPath_normalizeChars, rootOfPath, plain]
  cases root : rootOf (normalizeChars path) with
  | relative =>
      rw [root] at slashes
      exact absurd slashes (by decide)
  | single => rfl
  | double =>
      rw [root] at slashes
      exact absurd slashes (by decide)

theorem directory_normalizeChars {file : List Char} (single : rootOfPath file = .single) :
    directory (normalizeChars file) = absolute (directorySegments file) ∧
      ∀ segment ∈ directorySegments file, IsName segment := by
  have names := isName_of_single single
  have directoryNames : ∀ segment ∈ (segmentsOf file).dropLast, IsName segment :=
    fun segment member => names segment (List.mem_of_mem_dropLast member)
  have shape : directory (normalizeChars file) = absolute (segmentsOf file).dropLast := by
    rw [normalizeChars_of_single single, directory_absolute names]
  have segments : directorySegments file = (segmentsOf file).dropLast := by
    rw [directorySegments, shape, filter_splitOn_absolute directoryNames]
  rw [segments]
  exact ⟨shape, directoryNames⟩

end NormalPath

namespace Specifier

open Segments NormalPath

theorem target_eq_walk {file : List Char} (single : rootOfPath file = .single)
    {specifier : List Char} (unrooted : (unifySlashes specifier).head? ≠ some '/') :
    target specifier file = absolute (walk (directorySegments file) specifier) := by
  obtain ⟨shape, names⟩ := directory_normalizeChars single
  obtain ⟨root, segments⟩ :=
    segmentsOf_append names unrooted (no_backslash_unifySlashes specifier)
  have real : parent ∉ directorySegments file := fun member => (names parent member).ne_parent rfl
  rw [target, shape, normalizeChars_of_single root, segments, foldl_push_eq_walk real]
  rfl

theorem isRelativeChars_iff (text : List Char) :
    isRelativeChars text = true ↔ ['.', '/'] <:+: text := by
  fun_induction isRelativeChars text with
  | case1 => simp
  | case2 rest =>
      constructor
      · exact fun _ => ⟨[], rest, rfl⟩
      · exact fun _ => rfl
  | case3 c rest notRelative ih =>
      have notHere : ¬ ['.', '/'] <+: c :: rest := by
        rintro ⟨behind, same⟩
        obtain ⟨rfl, rfl⟩ := List.cons.inj same
        exact notRelative behind rfl rfl
      rw [ih, List.infix_cons_iff, or_iff_right notHere]

theorem isRelative_append {first : String} (relative : isRelative first = true) (second : String) :
    isRelative (first ++ second) = true := by
  rw [isRelative, isRelativeChars_iff] at relative ⊢
  rw [String.toList_append]
  exact relative.trans (List.prefix_append _ _).isInfix

theorem toList_strip (path : String) (base : Option String) :
    (BaseDir.strip path base).toList =
      BaseDir.stripChars path.toList (base.getD "").toList := by
  cases base with
  | none => rfl
  | some base => rw [BaseDir.strip, String.toList_ofList, Option.getD_some]

/-- The package that an import of the path with a single leading slash and the given segments denotes. -/
def packageAt (segments : List Segment) (base : Option String) : String :=
  String.ofList (dropExtension (BaseDir.strip (String.ofList (absolute segments)) base).toList)

theorem resolve_eq_packageAt {text file : String} (single : rootOfPath file.toList = .single)
    (relative : isRelative (unquote text) = true)
    (unrooted : (unifySlashes (unquote text).toList).head? ≠ some '/') (base : Option String) :
    resolve text file base =
      packageAt (walk (directorySegments file.toList) (unquote text).toList) base := by
  have stated : resolve text file base = resolve text file (some (base.getD "")) := by
    cases base <;> rfl
  rw [stated, resolve_of_isRelative relative, packageAt, toList_strip, targetPath,
    target_eq_walk single unrooted]

theorem unrooted_append {first : String} (relative : isRelative first = true)
    (unrooted : (unifySlashes first.toList).head? ≠ some '/') (second : String) :
    (unifySlashes (first ++ second).toList).head? ≠ some '/' := by
  have nonempty : first.toList ≠ [] := by
    intro empty
    rw [isRelative, empty] at relative
    exact absurd relative (by decide)
  obtain ⟨c, chars, shape⟩ := List.exists_cons_of_ne_nil nonempty
  rw [shape] at unrooted
  rw [String.toList_append, shape]
  exact unrooted

/-- A relative import leads from the directory of the importing file, segment by segment, to the path
whose package it denotes. An import made up of two of them goes on from where the first one leads. -/
theorem resolve_walks_from_directory (file : String) (base : Option String)
    (oneSlash : leadingSlashes (normalize file).toList = 1) :
    (∀ text, isRelative (unquote text) = true →
      (unifySlashes (unquote text).toList).head? ≠ some '/' →
      resolve text file base =
        packageAt (walk (directorySegments file.toList) (unquote text).toList) base) ∧
    (∀ text first second, unquote text = first ++ "/" ++ second → isRelative first = true →
      (unifySlashes first.toList).head? ≠ some '/' →
      resolve text file base =
        packageAt (walk (walk (directorySegments file.toList) first.toList) second.toList)
          base) := by
  have single : rootOfPath file.toList = .single := by
    rw [toList_normalize] at oneSlash
    exact rootOfPath_of_leadingSlashes oneSlash
  refine ⟨?_, ?_⟩
  · intro text relative unrooted
    exact resolve_eq_packageAt single relative unrooted base
  · intro text first second joined relative unrooted
    have chars : (unquote text).toList = first.toList ++ '/' :: second.toList := by
      rw [joined, String.append_assoc, String.toList_append, String.toList_append]
      rfl
    have whole := isRelative_append relative ("/" ++ second)
    have front := unrooted_append relative unrooted ("/" ++ second)
    rw [← String.append_assoc, ← joined] at whole front
    rw [resolve_eq_packageAt single whole front, chars, walk_append]

/-- An import in two parts, the first with a backslash and the second with more double dots than there are
directories. -/
theorem resolve_walks_from_directory_to_root :
    let file := "/p//src/x/../app/main.ts"
    let text := "'../lib\\./../../../../q/./db.TS'"
    let first := "../lib\\."
    let second := "../../../../q/./db.TS"
    leadingSlashes (normalize file).toList = 1 ∧ isRelative (unquote text) = true ∧
      (unifySlashes (unquote text).toList).head? ≠ some '/' ∧
      unquote text = first ++ "/" ++ second ∧ isRelative first = true ∧
      walk (directorySegments file.toList) first.toList =
        ["p".toList, "src".toList, "lib".toList] ∧
      resolve text file (some "/p/./src") =
        packageAt (walk (directorySegments file.toList) (unquote text).toList) (some "/p/./src") ∧
      resolve text file (some "/p/./src") = "/q/db" := by
  intro file text first second
  have oneSlash : leadingSlashes (normalize file).toList = 1 := by decide +kernel
  have relative : isRelative (unquote text) = true := by decide +kernel
  have unrooted : (unifySlashes (unquote text).toList).head? ≠ some '/' := by decide +kernel
  have joined : unquote text = first ++ "/" ++ second := by decide +kernel
  have firstRelative : isRelative first = true := by decide +kernel
  have midway : walk (directorySegments file.toList) first.toList =
      ["p".toList, "src".toList, "lib".toList] := by decide +kernel
  obtain ⟨walks, goesOn⟩ := resolve_walks_from_directory file (some "/p/./src") oneSlash
  have resolved : resolve text file (some "/p/./src") = "/q/db" := by
    rw [goesOn text first second joined firstRelative (by decide +kernel), midway]
    decide +kernel
  exact ⟨oneSlash, relative, unrooted, joined, firstRelative, midway, walks text relative unrooted,
    resolved⟩

end Specifier
end LayerLint
