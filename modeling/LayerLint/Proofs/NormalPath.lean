import LayerLint.Package

/-!
# Normal paths as lists of segments

A normal path is its leading slashes and a list of segments. This file shows that a list of names can be
read back from the text of the path it makes up, that an absolute path keeps only names, and that
taking apart a path into directory and name, putting a path behind a directory, or dropping a base
directory from its front, acts on the list of segments alone.
-/

namespace LayerLint

namespace Segments

theorem splitOn_slash_cons (text : List Char) :
    ('/' :: text).splitOn '/' = [] :: text.splitOn '/' := rfl

/-- A segment of a text has no slash, and its characters are characters of the text. -/
theorem of_mem_splitOn {text : List Char} {segment : Segment} (member : segment ∈ text.splitOn '/') :
    '/' ∉ segment ∧ ∀ c ∈ segment, c ∈ text := by
  induction text generalizing segment with
  | nil =>
      rw [List.splitOn_nil, List.mem_singleton] at member
      subst member
      simp
  | cons c text ih =>
      rw [List.splitOn_cons_eq_if_modifyHead] at member
      split at member
      next slash =>
        rcases List.mem_cons.mp member with rfl | member
        · simp
        · obtain ⟨noSlash, chars⟩ := ih member
          exact ⟨noSlash, fun d inside => List.mem_cons_of_mem c (chars d inside)⟩
      next notSlash =>
        obtain ⟨first, rest, shape⟩ := List.exists_cons_of_ne_nil (List.splitOn_ne_nil '/' text)
        rw [shape, List.modifyHead_cons] at member
        rw [shape] at ih
        rcases List.mem_cons.mp member with rfl | member
        · obtain ⟨noSlash, chars⟩ := ih List.mem_cons_self
          refine ⟨?_, ?_⟩
          · intro inside
            rcases List.mem_cons.mp inside with slash | inside
            · exact notSlash (beq_iff_eq.mpr slash.symm)
            · exact noSlash inside
          · intro d inside
            rcases List.mem_cons.mp inside with rfl | inside
            · exact List.mem_cons_self
            · exact List.mem_cons_of_mem c (chars d inside)
        · obtain ⟨noSlash, chars⟩ := ih (List.mem_cons_of_mem first member)
          exact ⟨noSlash, fun d inside => List.mem_cons_of_mem c (chars d inside)⟩

/-- The first segment stands in front of a slash and the others. -/
theorem intercalate_cons (first : Segment) {rest : List Segment} (nonempty : rest ≠ []) :
    ['/'].intercalate (first :: rest) = first ++ '/' :: ['/'].intercalate rest := by
  rw [List.intercalate_cons_of_ne_nil nonempty, List.append_assoc, List.singleton_append]

theorem intercalate_append {first second : List Segment} (firstNonempty : first ≠ [])
    (secondNonempty : second ≠ []) :
    ['/'].intercalate (first ++ second) =
      ['/'].intercalate first ++ '/' :: ['/'].intercalate second := by
  induction first with
  | nil => exact absurd rfl firstNonempty
  | cons segment rest ih =>
      cases rest with
      | nil => rw [List.singleton_append, intercalate_cons segment secondNonempty,
          List.intercalate_singleton]
      | cons next rest =>
          rw [List.cons_append, intercalate_cons segment (by simp), ih (List.cons_ne_nil next rest),
            intercalate_cons segment (List.cons_ne_nil next rest), List.append_assoc, List.cons_append]

theorem intercalate_concat {directory : List Segment} (nonempty : directory ≠ []) (name : Segment) :
    ['/'].intercalate (directory ++ [name]) = ['/'].intercalate directory ++ '/' :: name := by
  rw [intercalate_append nonempty (List.cons_ne_nil name []), List.intercalate_singleton]

theorem mem_intercalate {segments : List Segment} {c : Char}
    (member : c ∈ ['/'].intercalate segments) : c = '/' ∨ ∃ segment ∈ segments, c ∈ segment := by
  induction segments with
  | nil => exact absurd member List.not_mem_nil
  | cons segment rest ih =>
      cases rest with
      | nil =>
          rw [List.intercalate_singleton] at member
          exact .inr ⟨segment, List.mem_cons_self, member⟩
      | cons next rest =>
          rw [intercalate_cons segment (List.cons_ne_nil next rest)] at member
          rcases List.mem_append.mp member with inside | member
          · exact .inr ⟨segment, List.mem_cons_self, inside⟩
          · rcases List.mem_cons.mp member with slash | member
            · exact .inl slash
            · rcases ih member with slash | ⟨other, otherMember, inside⟩
              · exact .inl slash
              · exact .inr ⟨other, List.mem_cons_of_mem segment otherMember, inside⟩

/-- Joined segments do not begin with a slash, if they are not empty and have no slash. -/
theorem head?_intercalate_ne_slash {segments : List Segment}
    (nonempty : ∀ segment ∈ segments, segment ≠ [])
    (noSlash : ∀ segment ∈ segments, '/' ∉ segment) :
    (['/'].intercalate segments).head? ≠ some '/' := by
  cases segments with
  | nil => simp
  | cons segment rest =>
      obtain ⟨c, chars, shape⟩ :=
        List.exists_cons_of_ne_nil (nonempty segment List.mem_cons_self)
      have front : (['/'].intercalate (segment :: rest)).head? = some c := by
        rw [shape, List.intercalate_cons_cons_left, List.head?_cons]
      have notSlash : c ≠ '/' := by
        intro slash
        apply noSlash segment List.mem_cons_self
        rw [shape, slash]
        exact List.mem_cons_self
      rw [front, ne_eq, Option.some.injEq]
      exact notSlash

/-- The segments in front of a text are cut off one by one. -/
theorem splitOn_intercalate_concat {segments : List Segment}
    (noSlash : ∀ segment ∈ segments, '/' ∉ segment) (text : List Char) :
    (['/'].intercalate (segments ++ [text])).splitOn '/' = segments ++ text.splitOn '/' := by
  induction segments with
  | nil => rw [List.nil_append, List.nil_append, List.intercalate_singleton]
  | cons segment segments ih =>
      rw [List.cons_append, intercalate_cons segment (by simp),
        List.splitOn_append_cons_self_of_not_mem (noSlash segment List.mem_cons_self),
        ih fun other member => noSlash other (List.mem_cons_of_mem segment member), List.cons_append]

theorem intercalate_concat_intercalate (segments : List Segment) {inner : List Segment}
    (nonempty : inner ≠ []) :
    ['/'].intercalate (segments ++ [['/'].intercalate inner]) =
      ['/'].intercalate (segments ++ inner) := by
  induction segments with
  | nil => rw [List.nil_append, List.nil_append, List.intercalate_singleton]
  | cons segment segments ih =>
      rw [List.cons_append, List.cons_append, intercalate_cons segment (by simp),
        intercalate_cons segment (by simp [nonempty]), ih]

theorem cutLast_append {mark : Char} (before : List Char) {after : List Char}
    (noMark : mark ∉ after) :
    cutLast mark (before ++ mark :: after) = some (before, after) := by
  have uncut : cutLast mark after = none := by
    induction after with
    | nil => rfl
    | cons c after ih =>
        have notMark : c ≠ mark := fun same => noMark (same ▸ List.mem_cons_self)
        rw [cutLast, ih fun member => noMark (List.mem_cons_of_mem c member)]
        exact if_neg notMark
  induction before with
  | nil => simp [cutLast, uncut]
  | cons c before ih => simp [cutLast, ih]

end Segments

namespace NormalPath

open Segments

/-- A segment that a normal path keeps. -/
structure IsKept (segment : Segment) : Prop where
  ne_nil : segment ≠ []
  ne_dot : segment ≠ ['.']
  noSlash : '/' ∉ segment
  noBackslash : '\\' ∉ segment

/-- A segment that names a file or a directory. -/
structure IsName (segment : Segment) : Prop extends IsKept segment where
  ne_parent : segment ≠ parent

def rootOfPath (path : List Char) : Root :=
  rootOf (unifySlashes path)

/-- The segments of the normal form of a path. -/
def segmentsOf (path : List Char) : List Segment :=
  fold (rootOfPath path).isAbsolute ((unifySlashes path).splitOn '/')

/-- A path is strictly below a base directory when it has all segments of the base directory, and then
at least one more. -/
def IsBelow (path base : List Char) : Prop :=
  ∃ rest, rest ≠ [] ∧ segmentsOf path = segmentsOf base ++ rest

/-- The absolute path with a single leading slash and the given segments. -/
def absolute (segments : List Segment) : List Char :=
  '/' :: ['/'].intercalate segments

theorem absolute_ne_nil (segments : List Segment) : absolute segments ≠ [] :=
  List.cons_ne_nil '/' (['/'].intercalate segments)

theorem absolute_singleton (name : Segment) : absolute [name] = '/' :: name := by
  rw [absolute, List.intercalate_singleton]

theorem absolute_concat {directory : List Segment} (notRoot : directory ≠ []) (name : Segment) :
    absolute (directory ++ [name]) = absolute directory ++ '/' :: name := by
  rw [absolute, intercalate_concat notRoot]
  rfl

theorem absolute_concat_append (directory : List Segment) (name extension : List Char) :
    absolute (directory ++ [name]) ++ extension = absolute (directory ++ [name ++ extension]) := by
  by_cases atRoot : directory = []
  · rw [atRoot, List.nil_append, List.nil_append, absolute_singleton, absolute_singleton,
      List.cons_append]
  · rw [absolute_concat atRoot, absolute_concat atRoot, List.append_assoc, List.cons_append]

theorem unifySlashes_of_no_backslash {path : List Char} (noBackslash : '\\' ∉ path) :
    unifySlashes path = path := by
  rw [unifySlashes, List.map_congr_left (g := id), List.map_id]
  intro c member
  have plain : c ≠ '\\' := fun same => noBackslash (same ▸ member)
  simp [plain]

theorem no_backslash_unifySlashes (path : List Char) : '\\' ∉ unifySlashes path := by
  intro member
  obtain ⟨c, -, same⟩ := List.mem_map.mp member
  by_cases backslash : c = '\\'
  · simp [backslash] at same
  · rw [if_neg backslash] at same
    exact backslash same

theorem unifySlashes_ne_nil {path : List Char} (nonempty : path ≠ []) : unifySlashes path ≠ [] := by
  simpa [unifySlashes] using nonempty

theorem push_name {segment : Segment} (name : IsName segment) (isAbsolute : Bool)
    (stack : List Segment) :
    push isAbsolute stack segment = segment :: stack := by
  unfold push
  rw [if_neg (not_or.mpr ⟨name.ne_nil, name.ne_dot⟩), if_neg name.ne_parent]

/-- A segment is put on the stack only if it is not dropped; a double dot moreover only if there is
nothing that it could cancel. -/
theorem mem_push {isAbsolute : Bool} {stack : List Segment} {segment other : Segment}
    (member : other ∈ push isAbsolute stack segment) :
    other ∈ stack ∨
      (other = segment ∧ segment ≠ [] ∧ segment ≠ ['.'] ∧
        (segment = parent → isAbsolute = false ∨ parent ∈ stack)) := by
  unfold push at member
  split at member
  next => exact .inl member
  next kept =>
    obtain ⟨neNil, neDot⟩ := not_or.mp kept
    split at member
    next isParent =>
      cases stack with
      | nil =>
          cases isAbsolute with
          | true => exact absurd member List.not_mem_nil
          | false =>
              refine .inr ⟨?_, neNil, neDot, fun _ => .inl rfl⟩
              exact (List.mem_singleton.mp member).trans isParent.symm
      | cons top rest =>
          by_cases topParent : top = parent
          · simp only [if_pos topParent] at member
            rcases List.mem_cons.mp member with rfl | member
            · refine .inr ⟨isParent.symm, neNil, neDot, fun _ => .inr ?_⟩
              rw [topParent]
              exact List.mem_cons_self
            · exact .inl member
          · simp only [if_neg topParent] at member
            exact .inl (List.mem_cons_of_mem top member)
    next neParent =>
      rcases List.mem_cons.mp member with rfl | member
      · exact .inr ⟨rfl, neNil, neDot, fun isParent => absurd isParent neParent⟩
      · exact .inl member

/-- What holds of all segments on a stack, and of each segment that is put on it, holds of all segments
that are left in the end. -/
theorem forall_mem_foldl_push {isAbsolute : Bool} {property : Segment → Prop}
    {segments stack : List Segment} (onStack : ∀ other ∈ stack, property other)
    (pushed : ∀ segment ∈ segments, segment ≠ [] → segment ≠ ['.'] →
      (segment = parent → isAbsolute = false ∨ property parent) → property segment) :
    ∀ other ∈ segments.foldl (push isAbsolute) stack, property other := by
  induction segments generalizing stack with
  | nil => exact onStack
  | cons segment segments ih =>
      apply ih
      · intro other member
        rcases mem_push member with member | ⟨rfl, neNil, neDot, asParent⟩
        · exact onStack other member
        · refine pushed other List.mem_cons_self neNil neDot fun isParent => ?_
          exact (asParent isParent).imp_right (onStack parent)
      · exact fun other member => pushed other (List.mem_cons_of_mem segment member)

theorem forall_mem_segmentsOf {path : List Char} {property : Segment → Prop}
    (pushed : ∀ segment, IsKept segment →
      (segment = parent → (rootOfPath path).isAbsolute = false ∨ property parent) →
        property segment) :
    ∀ segment ∈ segmentsOf path, property segment := by
  intro segment member
  rw [segmentsOf, fold, List.mem_reverse] at member
  refine forall_mem_foldl_push (by simp) ?_ segment member
  intro other otherMember neNil neDot
  obtain ⟨noSlash, chars⟩ := of_mem_splitOn otherMember
  have noBackslash : '\\' ∉ other := fun inside => no_backslash_unifySlashes path (chars _ inside)
  exact pushed other ⟨neNil, neDot, noSlash, noBackslash⟩

theorem isKept_of_mem_segmentsOf {path : List Char} {segment : Segment}
    (member : segment ∈ segmentsOf path) : IsKept segment :=
  forall_mem_segmentsOf (fun _ kept _ => kept) segment member

theorem isName_of_mem_segmentsOf {path : List Char}
    (isAbsolute : (rootOfPath path).isAbsolute = true) {segment : Segment}
    (member : segment ∈ segmentsOf path) : IsName segment := by
  refine forall_mem_segmentsOf ?_ segment member
  intro other kept asParent
  refine ⟨kept, fun isParent => ?_⟩
  rcases asParent isParent with relative | name
  · rw [isAbsolute] at relative
    exact absurd relative (by decide)
  · exact name.ne_parent rfl

theorem isName_of_single {path : List Char} (single : rootOfPath path = .single) :
    ∀ segment ∈ segmentsOf path, IsName segment := fun _ =>
  isName_of_mem_segmentsOf (by rw [single]; rfl)

theorem foldl_push_names {segments : List Segment} (isAbsolute : Bool) (stack : List Segment)
    (names : ∀ segment ∈ segments, IsName segment) :
    segments.foldl (push isAbsolute) stack = segments.reverse ++ stack := by
  induction segments generalizing stack with
  | nil => rfl
  | cons segment segments ih =>
      rw [List.foldl_cons, push_name (names segment List.mem_cons_self),
        ih _ fun other member => names other (List.mem_cons_of_mem segment member)]
      simp

theorem join_ne_slash_cons {segments : List Segment} (kept : ∀ segment ∈ segments, IsKept segment)
    (text : List Char) : ['/'].intercalate segments ≠ '/' :: text := by
  intro joined
  have front := head?_intercalate_ne_slash (fun segment member => (kept segment member).ne_nil)
    fun segment member => (kept segment member).noSlash
  rw [joined] at front
  exact front rfl

theorem no_backslash_join {segments : List Segment}
    (kept : ∀ segment ∈ segments, IsKept segment) : '\\' ∉ ['/'].intercalate segments := by
  intro member
  rcases mem_intercalate member with slash | ⟨segment, segmentMember, inside⟩
  · exact absurd slash (by decide)
  · exact (kept segment segmentMember).noBackslash inside

theorem unifySlashes_append_intercalate (root : Root) {segments : List Segment}
    (kept : ∀ segment ∈ segments, IsKept segment) :
    unifySlashes (root.slashes ++ ['/'].intercalate segments) = root.slashes ++ ['/'].intercalate segments := by
  apply unifySlashes_of_no_backslash
  intro member
  rcases List.mem_append.mp member with member | member
  · cases root <;> exact absurd member (by decide)
  · exact no_backslash_join kept member

theorem rootOfPath_append_intercalate (root : Root) {segments : List Segment}
    (kept : ∀ segment ∈ segments, IsKept segment) :
    rootOfPath (root.slashes ++ ['/'].intercalate segments) = root := by
  have front := join_ne_slash_cons kept
  rw [rootOfPath, unifySlashes_append_intercalate root kept]
  cases text : ['/'].intercalate segments with
  | nil => cases root <;> rfl
  | cons c chars =>
      have notSlash : c ≠ '/' := fun slash => front chars (slash ▸ text)
      cases root <;> simp [Root.slashes, rootOf, notSlash]

theorem rootOfPath_absolute {segments : List Segment}
    (names : ∀ segment ∈ segments, IsName segment) :
    rootOfPath (absolute segments) = .single :=
  rootOfPath_append_intercalate .single fun segment member => (names segment member).toIsKept

/-- The segments of a path made up of names are these names. -/
theorem segmentsOf_absolute {segments : List Segment}
    (names : ∀ segment ∈ segments, IsName segment) :
    segmentsOf (absolute segments) = segments := by
  have text : unifySlashes (absolute segments) = absolute segments :=
    unifySlashes_append_intercalate .single fun segment member => (names segment member).toIsKept
  rw [segmentsOf, rootOfPath_absolute names, text, absolute, splitOn_slash_cons, fold,
    List.foldl_cons]
  -- The text before the leading slash is an empty segment, which is dropped.
  have skipped : push Root.single.isAbsolute [] [] = [] := rfl
  rw [skipped]
  cases segments with
  | nil => rfl
  | cons segment rest =>
      rw [List.splitOn_intercalate '/' (fun other member => (names other member).noSlash)
        (List.cons_ne_nil segment rest), foldl_push_names _ _ names]
      simp

theorem toList_normalize (path : String) :
    (normalize path).toList = normalizeChars path.toList := by
  rw [normalize, String.toList_ofList]

theorem normalize_eq_iff (path result : String) :
    normalize path = result ↔ normalizeChars path.toList = result.toList := by
  rw [← String.toList_inj, toList_normalize]

theorem normalizeChars_eq_render {path : List Char} (nonempty : unifySlashes path ≠ []) :
    normalizeChars path = render (rootOfPath path) (segmentsOf path) := by
  rw [normalizeChars, if_neg nonempty]
  rfl

theorem normalizeChars_of_isAbsolute {path : List Char}
    (isAbsolute : (rootOfPath path).isAbsolute = true) :
    normalizeChars path = (rootOfPath path).slashes ++ ['/'].intercalate (segmentsOf path) := by
  have nonempty : unifySlashes path ≠ [] := by
    intro empty
    rw [rootOfPath, empty] at isAbsolute
    exact absurd isAbsolute (by decide)
  rw [normalizeChars_eq_render nonempty]
  cases root : rootOfPath path with
  | relative =>
      rw [root] at isAbsolute
      exact absurd isAbsolute (by decide)
  | single => rfl
  | double => rfl

theorem rootOfPath_normalizeChars (path : List Char) :
    rootOfPath (normalizeChars path) = rootOfPath path := by
  by_cases nonempty : unifySlashes path = []
  · rw [normalizeChars, if_pos nonempty, rootOfPath, rootOfPath, nonempty]
    rfl
  · -- Only a relative path can have nothing left; it is then written as a single dot.
    rw [normalizeChars_eq_render nonempty]
    cases text : (rootOfPath path).slashes ++ ['/'].intercalate (segmentsOf path) with
    | nil =>
        have relative : rootOfPath path = .relative := by
          cases root : rootOfPath path with
          | relative => rfl
          | single => simp [root, Root.slashes] at text
          | double => simp [root, Root.slashes] at text
        rw [render, text, relative]
        rfl
    | cons c chars =>
        have rendered : render (rootOfPath path) (segmentsOf path) =
            (rootOfPath path).slashes ++ ['/'].intercalate (segmentsOf path) := by
          rw [render, text]
        rw [rendered, rootOfPath_append_intercalate _ fun _ => isKept_of_mem_segmentsOf]

theorem normalizeChars_of_single {path : List Char} (single : rootOfPath path = .single) :
    normalizeChars path = absolute (segmentsOf path) := by
  rw [normalizeChars_of_isAbsolute (by rw [single]; rfl), single]
  rfl

theorem normalizeChars_absolute {segments : List Segment}
    (names : ∀ segment ∈ segments, IsName segment) :
    normalizeChars (absolute segments) = absolute segments := by
  rw [normalizeChars_of_single (rootOfPath_absolute names), segmentsOf_absolute names]

/-- A normal path with a single leading slash is made up of its segments. -/
theorem eq_absolute_of_single {path : List Char}
    (single : rootOfPath (normalizeChars path) = .single) :
    normalizeChars path = absolute (segmentsOf (normalizeChars path)) := by
  rw [rootOfPath_normalizeChars] at single
  rw [normalizeChars_of_single single, segmentsOf_absolute (isName_of_single single)]

theorem exists_last_of_kept {segments : List Segment} (nonempty : segments ≠ [])
    (kept : ∀ segment ∈ segments, IsKept segment) :
    ∃ front c, ['/'].intercalate segments = front ++ [c] ∧ c ≠ '/' := by
  induction segments with
  | nil => exact absurd rfl nonempty
  | cons segment rest ih =>
      cases rest with
      | nil =>
          have only := kept segment List.mem_cons_self
          refine ⟨segment.dropLast, segment.getLast only.ne_nil, ?_, ?_⟩
          · rw [List.intercalate_singleton, List.dropLast_concat_getLast only.ne_nil]
          · intro slash
            exact only.noSlash (slash ▸ List.getLast_mem only.ne_nil)
      | cons next rest =>
          obtain ⟨front, c, shape, notSlash⟩ := ih (List.cons_ne_nil next rest)
            fun other member => kept other (List.mem_cons_of_mem segment member)
          refine ⟨segment ++ '/' :: front, c, ?_, notSlash⟩
          rw [intercalate_cons segment (List.cons_ne_nil next rest), shape, List.append_assoc,
            List.cons_append]

theorem trimSlashes_append_intercalate {segments : List Segment} (nonempty : segments ≠ [])
    (kept : ∀ segment ∈ segments, IsKept segment) (front : List Char) :
    BaseDir.trimSlashes (front ++ ['/'].intercalate segments) = front ++ ['/'].intercalate segments := by
  obtain ⟨start, c, shape, notSlash⟩ := exists_last_of_kept nonempty kept
  rw [BaseDir.trimSlashes, shape, ← List.append_assoc, List.reverse_append, List.reverse_singleton,
    List.singleton_append]
  simp [notSlash]

theorem last_absolute {directory : List Segment} {name : Segment}
    (names : ∀ segment ∈ directory ++ [name], IsName segment) :
    last (absolute (directory ++ [name])) = name := by
  have nonempty : directory ++ [name] ≠ [] := by simp
  rw [last, absolute, splitOn_slash_cons,
    List.splitOn_intercalate '/' (fun segment member => (names segment member).noSlash) nonempty,
    ← List.cons_append, List.getLastD_concat]

theorem splitName_append_intercalate {root : Root} (isAbsolute : root.isAbsolute = true)
    {directory : List Segment} {name : Segment}
    (kept : ∀ segment ∈ directory ++ [name], IsKept segment) :
    splitName (root.slashes ++ ['/'].intercalate (directory ++ [name])) =
      (root.slashes ++ ['/'].intercalate directory, name) := by
  have noSlash : '/' ∉ name := (kept name (by simp)).noSlash
  by_cases atRoot : directory = []
  · subst atRoot
    cases root with
    | relative => exact absurd isAbsolute (by decide)
    | single =>
        have cut : cutLast '/' ('/' :: name) = some ([], name) := cutLast_append [] noSlash
        have text : Root.single.slashes ++ ['/'].intercalate ([] ++ [name]) = '/' :: name :=
          absolute_singleton name
        rw [text, splitName, cut]
        rfl
    | double =>
        have cut : cutLast '/' ('/' :: '/' :: name) = some (['/'], name) := cutLast_append ['/'] noSlash
        have text : Root.double.slashes ++ ['/'].intercalate ([] ++ [name]) = '/' :: '/' :: name :=
          congrArg ('/' :: ·) (absolute_singleton name)
        rw [text, splitName, cut]
        rfl
  · have directoryKept : ∀ segment ∈ directory, IsKept segment := fun segment member =>
      kept segment (List.mem_append_left [name] member)
    have notAllSlashes : ¬ (root.slashes ++ ['/'].intercalate directory).all (· == '/') = true := by
      obtain ⟨front, c, last, notSlash⟩ := exists_last_of_kept atRoot directoryKept
      simp [last, notSlash]
    have trimmed := trimSlashes_append_intercalate atRoot directoryKept root.slashes
    rw [splitName, intercalate_concat atRoot, ← List.append_assoc, cutLast_append _ noSlash]
    simp only [if_neg notAllSlashes, Prod.mk.injEq, and_true]
    exact trimmed

theorem splitName_absolute {directory : List Segment} {name : Segment}
    (names : ∀ segment ∈ directory ++ [name], IsName segment) :
    splitName (absolute (directory ++ [name])) = (absolute directory, name) := by
  have single : Root.single.isAbsolute = true := rfl
  exact splitName_append_intercalate single fun segment member => (names segment member).toIsKept

/-- A text that does not begin with a slash is put behind a directory as its last segment. -/
theorem append_absolute {directory : List Segment} (kept : ∀ segment ∈ directory, IsKept segment)
    {text : List Char} (unrooted : text.head? ≠ some '/') :
    append (absolute directory) text = absolute (directory ++ [text]) := by
  unfold append
  split
  next rest => exact absurd rfl unrooted
  next =>
    by_cases atRoot : directory = []
    · rw [atRoot, List.nil_append, absolute_singleton]
      rfl
    · obtain ⟨front, c, shape, notSlash⟩ := exists_last_of_kept atRoot kept
      have unslashed : (absolute directory).getLast? ≠ some '/' := by
        rw [absolute, shape, ← List.cons_append, List.getLast?_concat]
        exact fun slash => notSlash (Option.some.inj slash)
      rw [if_neg (not_or.mpr ⟨absolute_ne_nil directory, unslashed⟩), absolute_concat atRoot]

theorem rootOf_absolute_concat {directory : List Segment}
    (kept : ∀ segment ∈ directory, IsKept segment) {text : List Char}
    (unrooted : text.head? ≠ some '/') :
    rootOf (absolute (directory ++ [text])) = .single := by
  have front : (['/'].intercalate (directory ++ [text])).head? ≠ some '/' := by
    cases directory with
    | nil => rwa [List.nil_append, List.intercalate_singleton]
    | cons segment directory =>
        have first := kept segment List.mem_cons_self
        obtain ⟨c, chars, shape⟩ := List.exists_cons_of_ne_nil first.ne_nil
        rw [List.cons_append, shape, List.intercalate_cons_cons_left, List.head?_cons]
        intro slash
        apply first.noSlash
        rw [shape, Option.some.inj slash]
        exact List.mem_cons_self
  rw [absolute]
  cases text : ['/'].intercalate (directory ++ [text]) with
  | nil => rfl
  | cons c chars =>
      have notSlash : c ≠ '/' := fun slash => front (by rw [text, slash]; rfl)
      simp [rootOf, notSlash]

/-- The segments of a path behind a directory are those that are left when its own segments are applied,
one after the other, to the directory. -/
theorem segmentsOf_append {directory : List Segment} (names : ∀ segment ∈ directory, IsName segment)
    {text : List Char} (unrooted : text.head? ≠ some '/') (noBackslash : '\\' ∉ text) :
    rootOfPath (append (absolute directory) text) = .single ∧
      segmentsOf (append (absolute directory) text) =
        ((text.splitOn '/').foldl (push true) directory.reverse).reverse := by
  have kept : ∀ segment ∈ directory, IsKept segment := fun segment member =>
    (names segment member).toIsKept
  have plain : unifySlashes (absolute (directory ++ [text])) = absolute (directory ++ [text]) := by
    apply unifySlashes_of_no_backslash
    intro member
    rcases List.mem_cons.mp member with slash | member
    · exact absurd slash (by decide)
    · rcases mem_intercalate member with slash | ⟨segment, segmentMember, inside⟩
      · exact absurd slash (by decide)
      · rcases List.mem_append.mp segmentMember with inDirectory | isText
        · exact (kept segment inDirectory).noBackslash inside
        · rw [List.mem_singleton.mp isText] at inside
          exact noBackslash inside
  have single := rootOf_absolute_concat kept unrooted
  rw [append_absolute kept unrooted, segmentsOf, rootOfPath, plain, single, absolute,
    splitOn_slash_cons, splitOn_intercalate_concat fun segment member => (kept segment member).noSlash,
    fold, List.foldl_cons, List.foldl_append]
  have skipped : push Root.single.isAbsolute [] [] = [] := rfl
  rw [skipped, foldl_push_names _ _ names, List.append_nil]
  exact ⟨rfl, rfl⟩

end NormalPath

namespace BaseDir

open Segments NormalPath

theorem afterPrefix?_append (start rest : List Char) :
    afterPrefix? start (start ++ rest) = some rest := by
  induction start with
  | nil => rfl
  | cons c start ih =>
      rw [List.cons_append, afterPrefix?, if_pos rfl]
      exact ih

theorem eq_append_of_afterPrefix? {start text rest : List Char}
    (found : afterPrefix? start text = some rest) : text = start ++ rest := by
  induction start generalizing text with
  | nil => exact Option.some.inj found
  | cons c start ih =>
      cases text with
      | nil => exact absurd found (by simp [afterPrefix?])
      | cons d text =>
          rw [afterPrefix?] at found
          split at found
          next same => rw [same, List.cons_append, ← ih found]
          next => exact absurd found (by simp)

theorem stripTrimmed_of_ne_nil {base : List Char} (notRoot : base ≠ []) (path : List Char) :
    stripTrimmed path base =
      if path = base then [] else (afterPrefix? (base ++ ['/']) path).getD path := by
  unfold stripTrimmed
  rw [if_neg notRoot]

theorem stripChars_isSuffix (path base : List Char) : stripChars path base <:+ path := by
  rw [stripChars]
  split
  next => exact List.suffix_rfl
  next =>
    by_cases atRoot : trimSlashes (normalizeChars base) = []
    · rw [atRoot]
      unfold stripTrimmed
      rw [if_pos rfl]
      split
      next => exact List.suffix_cons _ _
      next => exact List.suffix_rfl
    · rw [stripTrimmed_of_ne_nil atRoot]
      split
      next => exact List.nil_suffix
      next =>
        cases found : afterPrefix? (trimSlashes (normalizeChars base) ++ ['/']) path with
        | none => exact List.suffix_rfl
        | some rest =>
            rw [eq_append_of_afterPrefix? found]
            exact List.suffix_append _ _

theorem stripChars_of_isAbsolute {base : List Char}
    (isAbsolute : (rootOfPath base).isAbsolute = true) (path : List Char) :
    stripChars path base =
      stripTrimmed path (trimSlashes ((rootOfPath base).slashes ++ ['/'].intercalate (segmentsOf base))) := by
  have nonempty : base ≠ [] := by
    intro empty
    rw [empty] at isAbsolute
    exact absurd isAbsolute (by decide)
  rw [stripChars, if_neg nonempty, normalizeChars_of_isAbsolute isAbsolute]

theorem stripChars_root {base : List Char} (isAbsolute : (rootOfPath base).isAbsolute = true)
    (atRoot : segmentsOf base = []) (segments : List Segment) :
    stripChars (absolute segments) base = ['/'].intercalate segments := by
  rw [stripChars_of_isAbsolute isAbsolute, atRoot]
  cases root : rootOfPath base with
  | relative =>
      rw [root] at isAbsolute
      exact absurd isAbsolute (by decide)
  | single => rfl
  | double => rfl

theorem stripChars_of_single {base : List Char} (single : rootOfPath base = .single)
    (notRoot : segmentsOf base ≠ []) (path : List Char) :
    stripChars path base =
      if path = absolute (segmentsOf base) then []
      else (afterPrefix? (absolute (segmentsOf base) ++ ['/']) path).getD path := by
  have isAbsolute : (rootOfPath base).isAbsolute = true := by
    rw [single]
    rfl
  have trimmed : trimSlashes ((rootOfPath base).slashes ++ ['/'].intercalate (segmentsOf base)) =
      absolute (segmentsOf base) := by
    rw [trimSlashes_append_intercalate notRoot fun _ => isKept_of_mem_segmentsOf, single]
    rfl
  rw [stripChars_of_isAbsolute isAbsolute, trimmed, stripTrimmed_of_ne_nil (absolute_ne_nil _)]

/-- A base directory with a single leading slash drops its own segments. -/
theorem stripChars_below {base : List Char} (single : rootOfPath base = .single)
    (rest : List Segment) :
    stripChars (absolute (segmentsOf base ++ rest)) base = ['/'].intercalate rest := by
  by_cases atRoot : segmentsOf base = []
  · have isAbsolute : (rootOfPath base).isAbsolute = true := by
      rw [single]
      rfl
    rw [stripChars_root isAbsolute atRoot, atRoot, List.nil_append]
  · rw [stripChars_of_single single atRoot]
    by_cases atBase : rest = []
    · rw [atBase, List.append_nil, if_pos rfl]
      rfl
    · have shape : absolute (segmentsOf base ++ rest) =
          absolute (segmentsOf base) ++ ['/'] ++ ['/'].intercalate rest := by
        rw [absolute, intercalate_append atRoot atBase]
        simp [absolute]
      have longer : absolute (segmentsOf base ++ rest) ≠ absolute (segmentsOf base) := by
        rw [shape]
        simp
      rw [if_neg longer, shape, afterPrefix?_append]
      rfl

/-- A base directory with two leading slashes does not begin a path with one. -/
theorem stripChars_double {base : List Char} (double : rootOfPath base = .double)
    (notRoot : segmentsOf base ≠ []) {segments : List Segment}
    (names : ∀ segment ∈ segments, IsName segment) :
    stripChars (absolute segments) base = absolute segments := by
  have isAbsolute : (rootOfPath base).isAbsolute = true := by
    rw [double]
    rfl
  have front := join_ne_slash_cons fun segment member => (names segment member).toIsKept
  have trimmed : trimSlashes ((rootOfPath base).slashes ++ ['/'].intercalate (segmentsOf base)) =
      '/' :: '/' :: ['/'].intercalate (segmentsOf base) := by
    rw [trimSlashes_append_intercalate notRoot fun _ => isKept_of_mem_segmentsOf, double]
    rfl
  rw [stripChars_of_isAbsolute isAbsolute, trimmed, stripTrimmed_of_ne_nil (List.cons_ne_nil _ _)]
  have different : absolute segments ≠ '/' :: '/' :: ['/'].intercalate (segmentsOf base) := fun same =>
    front _ (List.cons.inj same).2
  rw [if_neg different]
  have unmatched : afterPrefix? ('/' :: '/' :: ['/'].intercalate (segmentsOf base) ++ ['/'])
      (absolute segments) = none := by
    rw [absolute, List.cons_append, List.cons_append, afterPrefix?, if_pos rfl]
    cases text : ['/'].intercalate segments with
    | nil => rfl
    | cons c chars =>
        have notSlash : c ≠ '/' := fun slash => front chars (slash ▸ text)
        rw [afterPrefix?, if_neg notSlash]
  rw [unmatched]
  rfl

end BaseDir
end LayerLint
