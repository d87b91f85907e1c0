import LayerLint.Proofs.NormalPath
import Mathlib.Data.List.TakeWhile

/-!
# Canonical paths

The normal form of a path is described here by rules that do not mention how it is computed: what each
segment does to the segments in front of it, how many leading slashes are kept, and how the result is
written. Double dots can only lie at the bottom of the stack of segments, and never below a root. This
invariant says that the rules always apply and that the text they give is in normal form already, so that
the normal forms are just the texts which normalizing leaves alone.
-/

namespace LayerLint
namespace NormalPath

open Segments

/-- What one segment does to the segments in front of it, of which the innermost comes first. -/
inductive Applies (isAbsolute : Bool) : List Segment → Segment → List Segment → Prop
  | skip {stack : List Segment} {segment : Segment} (idle : segment = [] ∨ segment = ['.']) :
      Applies isAbsolute stack segment stack
  | enter {stack : List Segment} {name : Segment} (kept : ¬ (name = [] ∨ name = ['.']))
      (real : name ≠ parent) : Applies isAbsolute stack name (name :: stack)
  | leave {top : Segment} {stack : List Segment} (real : top ≠ parent) :
      Applies isAbsolute (top :: stack) parent stack
  | vanish (rooted : isAbsolute = true) : Applies isAbsolute [] parent []
  | climb {stack : List Segment} (relative : isAbsolute = false)
      (nothingReal : ∀ segment ∈ stack, segment = parent) :
      Applies isAbsolute stack parent (parent :: stack)

/-- What some segments do one after the other. -/
inductive AppliesAll (isAbsolute : Bool) : List Segment → List Segment → List Segment → Prop
  | nil {stack : List Segment} : AppliesAll isAbsolute stack [] stack
  | cons {stack next last : List Segment} {segment : Segment} {segments : List Segment}
      (first : Applies isAbsolute stack segment next)
      (rest : AppliesAll isAbsolute next segments last) :
      AppliesAll isAbsolute stack (segment :: segments) last

/-- The number of slashes that a text begins with. -/
def leadingSlashes (text : List Char) : Nat :=
  (text.takeWhile (· == '/')).length

/-- How many of its leading slashes a path keeps: two if they are just two, and otherwise at most one. -/
def keptSlashes (count : Nat) : Nat :=
  if count = 2 then 2 else min count 1

/-- Slashes and segments as a text, with a single dot for nothing at all. -/
def written (slashes : Nat) (segments : List Segment) : List Char :=
  if slashes = 0 ∧ segments = [] then ['.'] else List.replicate slashes '/' ++ ['/'].intercalate segments

/-- A text is the normal form of a path. -/
inductive HasNormalForm : List Char → List Char → Prop
  | empty : HasNormalForm [] []
  | folded {path : List Char} (nonempty : path ≠ []) {slashes : Nat}
      (counted : leadingSlashes (unifySlashes path) = slashes) {stack : List Segment}
      (applied : AppliesAll (slashes != 0) [] ((unifySlashes path).splitOn '/') stack) :
      HasNormalForm path (written (keptSlashes slashes) stack.reverse)

/-- The segments of a text behind its leading slashes. -/
def innerSegments (text : List Char) : List Segment :=
  if text.dropWhile (· == '/') = [] then [] else (text.dropWhile (· == '/')).splitOn '/'

/-- A text is in normal form. The empty text is, too: it has neither slashes nor segments. -/
structure IsNormal (path : List Char) : Prop where
  noBackslash : '\\' ∉ path
  fewSlashes : leadingSlashes path ≤ 2
  noEmpty : [] ∉ innerSegments path
  onlyDot : ['.'] ∈ innerSegments path → path = ['.']
  parentsFirst : parent ∉ (innerSegments path).dropWhile (· == parent)
  noParent : leadingSlashes path ≠ 0 → parent ∉ innerSegments path
  noTrailing : path.getLast? = some '/' → path = ['/'] ∨ path = ['/', '/']

instance (path : List Char) : Decidable (IsNormal path) :=
  decidable_of_iff ('\\' ∉ path ∧ leadingSlashes path ≤ 2 ∧ [] ∉ innerSegments path ∧
      (['.'] ∈ innerSegments path → path = ['.']) ∧
      parent ∉ (innerSegments path).dropWhile (· == parent) ∧
      (leadingSlashes path ≠ 0 → parent ∉ innerSegments path) ∧
      (path.getLast? = some '/' → path = ['/'] ∨ path = ['/', '/']))
    ⟨fun ⟨noBackslash, fewSlashes, noEmpty, onlyDot, parentsFirst, noParent, noTrailing⟩ =>
        ⟨noBackslash, fewSlashes, noEmpty, onlyDot, parentsFirst, noParent, noTrailing⟩,
      fun ⟨noBackslash, fewSlashes, noEmpty, onlyDot, parentsFirst, noParent, noTrailing⟩ =>
        ⟨noBackslash, fewSlashes, noEmpty, onlyDot, parentsFirst, noParent, noTrailing⟩⟩

/-- A stack on which double dots lie at the bottom only, and not at all below a root. -/
inductive IsSettled (isAbsolute : Bool) : List Segment → Prop
  | bottom {stack : List Segment} (nothingReal : ∀ segment ∈ stack, segment = parent)
      (rooted : isAbsolute = true → stack = []) : IsSettled isAbsolute stack
  | above {name : Segment} {stack : List Segment} (real : name ≠ parent)
      (below : IsSettled isAbsolute stack) : IsSettled isAbsolute (name :: stack)

section Stack

variable {isAbsolute : Bool}

theorem isSettled_nil : IsSettled isAbsolute [] :=
  .bottom (by simp) fun _ => rfl

theorem Applies.isSettled {stack next : List Segment} {segment : Segment}
    (applied : Applies isAbsolute stack segment next) (settled : IsSettled isAbsolute stack) :
    IsSettled isAbsolute next := by
  cases applied with
  | skip idle => exact settled
  | enter kept real => exact .above real settled
  | leave real =>
      cases settled with
      | bottom nothingReal rooted => exact absurd (nothingReal _ List.mem_cons_self) real
      | above _ below => exact below
  | vanish rooted => exact settled
  | climb relative nothingReal =>
      refine .bottom (List.forall_mem_cons.mpr ⟨rfl, nothingReal⟩) fun rooted => ?_
      rw [relative] at rooted
      exact absurd rooted Bool.false_ne_true

theorem Applies.eq_push {stack next : List Segment} {segment : Segment}
    (applied : Applies isAbsolute stack segment next) : next = push isAbsolute stack segment := by
  unfold push
  cases applied with
  | skip idle => rw [if_pos idle]
  | enter kept real => rw [if_neg kept, if_neg real]
  | leave real =>
      rw [if_neg (by decide), if_pos rfl]
      exact (if_neg real).symm
  | vanish rooted =>
      rw [if_neg (by decide), if_pos rfl]
      exact (if_pos rooted).symm
  | climb relative nothingReal =>
      rw [if_neg (by decide), if_pos rfl]
      cases stack with
      | nil =>
          have notRooted : ¬ isAbsolute = true := by simp [relative]
          exact (if_neg notRooted).symm
      | cons top stack => exact (if_pos (nothingReal top List.mem_cons_self)).symm

/-- On a settled stack one of the rules always applies. -/
theorem exists_applies {stack : List Segment} (settled : IsSettled isAbsolute stack)
    (segment : Segment) : ∃ next, Applies isAbsolute stack segment next := by
  by_cases idle : segment = [] ∨ segment = ['.']
  · exact ⟨stack, .skip idle⟩
  by_cases isParent : segment = parent
  · subst isParent
    cases settled with
    | bottom nothingReal rooted =>
        -- Below a root only the empty stack has nothing real on it, and there a double dot vanishes.
        cases isAbsolute with
        | true =>
            rw [rooted rfl]
            exact ⟨[], .vanish rfl⟩
        | false => exact ⟨parent :: stack, .climb rfl nothingReal⟩
    | above real below => exact ⟨_, .leave real⟩
  · exact ⟨segment :: stack, .enter idle isParent⟩

theorem applies_push {stack : List Segment} (settled : IsSettled isAbsolute stack)
    (segment : Segment) : Applies isAbsolute stack segment (push isAbsolute stack segment) := by
  obtain ⟨next, applied⟩ := exists_applies settled segment
  rw [← applied.eq_push]
  exact applied

theorem appliesAll_iff {stack : List Segment} (settled : IsSettled isAbsolute stack)
    {segments last : List Segment} :
    AppliesAll isAbsolute stack segments last ↔ last = segments.foldl (push isAbsolute) stack := by
  constructor
  · intro applied
    induction applied with
    | nil => rfl
    | cons first rest ih =>
        rw [List.foldl_cons, ← first.eq_push]
        exact ih (first.isSettled settled)
  · rintro rfl
    induction segments generalizing stack with
    | nil => exact .nil
    | cons segment segments ih =>
        have first := applies_push settled segment
        exact .cons first (ih (first.isSettled settled))

theorem isSettled_foldl_push {stack : List Segment} (settled : IsSettled isAbsolute stack)
    (segments : List Segment) : IsSettled isAbsolute (segments.foldl (push isAbsolute) stack) := by
  induction segments generalizing stack with
  | nil => exact settled
  | cons segment segments ih => exact ih ((applies_push settled segment).isSettled settled)

theorem IsSettled.parentsFirst {stack : List Segment} (settled : IsSettled isAbsolute stack) :
    parent ∉ stack.reverse.dropWhile (· == parent) := by
  induction settled with
  | bottom nothingReal rooted =>
      rw [List.dropWhile_eq_nil_iff.mpr]
      · exact List.not_mem_nil
      · intro segment member
        exact beq_iff_eq.mpr (nothingReal segment (List.mem_reverse.mp member))
  | @above name stack real below ih =>
      rw [List.reverse_cons, List.dropWhile_append]
      split
      · simpa [real] using real.symm
      · simpa [real.symm] using ih

theorem foldl_push_parents {stack parents : List Segment}
    (nothingReal : ∀ segment ∈ stack, segment = parent)
    (climbing : ∀ segment ∈ parents, segment = parent) :
    parents.foldl (push false) stack = parents.reverse ++ stack := by
  induction parents generalizing stack with
  | nil => rfl
  | cons first parents ih =>
      obtain ⟨rfl, others⟩ := List.forall_mem_cons.mp climbing
      have pushed : push false stack parent = parent :: stack :=
        (Applies.climb rfl nothingReal).eq_push.symm
      rw [List.foldl_cons, pushed, ih (List.forall_mem_cons.mpr ⟨rfl, nothingReal⟩) others,
        List.reverse_cons, List.append_assoc, List.singleton_append]

/-- Segments whose double dots all stand in front are put on the stack one after the other. -/
theorem foldl_push_of_parentsFirst {segments : List Segment}
    (kept : ∀ segment ∈ segments, IsKept segment)
    (parentsFirst : parent ∉ segments.dropWhile (· == parent))
    (noParent : isAbsolute = true → parent ∉ segments) :
    segments.foldl (push isAbsolute) [] = segments.reverse := by
  have isName {names : List Segment} (inside : names ⊆ segments) (real : parent ∉ names) :
      ∀ segment ∈ names, IsName segment := by
    intro segment member
    exact ⟨kept segment (inside member), fun isParent => real (isParent ▸ member)⟩
  cases isAbsolute with
  | true =>
      have names := isName (List.Subset.refl segments) (noParent rfl)
      rw [foldl_push_names true [] names, List.append_nil]
  | false =>
      have climbing : ∀ segment ∈ segments.takeWhile (· == parent), segment = parent := by
        intro segment member
        exact beq_iff_eq.mp (List.mem_takeWhile_imp (p := (· == parent)) member)
      have names := isName (List.dropWhile_suffix (· == parent)).subset parentsFirst
      rw [← List.takeWhile_append_dropWhile (p := (· == parent)) (l := segments),
        List.foldl_append, foldl_push_parents (by simp) climbing, foldl_push_names false _ names,
        List.append_nil, List.reverse_append]

end Stack

theorem leadingSlashes_cons (rest : List Char) :
    leadingSlashes ('/' :: rest) = leadingSlashes rest + 1 := by
  simp [leadingSlashes]

theorem leadingSlashes_eq_zero {text : List Char} (unslashed : ∀ rest, text ≠ '/' :: rest) :
    leadingSlashes text = 0 := by
  cases text with
  | nil => rfl
  | cons c rest =>
      have notSlash : c ≠ '/' := fun slash => unslashed rest (by rw [slash])
      simp [leadingSlashes, notSlash]

theorem rootOf_eq_leadingSlashes (text : List Char) :
    (rootOf text).slashes = List.replicate (keptSlashes (leadingSlashes text)) '/' ∧
      (rootOf text).isAbsolute = (leadingSlashes text != 0) := by
  unfold rootOf
  split
  next rest =>
    simp [leadingSlashes_cons, keptSlashes, Root.slashes, Root.isAbsolute]
  next rest unslashed =>
    rw [leadingSlashes_cons, leadingSlashes_cons, leadingSlashes_eq_zero unslashed]
    exact ⟨rfl, rfl⟩
  next rest _ unslashed =>
    rw [leadingSlashes_cons, leadingSlashes_eq_zero unslashed]
    exact ⟨rfl, rfl⟩
  next unslashed =>
    rw [leadingSlashes_eq_zero unslashed]
    exact ⟨rfl, rfl⟩

theorem replicate_length_slashes (root : Root) :
    List.replicate root.slashes.length '/' = root.slashes := by
  cases root <;> rfl

theorem replicate_append_dropWhile (text : List Char) :
    List.replicate (leadingSlashes text) '/' ++ text.dropWhile (· == '/') = text := by
  have slashes : text.takeWhile (· == '/') = List.replicate (leadingSlashes text) '/' := by
    apply List.eq_replicate_of_mem
    intro c member
    exact beq_iff_eq.mp (List.mem_takeWhile_imp (p := (· == '/')) member)
  rw [← slashes, List.takeWhile_append_dropWhile]

theorem intercalate_innerSegments (text : List Char) :
    ['/'].intercalate (innerSegments text) = text.dropWhile (· == '/') := by
  unfold innerSegments
  split
  next nothing => exact nothing.symm
  next => exact List.intercalate_splitOn '/'

theorem foldl_push_splitOn (isAbsolute : Bool) (text : List Char) :
    (text.splitOn '/').foldl (push isAbsolute) [] =
      (innerSegments text).foldl (push isAbsolute) [] := by
  -- Every leading slash ends an empty segment, and these change nothing.
  have skipped (count : Nat) (rest : List Char) :
      ((List.replicate count '/' ++ rest).splitOn '/').foldl (push isAbsolute) [] =
        (rest.splitOn '/').foldl (push isAbsolute) [] := by
    induction count with
    | zero => rfl
    | succ count ih =>
        rw [List.replicate_succ, List.cons_append, splitOn_slash_cons, List.foldl_cons, ← ih]
        rfl
  have whole := skipped (leadingSlashes text) (text.dropWhile (· == '/'))
  rw [replicate_append_dropWhile] at whole
  rw [whole, innerSegments]
  split
  next nothing =>
    rw [nothing]
    rfl
  next => rfl

theorem segmentsOf_eq_foldl (path : List Char) :
    segmentsOf path = (((unifySlashes path).splitOn '/').foldl
      (push (leadingSlashes (unifySlashes path) != 0)) []).reverse := by
  rw [segmentsOf, fold, rootOfPath, (rootOf_eq_leadingSlashes _).2]

theorem intercalate_eq_nil_iff {segments : List Segment} (kept : ∀ segment ∈ segments, IsKept segment) :
    ['/'].intercalate segments = [] ↔ segments = [] := by
  constructor
  · intro nothing
    by_contra nonempty
    obtain ⟨front, c, shape, -⟩ := exists_last_of_kept nonempty kept
    rw [nothing] at shape
    simp at shape
  · rintro rfl
    rfl

theorem render_eq_written (root : Root) {segments : List Segment}
    (kept : ∀ segment ∈ segments, IsKept segment) :
    render root segments = written root.slashes.length segments := by
  unfold render written
  rw [replicate_length_slashes]
  split
  next nothing =>
    obtain ⟨noSlash, noText⟩ := List.append_eq_nil_iff.mp nothing
    rw [if_pos ⟨by rw [noSlash]; rfl, (intercalate_eq_nil_iff kept).mp noText⟩]
  next something =>
    rw [if_neg]
    rintro ⟨noSlash, rfl⟩
    apply something
    rw [List.eq_nil_of_length_eq_zero noSlash]
    rfl

theorem normalizeChars_eq_written {path : List Char} (nonempty : path ≠ []) :
    normalizeChars path =
      written (keptSlashes (leadingSlashes (unifySlashes path))) (segmentsOf path) := by
  have kept : ∀ segment ∈ segmentsOf path, IsKept segment := fun _ => isKept_of_mem_segmentsOf
  rw [normalizeChars_eq_render (unifySlashes_ne_nil nonempty), render_eq_written _ kept, rootOfPath,
    (rootOf_eq_leadingSlashes _).1, List.length_replicate]

theorem normalizeChars_eq_iff (path result : List Char) :
    normalizeChars path = result ↔ HasNormalForm path result := by
  constructor
  · rintro rfl
    by_cases empty : path = []
    · rw [empty]
      exact .empty
    · rw [normalizeChars_eq_written empty, segmentsOf_eq_foldl]
      exact .folded empty rfl ((appliesAll_iff isSettled_nil).mpr rfl)
  · intro form
    cases form with
    | empty => rfl
    | folded nonempty counted applied =>
        rw [normalizeChars_eq_written nonempty, segmentsOf_eq_foldl, counted,
          (appliesAll_iff isSettled_nil).mp applied]

theorem normalizeChars_eq_nil_iff (path : List Char) : normalizeChars path = [] ↔ path = [] := by
  constructor
  · intro nothing
    by_contra nonempty
    rw [normalizeChars_eq_written nonempty, written] at nothing
    split at nothing
    next => exact absurd nothing (by simp)
    next something =>
      obtain ⟨noSlash, noText⟩ := List.append_eq_nil_iff.mp nothing
      apply something
      have kept : ∀ segment ∈ segmentsOf path, IsKept segment := fun _ => isKept_of_mem_segmentsOf
      exact ⟨(List.replicate_eq_nil_iff '/').mp noSlash, (intercalate_eq_nil_iff kept).mp noText⟩
  · rintro rfl
    rfl

theorem IsNormal.kept {path : List Char} (normal : IsNormal path) (notDot : path ≠ ['.']) :
    ∀ segment ∈ innerSegments path, IsKept segment := by
  intro segment member
  have cut : segment ∈ (path.dropWhile (· == '/')).splitOn '/' := by
    unfold innerSegments at member
    split at member
    next => exact absurd member List.not_mem_nil
    next => exact member
  obtain ⟨noSlash, chars⟩ := of_mem_splitOn cut
  refine ⟨?_, ?_, noSlash, ?_⟩
  · rintro rfl
    exact normal.noEmpty member
  · rintro rfl
    exact notDot (normal.onlyDot member)
  · intro inside
    exact normal.noBackslash ((List.dropWhile_suffix _).subset (chars _ inside))

/-- A text in normal form is left as it is. -/
theorem normalizeChars_of_isNormal {path : List Char} (normal : IsNormal path) :
    normalizeChars path = path := by
  by_cases empty : path = []
  · rw [empty]
    rfl
  by_cases isDot : path = ['.']
  · rw [isDot]
    rfl
  have text : unifySlashes path = path := unifySlashes_of_no_backslash normal.noBackslash
  have slashes : keptSlashes (leadingSlashes path) = leadingSlashes path := by
    have few := normal.fewSlashes
    unfold keptSlashes
    split <;> omega
  have kept := normal.kept isDot
  have noParent : (leadingSlashes path != 0) = true → parent ∉ innerSegments path := by
    intro rooted
    exact normal.noParent (bne_iff_ne.mp rooted)
  have segments : segmentsOf path = innerSegments path := by
    rw [segmentsOf_eq_foldl, text, foldl_push_splitOn,
      foldl_push_of_parentsFirst kept normal.parentsFirst noParent, List.reverse_reverse]
  have something : ¬ (leadingSlashes path = 0 ∧ innerSegments path = []) := by
    rintro ⟨noSlash, noSegment⟩
    apply empty
    rw [← replicate_append_dropWhile path, noSlash, ← intercalate_innerSegments, noSegment]
    rfl
  rw [normalizeChars_eq_written empty, text, slashes, segments, written, if_neg something,
    intercalate_innerSegments, replicate_append_dropWhile]

theorem leadingSlashes_append_intercalate (root : Root) {segments : List Segment}
    (kept : ∀ segment ∈ segments, IsKept segment) :
    leadingSlashes (root.slashes ++ ['/'].intercalate segments) = root.slashes.length := by
  have unslashed := leadingSlashes_eq_zero (join_ne_slash_cons kept)
  cases root with
  | relative => exact unslashed
  | single =>
      show leadingSlashes ('/' :: ['/'].intercalate segments) = 1
      rw [leadingSlashes_cons, unslashed]
  | double =>
      show leadingSlashes ('/' :: '/' :: ['/'].intercalate segments) = 2
      rw [leadingSlashes_cons, leadingSlashes_cons, unslashed]

theorem innerSegments_append_intercalate (root : Root) {segments : List Segment}
    (kept : ∀ segment ∈ segments, IsKept segment) :
    innerSegments (root.slashes ++ ['/'].intercalate segments) = segments := by
  have behind : (root.slashes ++ ['/'].intercalate segments).dropWhile (· == '/') =
      ['/'].intercalate segments := by
    have whole := replicate_append_dropWhile (root.slashes ++ ['/'].intercalate segments)
    rw [leadingSlashes_append_intercalate root kept, replicate_length_slashes] at whole
    exact List.append_cancel_left whole
  rw [innerSegments, behind]
  split
  next nothing => exact ((intercalate_eq_nil_iff kept).mp nothing).symm
  next something =>
    have nonempty : segments ≠ [] := fun empty => something ((intercalate_eq_nil_iff kept).mpr empty)
    exact List.splitOn_intercalate '/' (fun segment member => (kept segment member).noSlash) nonempty

theorem isNormal_append_intercalate {root : Root} {segments : List Segment}
    (kept : ∀ segment ∈ segments, IsKept segment)
    (parentsFirst : parent ∉ segments.dropWhile (· == parent))
    (noParent : root.isAbsolute = true → parent ∉ segments) :
    IsNormal (root.slashes ++ ['/'].intercalate segments) := by
  have slashes := leadingSlashes_append_intercalate root kept
  have inner := innerSegments_append_intercalate root kept
  refine ⟨?_, ?_, ?_, ?_, ?_, ?_, ?_⟩
  · rw [← unifySlashes_append_intercalate root kept]
    exact no_backslash_unifySlashes _
  · rw [slashes]
    cases root <;> decide
  · rw [inner]
    exact fun member => (kept [] member).ne_nil rfl
  · rw [inner]
    exact fun member => absurd rfl (kept ['.'] member).ne_dot
  · rw [inner]
    exact parentsFirst
  · rw [slashes, inner]
    intro rooted
    cases root with
    | relative => exact absurd rfl rooted
    | single => exact noParent rfl
    | double => exact noParent rfl
  · by_cases empty : segments = []
    · rw [empty]
      cases root <;> decide
    · obtain ⟨front, c, shape, notSlash⟩ := exists_last_of_kept empty kept
      rw [shape, ← List.append_assoc, List.getLast?_concat]
      exact fun slash => absurd (Option.some.inj slash) notSlash

theorem isNormal_normalizeChars (path : List Char) : IsNormal (normalizeChars path) := by
  by_cases empty : path = []
  · rw [empty]
    decide
  have parentsFirst : parent ∉ (segmentsOf path).dropWhile (· == parent) :=
    (isSettled_foldl_push isSettled_nil _).parentsFirst
  have normal : IsNormal ((rootOfPath path).slashes ++ ['/'].intercalate (segmentsOf path)) := by
    apply isNormal_append_intercalate (fun _ => isKept_of_mem_segmentsOf) parentsFirst
    exact fun rooted member => (isName_of_mem_segmentsOf rooted member).ne_parent rfl
  rw [normalizeChars_eq_render (unifySlashes_ne_nil empty), render]
  split
  next => decide
  next => exact normal

theorem normalizeChars_eq_self_iff (path : List Char) :
    normalizeChars path = path ↔ IsNormal path := by
  constructor
  · intro fixed
    rw [← fixed]
    exact isNormal_normalizeChars path
  · exact normalizeChars_of_isNormal

theorem normalize_normalize (path : String) : normalize (normalize path) = normalize path := by
  rw [normalize_eq_iff, toList_normalize]
  exact normalizeChars_of_isNormal (isNormal_normalizeChars path.toList)

/-- Normalizing a path gives its normal form by the rules, a second time it changes nothing, and a file
keeps its package. -/
theorem normalize_computes_normal_form (path : String) :
    (∀ result, normalize path = result ↔ HasNormalForm path.toList result.toList) ∧
      (normalize path = "" ↔ path = "") ∧
      normalize (normalize path) = normalize path ∧
      (normalize path = path ↔ IsNormal path.toList) ∧
      ∀ base, Package.ofFile (normalize path) base = Package.ofFile path base := by
  refine ⟨?_, ?_, normalize_normalize path, ?_, ?_⟩
  · intro result
    rw [normalize_eq_iff, normalizeChars_eq_iff]
  · rw [normalize_eq_iff, ← String.toList_eq_nil_iff (b := path)]
    exact normalizeChars_eq_nil_iff path.toList
  · rw [normalize_eq_iff, normalizeChars_eq_self_iff]
  · intro base
    have again := congrArg String.toList (normalize_normalize path)
    rw [toList_normalize, toList_normalize] at again
    rw [Package.ofFile, Package.ofFile, Package.ofFileChars, Package.ofFileChars,
      toList_normalize, again]

end NormalPath
end LayerLint
