import LayerLint.Glob
import Mathlib.Data.List.Basic

/-!
# Glob patterns as cuts of a candidate

A pattern with a slash is compared segment by segment, and a segment of two stars is tried at every
length. This file reads the search off as a statement about blocks: a candidate matches when its segments
can be cut into consecutive blocks, one for each segment of the pattern, so that every block fits. Both
sides are taken apart at the first segment of the pattern in the same way.
-/

namespace LayerLint
namespace Glob

open Segments

theorem acceptsRest_iff {α : Type} {test : List α → Bool} {items : List α} :
    acceptsRest test items = true ↔ ∃ block rest, block ++ rest = items ∧ test rest = true := by
  induction items with
  | nil => simp [acceptsRest]
  | cons item items ih =>
      rw [acceptsRest, Bool.or_eq_true, ih]
      constructor
      · rintro (whole | ⟨block, rest, rfl, accepted⟩)
        · exact ⟨[], item :: items, rfl, whole⟩
        · exact ⟨item :: block, rest, rfl, accepted⟩
      · rintro ⟨block, rest, joined, accepted⟩
        cases block with
        | nil =>
            rw [List.nil_append] at joined
            exact .inl (joined ▸ accepted)
        | cons first block =>
            obtain ⟨-, behind⟩ := List.cons_eq_cons.mp joined
            exact .inr ⟨block, rest, behind, accepted⟩

theorem matchSegments_nil_iff {segments : List Segment} :
    matchSegments [] segments = true ↔ segments = [] := by
  rw [matchSegments, List.isEmpty_iff]

theorem matchSegments_spanning_iff {patterns segments : List Segment} :
    matchSegments (spanning :: patterns) segments = true ↔
      ∃ block rest, block ++ rest = segments ∧ (patterns = [] → block ≠ []) ∧
        matchSegments patterns rest = true := by
  rw [matchSegments.eq_def (spanning :: patterns) segments]
  dsimp only
  rw [if_pos rfl]
  cases patterns with
  | nil =>
      -- Nothing may be left behind the last block, so that it takes all segments.
      simp only [List.isEmpty_nil, if_true, Bool.not_eq_true', List.isEmpty_eq_false_iff,
        matchSegments_nil_iff, forall_const]
      constructor
      · intro nonempty
        exact ⟨segments, [], List.append_nil segments, nonempty, rfl⟩
      · rintro ⟨block, rest, rfl, nonempty, rfl⟩
        rwa [List.append_nil]
  | cons next patterns =>
      rw [List.isEmpty_cons, if_neg Bool.false_ne_true, acceptsRest_iff]
      simp only [reduceCtorEq, false_implies, true_and]

theorem matchSegments_single_iff {pattern : Segment} (single : pattern ≠ spanning)
    {patterns segments : List Segment} :
    matchSegments (pattern :: patterns) segments = true ↔
      ∃ segment rest, segment :: rest = segments ∧ matchSegment pattern segment = true ∧
        matchSegments patterns rest = true := by
  rw [matchSegments.eq_def (pattern :: patterns) segments]
  dsimp only
  rw [if_neg single]
  cases segments with
  | nil => simp
  | cons segment segments => simp

end Glob
end LayerLint
