import LayerLint.Proofs.GlobBlocks
import LayerLint.Proofs.Lowercase
import LayerLint.Proofs.NormalPath

/-!
# Patterns for base names

A pattern without a slash is compared with the last segment of a candidate and with nothing else. This
file shows that two stars and a slash in front of such a pattern change nothing, although the longer
pattern is lowered as another text and compared segment by segment. A slash stands between words, so
that the lower-case form on one side of it does not depend on the other side, and behind a block of any
length just the last segment is left for a single pattern.
-/

namespace LayerLint

namespace Text

theorem casedNeighbour_append_slash (near far : List Char) :
    casedNeighbour (near ++ '/' :: far) = casedNeighbour near := by
  induction near with
  | nil =>
      have stops : isCaseIgnorable '/' = false := by decide +kernel
      have uncased : isCased '/' = false := by decide +kernel
      simp [casedNeighbour, stops, uncased]
  | cons c near ih => simp only [List.cons_append, casedNeighbour, ih]

theorem lowerChar_behind_slash (near far : List Char) (c : Char) (after : List Char) :
    lowerChar (near ++ '/' :: far) c after = lowerChar near c after := by
  simp only [lowerChar, lowerSigma, casedNeighbour_append_slash]

theorem lowerChar_before_slash (before : List Char) (c : Char) (near far : List Char) :
    lowerChar before c (near ++ '/' :: far) = lowerChar before c near := by
  simp only [lowerChar, lowerSigma, casedNeighbour_append_slash]

theorem lowerAfter_behind_slash (near far text : List Char) :
    lowerAfter (near ++ '/' :: far) text = lowerAfter near text := by
  induction text generalizing near with
  | nil => rfl
  | cons c text ih =>
      have step := ih (c :: near)
      rw [List.cons_append] at step
      rw [lowerAfter, lowerAfter, lowerChar_behind_slash, step]

theorem lowerAfter_append_slash (before text rest : List Char) :
    lowerAfter before (text ++ '/' :: rest) = lowerAfter before text ++ '/' :: lowerChars rest := by
  induction text generalizing before with
  | nil =>
      have kept : lowerChar before '/' rest = ['/'] := by simp [lowerChar]
      have restart := lowerAfter_behind_slash [] before rest
      rw [List.nil_append] at restart
      calc
        lowerAfter before ('/' :: rest) =
            lowerChar before '/' rest ++ lowerAfter ('/' :: before) rest := rfl
        _ = '/' :: lowerChars rest := by
            rw [kept, restart]
            rfl
  | cons c text ih =>
      rw [List.cons_append, lowerAfter, lowerAfter, lowerChar_before_slash, ih, List.append_assoc]

/-- The two sides of a slash are lowered one without the other. -/
theorem lowerChars_append_slash (text rest : List Char) :
    lowerChars (text ++ '/' :: rest) = lowerChars text ++ '/' :: lowerChars rest :=
  lowerAfter_append_slash [] text rest

theorem eq_slash_of_mem_lowerChar {before after : List Char} {c : Char}
    (member : '/' ∈ lowerChar before c after) : c = '/' := by
  unfold lowerChar at member
  split at member
  next =>
    have lowered : '/' = lowerSigma before after := List.mem_singleton.mp member
    unfold lowerSigma at lowered
    split at lowered
    · exact absurd lowered (by decide)
    · exact absurd lowered (by decide)
  next =>
    split at member
    next => exact absurd member (by decide)
    next =>
      split at member
      next => exact eq_of_toLower_eq (List.mem_singleton.mp member).symm (by decide)
      next notAscii =>
        have high := lowerCode_of_not_ascii (Nat.not_lt.mp notAscii)
        have same := (List.mem_singleton.mp member).symm
        exact absurd same (ofNat_ne_of_high high (by decide) (by decide) (by decide))

theorem no_slash_lowerAfter {text : List Char} (slashless : '/' ∉ text) (before : List Char) :
    '/' ∉ lowerAfter before text := by
  induction text generalizing before with
  | nil => exact List.not_mem_nil
  | cons c text ih =>
      rw [List.mem_cons, not_or] at slashless
      rw [lowerAfter, List.mem_append, not_or]
      refine ⟨?_, ih slashless.2 (c :: before)⟩
      intro member
      exact slashless.1 (eq_slash_of_mem_lowerChar member).symm

end Text

namespace Glob

open Segments

theorem matchSegment_spanning (segment : Segment) : matchSegment spanning segment = true := by
  have items : itemsOf spanning = [.anyText, .anyText] := by simp [spanning, itemsOf]
  -- The first star takes nothing and the second one takes everything.
  have whole : matchItems [.anyText] segment = true :=
    acceptsRest_iff.mpr ⟨segment, [], List.append_nil segment, rfl⟩
  rw [matchSegment, items]
  exact acceptsRest_iff.mpr ⟨[], segment, rfl, whole⟩

theorem matchSegments_last_span_iff {segments : List Segment} :
    matchSegments [spanning] segments = true ↔ segments ≠ [] := by
  rw [matchSegments_spanning_iff]
  constructor
  · rintro ⟨block, rest, rfl, nonempty, -⟩ empty
    exact nonempty rfl (List.append_eq_nil_iff.mp empty).1
  · intro nonempty
    exact ⟨segments, [], List.append_nil segments, fun _ => nonempty, rfl⟩

theorem matchSegments_last_single_iff {pattern : Segment} (single : pattern ≠ spanning)
    {segments : List Segment} :
    matchSegments [pattern] segments = true ↔
      ∃ segment, segments = [segment] ∧ matchSegment pattern segment = true := by
  rw [matchSegments_single_iff single]
  constructor
  · rintro ⟨segment, rest, rfl, matched, atEnd⟩
    rw [matchSegments_nil_iff.mp atEnd]
    exact ⟨segment, rfl, matched⟩
  · rintro ⟨segment, rfl, matched⟩
    exact ⟨segment, [], rfl, matched, rfl⟩

/-- Behind a span of any length a last pattern sees the last segment. -/
theorem matchSegments_span_then_iff (pattern : Segment) (front : List Segment) (final : Segment) :
    matchSegments [spanning, pattern] (front ++ [final]) = true ↔
      matchSegment pattern final = true := by
  have spans : matchSegments [spanning, pattern] (front ++ [final]) = true ↔
      ∃ block rest, block ++ rest = front ++ [final] ∧ matchSegments [pattern] rest = true := by
    rw [matchSegments_spanning_iff]
    simp
  rw [spans]
  by_cases starred : pattern = spanning
  · subst starred
    constructor
    · intro _
      exact matchSegment_spanning final
    · intro _
      exact ⟨front, [final], rfl, matchSegments_last_span_iff.mpr (List.cons_ne_nil final [])⟩
  · constructor
    · rintro ⟨block, rest, joined, matched⟩
      obtain ⟨segment, rfl, fits⟩ := (matchSegments_last_single_iff starred).mp matched
      obtain ⟨-, same⟩ := List.append_inj' joined rfl
      rw [← (List.cons.inj same).1]
      exact fits
    · intro fits
      exact ⟨front, [final], rfl, (matchSegments_last_single_iff starred).mpr ⟨final, rfl, fits⟩⟩

theorem matchSegments_span_then_eq (pattern : Segment) (text : List Char) :
    matchSegments [spanning, pattern] (text.splitOn '/') = matchSegment pattern (last text) := by
  have shape : text.splitOn '/' = (text.splitOn '/').dropLast ++ [last text] := by
    have nonempty := List.splitOn_ne_nil '/' text
    rw [last, List.getLastD_eq_getLast?, List.getLast?_eq_some_getLast nonempty, Option.getD_some]
    exact (List.dropLast_concat_getLast nonempty).symm
  rw [shape, Bool.eq_iff_iff]
  exact matchSegments_span_then_iff pattern _ _

/-- A pattern without a slash selects what it selects behind two stars and a slash. -/
theorem isMatch_eq_isMatch_behind_span (candidate pattern : String)
    (slashless : '/' ∉ pattern.toList) :
    isMatch candidate pattern = isMatch candidate ("**/" ++ pattern) := by
  have lowered : '/' ∉ Text.lowerChars pattern.toList := Text.no_slash_lowerAfter slashless []
  have front : ("**/" ++ pattern).toList = spanning ++ '/' :: pattern.toList := by
    rw [String.toList_append]
    rfl
  have stars : Text.lowerChars spanning = spanning := by decide +kernel
  have longer : Text.lowerChars ("**/" ++ pattern).toList =
      spanning ++ '/' :: Text.lowerChars pattern.toList := by
    rw [front, Text.lowerChars_append_slash, stars]
  have slashed : (spanning ++ '/' :: Text.lowerChars pattern.toList).contains '/' = true := by
    simp
  have cut : (spanning ++ '/' :: Text.lowerChars pattern.toList).splitOn '/' =
      [spanning, Text.lowerChars pattern.toList] := by
    rw [List.splitOn_append_cons_self_of_not_mem (by decide), List.splitOn_eq_singleton lowered]
  have bare : ¬ (Text.lowerChars pattern.toList).contains '/' = true := fun found =>
    lowered (List.contains_iff_mem.mp found)
  rw [isMatch, isMatch, longer, matchLowered, matchLowered, if_neg bare, if_pos slashed, cut,
    matchSegments_span_then_eq]

/-- A pattern and a last segment whose capital sigma ends a word. -/
theorem isMatch_behind_span_of_final_sigma :
    '/' ∉ "*ΟΣ".toList ∧ isMatch "Src//ΟΔΟΣ" "*ΟΣ" = true ∧
      isMatch "Src//ΟΔΟΣ" ("**/" ++ "*ΟΣ") = true := by
  have slashless : '/' ∉ "*ΟΣ".toList := by decide
  have matched : isMatch "Src//ΟΔΟΣ" "*ΟΣ" = true := by decide +kernel
  have longer := isMatch_eq_isMatch_behind_span "Src//ΟΔΟΣ" "*ΟΣ" slashless
  exact ⟨slashless, matched, longer ▸ matched⟩

end Glob
end LayerLint
