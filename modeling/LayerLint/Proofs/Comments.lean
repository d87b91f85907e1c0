import LayerLint.Json.Comments
import Mathlib.Data.List.Infix
import Mathlib.Data.List.TakeWhile

/-!
# Pieces of JSON with comments

A text with comments is cut into string literals, comments and other characters. The two rounds of
clearing a text act on these pieces: the first drops the comments, the second drops each comma that is
followed by a closing bracket in what the first has left. A literal goes through both as it is, because
both find the same quotes at its ends.
-/

namespace LayerLint
namespace Json

/-- What may stand between the quotes of a string literal: a backslash takes the next character with it,
which is no line feed. -/
inductive IsBody : List Char → Prop
  | nil : IsBody []
  | plain {c : Char} {body : List Char} (notQuote : c ≠ quote) (notBackslash : c ≠ '\\')
      (rest : IsBody body) : IsBody (c :: body)
  | escape {c : Char} {body : List Char} (notLineFeed : c ≠ '\n') (rest : IsBody body) :
      IsBody ('\\' :: c :: body)

/-- A piece of a text. -/
inductive Piece
  | literal (body : List Char)
  | lineComment (content : List Char)
  | blockComment (content : List Char)
  | other (c : Char)
  deriving DecidableEq

namespace Piece

def text : Piece → List Char
  | .literal body => quote :: (body ++ [quote])
  | .lineComment content => '/' :: '/' :: content
  | .blockComment content => '/' :: '*' :: (content ++ ['*', '/'])
  | .other c => [c]

def isKept : Piece → Bool
  | .literal _ => true
  | .other _ => true
  | _ => false

end Piece

/-- The text that pieces make up. -/
def textOf (pieces : List Piece) : List Char :=
  pieces.flatMap Piece.text

/-- A text is cut into pieces. A line comment reaches up to a line feed or the end of the text, a block
comment up to the first mark that closes it, and no quote or slash is left over. -/
inductive Cuts : List Char → List Piece → Prop
  | nil : Cuts [] []
  | literal {body text : List Char} {pieces : List Piece} (isBody : IsBody body)
      (rest : Cuts text pieces) : Cuts (quote :: (body ++ quote :: text)) (.literal body :: pieces)
  | lineComment {content text : List Char} {pieces : List Piece} (oneLine : '\n' ∉ content)
      (ends : text = [] ∨ text.head? = some '\n') (rest : Cuts text pieces) :
      Cuts ('/' :: '/' :: (content ++ text)) (.lineComment content :: pieces)
  | blockComment {content text : List Char} {pieces : List Piece}
      (unclosed : ¬ ['*', '/'] <:+: content) (rest : Cuts text pieces) :
      Cuts ('/' :: '*' :: (content ++ '*' :: '/' :: text)) (.blockComment content :: pieces)
  | other {c : Char} {text : List Char} {pieces : List Piece} (notQuote : c ≠ quote)
      (notSlash : c ≠ '/') (rest : Cuts text pieces) : Cuts (c :: text) (.other c :: pieces)

/-- The next character behind white space closes a list or a table. -/
def ClosesNext (text : List Char) : Prop :=
  ∃ blanks bracket rest, text = blanks ++ bracket :: rest ∧
    (∀ c ∈ blanks, Text.isBlank c = true) ∧ (bracket = '\x7d' ∨ bracket = ']')

theorem closesNext_iff (text : List Char) : closesNext text = true ↔ ClosesNext text := by
  unfold closesNext
  constructor
  · intro closes
    split at closes
    next bracket rest behind =>
      refine ⟨text.takeWhile Text.isBlank, bracket, rest, ?_, ?_, by simpa using closes⟩
      · rw [← behind, List.takeWhile_append_dropWhile]
      · exact fun c member => List.mem_takeWhile_imp member
    next => exact absurd closes (by decide)
  · rintro ⟨blanks, bracket, rest, rfl, blank, closes⟩
    rw [List.dropWhile_append_of_pos blank]
    rcases closes with rfl | rfl <;> rfl

instance (text : List Char) : Decidable (ClosesNext text) :=
  decidable_of_iff _ (closesNext_iff text)

/-- The text of pieces less the commas in front of a closing bracket. -/
def withoutTrailingCommas : List Piece → List Char
  | [] => []
  | piece :: rest =>
      if piece = .other ',' ∧ ClosesNext (textOf rest) then withoutTrailingCommas rest
      else piece.text ++ withoutTrailingCommas rest

theorem Cuts.textOf_eq {text : List Char} {pieces : List Piece} (cuts : Cuts text pieces) :
    textOf pieces = text := by
  induction cuts with
  | nil => rfl
  | literal isBody rest ih => simp [textOf, Piece.text, ← ih]
  | lineComment oneLine ends rest ih => simp [textOf, Piece.text, ← ih]
  | blockComment unclosed rest ih => simp [textOf, Piece.text, ← ih]
  | other notQuote notSlash rest ih => simp [textOf, Piece.text, ← ih]

section Marks

variable {content body behind : List Char}

theorem cutLiteral?_append (acrossLines : Bool) (isBody : IsBody body) (behind : List Char) :
    cutLiteral? acrossLines (body ++ quote :: behind) = some (body ++ [quote], behind) := by
  induction isBody with
  | nil => rfl
  | plain notQuote notBackslash rest ih =>
      simp [cutLiteral?, notQuote, ih]
  | escape notLineFeed rest ih =>
      rw [List.cons_append, List.cons_append, cutLiteral?, if_neg (by simp [notLineFeed]), ih]
      rfl

theorem cutBlock?_append (unclosed : ¬ ['*', '/'] <:+: content) (behind : List Char) :
    cutBlock? (content ++ '*' :: '/' :: behind) = some behind := by
  induction content with
  | nil => rfl
  | cons c content ih =>
      have notHere : ∀ rest, c = '*' → content ++ '*' :: '/' :: behind = '/' :: rest → False := by
        rintro rest rfl closed
        cases content with
        | nil => exact absurd (List.cons.inj closed).1 (by decide)
        | cons next content =>
            obtain ⟨rfl, -⟩ := List.cons.inj closed
            exact unclosed ⟨[], content, rfl⟩
      rw [List.cons_append, cutBlock?]
      · exact ih fun inside => unclosed (inside.trans (List.suffix_cons c content).isInfix)
      · exact notHere

theorem dropWhile_line_append (oneLine : '\n' ∉ content)
    (ends : behind = [] ∨ behind.head? = some '\n') :
    (content ++ behind).dropWhile (· != '\n') = behind := by
  have inside : ∀ c ∈ content, (c != '\n') = true := by
    intro c member
    rw [bne_iff_ne]
    rintro rfl
    exact oneLine member
  rw [List.dropWhile_append_of_pos inside]
  rcases ends with rfl | ends
  · rfl
  · obtain ⟨rest, rfl⟩ := List.head?_eq_some_iff.mp ends
    rfl

theorem dropComments_literal (isBody : IsBody body) (behind : List Char) :
    dropComments (quote :: (body ++ quote :: behind)) =
      quote :: (body ++ quote :: dropComments behind) := by
  have cut := cutLiteral?_append true isBody behind
  have notSlash : quote ≠ '/' := by decide
  rw [dropComments, if_pos rfl]
  · split
    next literal rest found =>
      obtain ⟨rfl, rfl⟩ : literal = body ++ [quote] ∧ rest = behind := by
        simpa [cut, eq_comm] using found
      simp
    next missing => simp [cut] at missing
  · exact fun _ slash _ => notSlash slash
  · exact fun _ slash _ => notSlash slash

theorem dropComments_blockComment (unclosed : ¬ ['*', '/'] <:+: content) (behind : List Char) :
    dropComments ('/' :: '*' :: (content ++ '*' :: '/' :: behind)) = dropComments behind := by
  have cut := cutBlock?_append unclosed behind
  rw [dropComments]
  split
  next rest found =>
    obtain rfl : behind = rest := Option.some.inj (cut.symm.trans found)
    rfl
  next missing => simp [cut] at missing

theorem dropComments_other {c : Char} (notQuote : c ≠ quote) (notSlash : c ≠ '/')
    (behind : List Char) : dropComments (c :: behind) = c :: dropComments behind := by
  rw [dropComments, if_neg notQuote]
  · exact fun _ slash _ => notSlash slash
  · exact fun _ slash _ => notSlash slash

theorem dropTrailingCommas_literal (isBody : IsBody body) (behind : List Char) :
    dropTrailingCommas (quote :: (body ++ quote :: behind)) =
      quote :: (body ++ quote :: dropTrailingCommas behind) := by
  have cut := cutLiteral?_append false isBody behind
  rw [dropTrailingCommas, if_pos rfl]
  split
  next literal rest found =>
    obtain ⟨rfl, rfl⟩ : literal = body ++ [quote] ∧ rest = behind := by
      simpa [cut, eq_comm] using found
    simp
  next missing => simp [cut] at missing

theorem dropTrailingCommas_other {c : Char} (notQuote : c ≠ quote) (behind : List Char) :
    dropTrailingCommas (c :: behind) =
      if c = ',' ∧ ClosesNext behind then dropTrailingCommas behind
      else c :: dropTrailingCommas behind := by
  rw [dropTrailingCommas, if_neg notQuote]
  simp only [Bool.and_eq_true, decide_eq_true_eq, closesNext_iff]

end Marks

/-- The first round drops the comments, and what is left is cut into the other pieces. -/
theorem Cuts.dropComments {text : List Char} {pieces : List Piece} (cuts : Cuts text pieces) :
    Cuts (Json.dropComments text) (pieces.filter Piece.isKept) := by
  induction cuts with
  | nil =>
      rw [Json.dropComments]
      exact .nil
  | literal isBody rest ih =>
      rw [dropComments_literal isBody]
      exact .literal isBody ih
  | lineComment oneLine ends rest ih =>
      rw [Json.dropComments, dropWhile_line_append oneLine ends]
      exact ih
  | blockComment unclosed rest ih =>
      rw [dropComments_blockComment unclosed]
      exact ih
  | other notQuote notSlash rest ih =>
      rw [dropComments_other notQuote notSlash]
      exact .other notQuote notSlash ih

/-- The second round drops the commas in front of a closing bracket. -/
theorem Cuts.dropTrailingCommas {text : List Char} {pieces : List Piece} (cuts : Cuts text pieces)
    (uncommented : ∀ piece ∈ pieces, piece.isKept = true) :
    Json.dropTrailingCommas text = withoutTrailingCommas pieces := by
  induction cuts with
  | nil => rw [Json.dropTrailingCommas, withoutTrailingCommas]
  | literal isBody rest ih =>
      rw [dropTrailingCommas_literal isBody, withoutTrailingCommas, if_neg (by simp),
        ih fun piece member => uncommented piece (List.mem_cons_of_mem _ member)]
      simp [Piece.text]
  | lineComment oneLine ends rest ih => exact absurd (uncommented _ List.mem_cons_self) Bool.false_ne_true
  | blockComment unclosed rest ih => exact absurd (uncommented _ List.mem_cons_self) Bool.false_ne_true
  | other notQuote notSlash rest ih =>
      rw [dropTrailingCommas_other notQuote, withoutTrailingCommas, rest.textOf_eq,
        ih fun piece member => uncommented piece (List.mem_cons_of_mem _ member)]
      simp [Piece.text]

theorem plainChars_of_cuts {text : List Char} {pieces : List Piece} (cuts : Cuts text pieces) :
    plainChars text = withoutTrailingCommas (pieces.filter Piece.isKept) :=
  cuts.dropComments.dropTrailingCommas fun _ member => List.of_mem_filter member

/-- Some comma is followed by a closing bracket. -/
def HasTrailingComma (pieces : List Piece) : Prop :=
  ∃ before after, pieces = before ++ .other ',' :: after ∧ ClosesNext (textOf after)

theorem hasTrailingComma_cons_iff (piece : Piece) (pieces : List Piece) :
    HasTrailingComma (piece :: pieces) ↔
      (piece = .other ',' ∧ ClosesNext (textOf pieces)) ∨ HasTrailingComma pieces := by
  constructor
  · rintro ⟨before, after, shape, closes⟩
    cases before with
    | nil =>
        obtain ⟨rfl, rfl⟩ := List.cons.inj shape
        exact .inl ⟨rfl, closes⟩
    | cons first before => exact .inr ⟨before, after, (List.cons.inj shape).2, closes⟩
  · rintro (⟨rfl, closes⟩ | ⟨before, after, rfl, closes⟩)
    · exact ⟨[], pieces, rfl, closes⟩
    · exact ⟨piece :: before, after, rfl, closes⟩

theorem withoutTrailingCommas_eq_textOf {pieces : List Piece} (settled : ¬ HasTrailingComma pieces) :
    withoutTrailingCommas pieces = textOf pieces := by
  induction pieces with
  | nil => rfl
  | cons piece pieces ih =>
      rw [hasTrailingComma_cons_iff, not_or] at settled
      rw [withoutTrailingCommas, if_neg settled.1, ih settled.2]
      rfl

/-- A text that is cut into pieces without comments and without a trailing comma. -/
def IsPlain (text : List Char) : Prop :=
  ∃ pieces, Cuts text pieces ∧ (∀ piece ∈ pieces, piece.isKept = true) ∧ ¬ HasTrailingComma pieces

theorem plainChars_of_isPlain {text : List Char} (isPlain : IsPlain text) : plainChars text = text := by
  obtain ⟨pieces, cuts, uncommented, settled⟩ := isPlain
  rw [plainChars_of_cuts cuts, List.filter_eq_self.mpr uncommented,
    withoutTrailingCommas_eq_textOf settled, cuts.textOf_eq]

theorem isPlain_nil : IsPlain [] :=
  ⟨[], .nil, by simp, by simp [HasTrailingComma]⟩

theorem IsPlain.literal {body text : List Char} (isBody : IsBody body) (isPlain : IsPlain text) :
    IsPlain (quote :: (body ++ quote :: text)) := by
  obtain ⟨pieces, cuts, uncommented, settled⟩ := isPlain
  refine ⟨.literal body :: pieces, .literal isBody cuts, List.forall_mem_cons.mpr ⟨rfl, uncommented⟩, ?_⟩
  rw [hasTrailingComma_cons_iff]
  simp [settled]

theorem IsPlain.other {c : Char} {text : List Char} (notQuote : c ≠ quote) (notSlash : c ≠ '/')
    (stays : c = ',' → ¬ ClosesNext text) (isPlain : IsPlain text) : IsPlain (c :: text) := by
  obtain ⟨pieces, cuts, uncommented, settled⟩ := isPlain
  refine ⟨.other c :: pieces, .other notQuote notSlash cuts,
    List.forall_mem_cons.mpr ⟨rfl, uncommented⟩, ?_⟩
  rw [hasTrailingComma_cons_iff, cuts.textOf_eq, not_or]
  exact ⟨fun ⟨comma, closes⟩ => stays (Piece.other.inj comma) closes, settled⟩

end Json
end LayerLint
