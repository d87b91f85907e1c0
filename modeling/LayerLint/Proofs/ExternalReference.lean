import LayerLint.Proofs.RelativePath

/-!
# External references

A specifier that names no file relative to the importing one refers to an external package and comes back
as it stands. To be relative it would need a single or a double dot as one of the segments in front of its
last slash; what is looked for is a dot with a slash directly behind it. The two agree unless one of these
segments ends in a dot without being a single or a double dot.
-/

namespace LayerLint

namespace Segments

theorem intercalate_concat_append (front : List Segment) (segment : Segment) (text : List Char) :
    ['/'].intercalate (front ++ [segment ++ text]) = ['/'].intercalate (front ++ [segment]) ++ text :=
  (List.cons.inj (NormalPath.absolute_concat_append front segment text)).2.symm

theorem exists_splitOn_concat {c : Char} (notSlash : c ≠ '/') (text : List Char) :
    ∃ front segment, (text ++ [c]).splitOn '/' = front ++ [segment ++ [c]] := by
  have nonempty := List.splitOn_ne_nil '/' text
  refine ⟨(text.splitOn '/').dropLast, (text.splitOn '/').getLast nonempty, ?_⟩
  have whole := List.dropLast_concat_getLast nonempty
  have extended : text ++ [c] =
      ['/'].intercalate ((text.splitOn '/').dropLast ++ [(text.splitOn '/').getLast nonempty ++ [c]]) := by
    rw [intercalate_concat_append, whole, List.intercalate_splitOn]
  rw [extended]
  refine List.splitOn_intercalate '/' ?_ (by simp)
  intro segment member
  rcases List.mem_append.mp member with inFront | isLast
  · exact (of_mem_splitOn (List.mem_of_mem_dropLast inFront)).1
  · rw [List.mem_singleton.mp isLast, List.mem_append, List.mem_singleton, not_or]
    exact ⟨(of_mem_splitOn (List.getLast_mem _)).1, notSlash.symm⟩

/-- A character other than the slash stands directly in front of a slash exactly if it ends a segment that
is not the last one. -/
theorem infix_slash_iff {c : Char} (notSlash : c ≠ '/') (text : List Char) :
    [c, '/'] <:+: text ↔ ∃ segment ∈ (text.splitOn '/').dropLast, segment.getLast? = some c := by
  constructor
  · rintro ⟨before, behind, rfl⟩
    obtain ⟨front, segment, shape⟩ := exists_splitOn_concat notSlash before
    have cut : before ++ [c, '/'] ++ behind = (before ++ [c]) ++ '/' :: behind := by simp
    refine ⟨segment ++ [c], ?_, List.getLast?_concat⟩
    rw [cut, List.splitOn_append_cons_self, shape,
      List.dropLast_append_of_ne_nil (List.splitOn_ne_nil '/' behind)]
    simp
  · rintro ⟨segment, member, ends⟩
    obtain ⟨front, back, shape⟩ := List.append_of_mem member
    obtain ⟨inner, rfl⟩ := List.getLast?_eq_some_iff.mp ends
    -- The segment is followed by another one at least, so a slash stands behind it.
    have nonempty := List.splitOn_ne_nil '/' text
    have whole : text.splitOn '/' =
        (front ++ [inner ++ [c]]) ++ (back ++ [(text.splitOn '/').getLast nonempty]) := by
      conv_lhs => rw [← List.dropLast_concat_getLast nonempty, shape]
      simp
    refine ⟨['/'].intercalate (front ++ [inner]),
      ['/'].intercalate (back ++ [(text.splitOn '/').getLast nonempty]), ?_⟩
    have joined : ['/'].intercalate (text.splitOn '/') = text := List.intercalate_splitOn '/'
    conv_rhs =>
      rw [← joined, whole,
        intercalate_append (List.concat_ne_nil _ _) (List.concat_ne_nil _ _), intercalate_concat_append]
    simp

end Segments

namespace Specifier

open Segments NormalPath

/-- The segments of a specifier in front of its last slash. -/
def leading (text : String) : List Segment :=
  (text.toList.splitOn '/').dropLast

/-- A text between two quotes. -/
def enclose (quote : Char) (text : String) : String :=
  String.ofList (quote :: (text.toList ++ [quote]))

def IsEnclosed (text : String) : Prop :=
  ∃ quote inner, isQuote quote = true ∧ text = enclose quote inner

theorem unquoteChars_cons_concat {quote : Char} (isQuote : isQuote quote = true) (inner : List Char) :
    unquoteChars (quote :: (inner ++ [quote])) = inner := by
  obtain ⟨second, rest, shape⟩ := List.exists_cons_of_ne_nil (List.concat_ne_nil quote inner)
  rw [shape, unquoteChars, ← shape]
  simp [isQuote]

theorem unquote_enclose {quote : Char} (isQuote : isQuote quote = true) (text : String) :
    unquote (enclose quote text) = text := by
  rw [unquote, enclose, String.toList_ofList, unquoteChars_cons_concat isQuote, String.ofList_toList]

theorem isEnclosed_iff_exists_chars (text : String) :
    IsEnclosed text ↔ ∃ quote inner, isQuote quote = true ∧ text.toList = quote :: (inner ++ [quote]) := by
  constructor
  · rintro ⟨quote, inner, isQuote, rfl⟩
    exact ⟨quote, inner.toList, isQuote, String.toList_ofList⟩
  · rintro ⟨quote, inner, isQuote, chars⟩
    refine ⟨quote, String.ofList inner, isQuote, ?_⟩
    rw [enclose, String.toList_ofList, ← chars, String.ofList_toList]

theorem unquote_of_not_isEnclosed {text : String} (unenclosed : ¬ IsEnclosed text) :
    unquote text = text := by
  have chars : unquoteChars text.toList = text.toList := by
    rw [isEnclosed_iff_exists_chars] at unenclosed
    unfold unquoteChars
    split
    next first second rest shape =>
      rw [if_neg, shape]
      intro between
      rw [Bool.and_eq_true, beq_iff_eq] at between
      obtain ⟨inner, closed⟩ := List.getLast?_eq_some_iff.mp between.2
      exact unenclosed ⟨first, inner, between.1, by rw [shape, closed]⟩
    next => rfl
  rw [unquote, chars, String.ofList_toList]

theorem isEnclosed_iff_unquote_ne (text : String) : IsEnclosed text ↔ unquote text ≠ text := by
  constructor
  · rintro ⟨quote, inner, isQuote, rfl⟩ same
    rw [unquote_enclose isQuote] at same
    have lengths := congrArg (fun text : String => text.toList.length) same
    simp only [enclose, String.toList_ofList, List.length_cons, List.length_append] at lengths
    omega
  · intro changed
    by_contra unenclosed
    exact changed (unquote_of_not_isEnclosed unenclosed)

instance (text : String) : Decidable (IsEnclosed text) :=
  decidable_of_iff' _ (isEnclosed_iff_unquote_ne text)

/-- A specifier counts as relative exactly if one of the segments in front of its last slash ends in a
dot. -/
theorem isRelative_iff_exists_leading (text : String) :
    isRelative text = true ↔ ∃ segment ∈ leading text, segment.getLast? = some '.' := by
  rw [isRelative, isRelativeChars_iff, infix_slash_iff (by decide)]
  rfl

theorem resolve_of_unquote {text specifier : String} (unquoted : unquote text = specifier)
    (external : ∀ segment ∈ leading specifier, segment.getLast? ≠ some '.') (file : String)
    (base : Option String) : resolve text file base = specifier := by
  rw [resolve_of_not_isRelative, unquoted]
  rw [unquoted, isRelative_iff_exists_leading]
  rintro ⟨segment, member, ends⟩
  exact external segment member ends

/-- A specifier without quotes around it comes back as it stands, and so it does between quotes of any
kind, if none of the segments in front of its last slash ends in a dot. The other specifiers are those
that count as relative; among them are all that have a single or a double dot for such a segment. -/
theorem resolve_returns_external_reference (specifier file : String) (base : Option String) :
    (¬ IsEnclosed specifier → (∀ segment ∈ leading specifier, segment.getLast? ≠ some '.') →
      resolve specifier file base = specifier ∧
        ∀ quote, isQuote quote = true → resolve (enclose quote specifier) file base = specifier) ∧
    (isRelative specifier = true ↔
      ∃ segment ∈ leading specifier, segment.getLast? = some '.') ∧
    ((∃ segment ∈ leading specifier, segment = ['.'] ∨ segment = parent) →
      isRelative specifier = true) := by
  refine ⟨?_, isRelative_iff_exists_leading specifier, ?_⟩
  · intro unenclosed external
    refine ⟨resolve_of_unquote (unquote_of_not_isEnclosed unenclosed) external file base, ?_⟩
    intro quote isQuote
    exact resolve_of_unquote (unquote_enclose isQuote specifier) external file base
  · rintro ⟨segment, member, dots⟩
    rw [isRelative_iff_exists_leading]
    refine ⟨segment, member, ?_⟩
    rcases dots with rfl | rfl
    · rfl
    · rfl

/-- A double dot as the last segment leaves a reference external, and so do dots inside of segments and a
backslash behind a dot. -/
theorem resolve_returns_reference_with_dots :
    let specifier := "@scope/.lib.js/a.\\\x27/.."
    let file := "/p/src/x.ts"
    ¬ IsEnclosed specifier ∧ (∀ segment ∈ leading specifier, segment.getLast? ≠ some '.') ∧
      isQuote '\x27' = true ∧ resolve specifier file (some "/p") = specifier ∧
      resolve (enclose '\x27' specifier) file (some "/p") = specifier := by
  intro specifier file
  have unenclosed : ¬ IsEnclosed specifier := by decide +kernel
  have external : ∀ segment ∈ leading specifier, segment.getLast? ≠ some '.' := by decide +kernel
  obtain ⟨bare, quoted⟩ :=
    (resolve_returns_external_reference specifier file (some "/p")).1 unenclosed external
  exact ⟨unenclosed, external, by decide, bare, quoted '\x27' (by decide)⟩

/-- A package whose name ends in a dot is taken for a directory beside the importing file. -/
theorem resolve_changes_reference_behind_final_dot :
    let specifier := "lib./x"
    let file := "/p/a/x.ts"
    ¬ IsEnclosed specifier ∧
      (∀ segment ∈ leading specifier, segment ≠ ['.'] ∧ segment ≠ parent) ∧
      resolve specifier file (some "/p") = "a/lib./x" ∧
      resolve specifier file (some "/p") ≠ specifier := by
  decide +kernel

end Specifier
end LayerLint
