import LayerLint.Proofs.RelativePath

/-!
# Whole segments

A base directory is dropped from the front of a path by a comparison of texts: the path is the base
directory, or it begins with the base directory and a slash. Between paths with one leading slash this is
a comparison of segments. The slash ends the last segment of the base directory, so that a text which
goes on behind the slash adds segments and changes none, and a sibling whose name is longer is left alone.
-/

namespace LayerLint

namespace NormalPath

open Segments

theorem innerSegments_normalizeChars {path : List Char} (single : rootOfPath path = .single) :
    innerSegments (normalizeChars path) = segmentsOf path := by
  rw [normalizeChars_of_single single]
  exact innerSegments_append_intercalate .single fun _ => isKept_of_mem_segmentsOf

theorem append_absolute_intercalate {directory rest : List Segment} (nonempty : rest ≠ [])
    (kept : ∀ segment ∈ directory ++ rest, IsKept segment) :
    append (absolute directory) (['/'].intercalate rest) = absolute (directory ++ rest) := by
  have restKept : ∀ segment ∈ rest, IsKept segment := fun segment member =>
    kept segment (List.mem_append_right directory member)
  have unrooted : (['/'].intercalate rest).head? ≠ some '/' := by
    apply head?_intercalate_ne_slash
    · exact fun segment member => (restKept segment member).ne_nil
    · exact fun segment member => (restKept segment member).noSlash
  rw [append_absolute (fun segment member => kept segment (List.mem_append_left rest member)) unrooted,
    absolute, intercalate_concat_intercalate directory nonempty, absolute]

/-- A text that begins with a directory and a slash has the segments of the directory in front. -/
theorem isPrefix_of_absolute_eq_append {directory segments : List Segment} {rest : List Char}
    (notRoot : directory ≠ []) (directoryNames : ∀ segment ∈ directory, IsName segment)
    (names : ∀ segment ∈ segments, IsName segment)
    (whole : absolute segments = absolute directory ++ '/' :: rest) : directory <+: segments := by
  have joined : ['/'].intercalate segments = ['/'].intercalate directory ++ '/' :: rest :=
    (List.cons.inj whole).2
  have nonempty : segments ≠ [] := by
    rintro rfl
    simp at joined
  have cut := congrArg (List.splitOn '/') joined
  rw [List.splitOn_append_cons_self,
    List.splitOn_intercalate '/' (fun segment member => (names segment member).noSlash) nonempty,
    List.splitOn_intercalate '/' (fun segment member => (directoryNames segment member).noSlash) notRoot]
    at cut
  rw [cut]
  exact List.prefix_append directory (rest.splitOn '/')

end NormalPath

namespace BaseDir

open Segments NormalPath

variable {base : List Char} {segments : List Segment}

/-- A path that does not have all segments of the base directory in front is left alone. -/
theorem stripChars_of_not_isPrefix (single : rootOfPath base = .single)
    (names : ∀ segment ∈ segments, IsName segment) (apart : ¬ segmentsOf base <+: segments) :
    stripChars (absolute segments) base = absolute segments := by
  have notRoot : segmentsOf base ≠ [] := by
    intro atRoot
    rw [atRoot] at apart
    exact apart List.nil_prefix
  have baseNames := isName_of_single single
  rw [stripChars_of_single single notRoot]
  have notBase : absolute segments ≠ absolute (segmentsOf base) := by
    intro same
    apply apart
    rw [← segmentsOf_absolute names, same, segmentsOf_absolute baseNames]
  rw [if_neg notBase]
  cases found : afterPrefix? (absolute (segmentsOf base) ++ ['/']) (absolute segments) with
  | none => rfl
  | some rest =>
      have whole := eq_append_of_afterPrefix? found
      rw [List.append_assoc, List.singleton_append] at whole
      exact absurd (isPrefix_of_absolute_eq_append notRoot baseNames names whole) apart

theorem stripChars_eq_self_iff (single : rootOfPath base = .single)
    (names : ∀ segment ∈ segments, IsName segment) :
    stripChars (absolute segments) base = absolute segments ↔ ¬ segmentsOf base <+: segments := by
  constructor
  · rintro unchanged ⟨rest, rfl⟩
    have kept : ∀ segment ∈ rest, IsKept segment := fun segment member =>
      (names segment (List.mem_append_right _ member)).toIsKept
    rw [stripChars_below single] at unchanged
    exact join_ne_slash_cons kept _ unchanged
  · exact stripChars_of_not_isPrefix single names

/-- Let a base directory have one leading slash in normal form, and let a path in normal form have one, too.
If the segments of the base directory stand in front of the path, the segments behind them are what is left,
and putting them behind the base directory gives the path back. Otherwise the path stays as it is. So it
does if a name is longer than the last one of the base directory. -/
theorem strip_drops_whole_segments (path base : String)
    (baseSlash : leadingSlashes (normalize base).toList = 1) (normal : IsNormal path.toList)
    (slash : leadingSlashes path.toList = 1) :
    let baseSegments := innerSegments (normalize base).toList
    let segments := innerSegments path.toList
    let stripped := strip path (some base)
    (∀ rest, segments = baseSegments ++ rest → stripped.toList = ['/'].intercalate rest) ∧
    (stripped = path ↔ ¬ baseSegments <+: segments) ∧
    (stripped ≠ path → stripped ≠ "" →
      append (normalize base).toList stripped.toList = path.toList) ∧
    ∀ directory name extra rest, baseSegments = directory ++ [name] → extra ≠ [] →
      segments = directory ++ (name ++ extra) :: rest → stripped = path := by
  intro baseSegments segments stripped
  have fixed : normalizeChars path.toList = path.toList := normalizeChars_of_isNormal normal
  have baseSingle : rootOfPath base.toList = .single := by
    rw [toList_normalize] at baseSlash
    exact rootOfPath_of_leadingSlashes baseSlash
  have single : rootOfPath path.toList = .single := by
    rw [← fixed] at slash
    exact rootOfPath_of_leadingSlashes slash
  have baseInner : baseSegments = segmentsOf base.toList := by
    rw [← innerSegments_normalizeChars baseSingle, ← toList_normalize]
  have inner : segments = segmentsOf path.toList := by
    rw [← innerSegments_normalizeChars single, fixed]
  have names : ∀ segment ∈ segments, IsName segment := by
    rw [inner]
    exact isName_of_single single
  have text : path.toList = absolute segments := by
    rw [inner, ← normalizeChars_of_single single, fixed]
  have strippedText : stripped.toList = stripChars (absolute segments) base.toList := by
    rw [← text]
    exact Specifier.toList_strip path (some base)
  have below : ∀ rest, segments = baseSegments ++ rest → stripped.toList = ['/'].intercalate rest := by
    intro rest shape
    rw [strippedText, shape, baseInner, stripChars_below baseSingle]
  have unchanged : stripped = path ↔ ¬ baseSegments <+: segments := by
    rw [← String.toList_inj, strippedText, text, baseInner]
    exact stripChars_eq_self_iff baseSingle names
  refine ⟨below, unchanged, ?_, ?_⟩
  · intro changed nonempty
    obtain ⟨rest, shape⟩ := not_not.mp (mt unchanged.mpr changed)
    have left := below rest shape.symm
    have remains : rest ≠ [] := by
      rintro rfl
      apply nonempty
      rw [← String.toList_inj, left]
      rfl
    have kept : ∀ segment ∈ baseSegments ++ rest, IsKept segment := by
      rw [shape]
      exact fun segment member => (names segment member).toIsKept
    rw [left, toList_normalize, normalizeChars_of_single baseSingle, ← baseInner,
      append_absolute_intercalate remains kept, shape, text]
  · intro directory name extra rest baseShape longer shape
    rw [unchanged, baseShape, shape, List.prefix_append_right_inj, List.cons_prefix_cons]
    rintro ⟨same, -⟩
    exact longer (List.self_eq_append_right.mp same)

/-- A base directory with backslashes, a detour and a trailing slash is dropped from a path below it, and not
from one below a sibling with a longer name. -/
theorem strip_drops_base_and_keeps_sibling :
    let base := "\\proj//lib\\..\\src/./"
    let below := "/proj/src/domain/order"
    let sibling := "/proj/src2/domain"
    leadingSlashes (normalize base).toList = 1 ∧
      IsNormal below.toList ∧ leadingSlashes below.toList = 1 ∧
      strip below (some base) = "domain/order" ∧
      append (normalize base).toList (strip below (some base)).toList = below.toList ∧
      IsNormal sibling.toList ∧ leadingSlashes sibling.toList = 1 ∧
      strip sibling (some base) = sibling := by
  intro base below sibling
  have baseSlash : leadingSlashes (normalize base).toList = 1 := by decide +kernel
  have belowNormal : IsNormal below.toList := by decide +kernel
  have belowSlash : leadingSlashes below.toList = 1 := by decide +kernel
  have siblingNormal : IsNormal sibling.toList := by decide +kernel
  have siblingSlash : leadingSlashes sibling.toList = 1 := by decide +kernel
  obtain ⟨drops, -, back, -⟩ := strip_drops_whole_segments below base baseSlash belowNormal belowSlash
  obtain ⟨-, -, -, keeps⟩ := strip_drops_whole_segments sibling base baseSlash siblingNormal siblingSlash
  have dropped : strip below (some base) = "domain/order" := by
    rw [← String.toList_inj, drops ["domain".toList, "order".toList] (by decide +kernel)]
    decide +kernel
  refine ⟨baseSlash, belowNormal, belowSlash, dropped, ?_, siblingNormal, siblingSlash, ?_⟩
  · apply back
    · rw [dropped]
      decide +kernel
    · rw [dropped]
      decide +kernel
  · exact keeps ["proj".toList] "src".toList ['2'] ["domain".toList] (by decide +kernel)
      (by decide) (by decide +kernel)

end BaseDir
end LayerLint
