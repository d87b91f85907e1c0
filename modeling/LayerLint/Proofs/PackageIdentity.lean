import LayerLint.Proofs.RelativePath

/-!
# Identity of packages

A package has lost the base directory at its front and the extension at its end, and what is left is a
plain text. It still tells any two modules apart. A directory below the base directory leaves a text that
does not begin with a slash, every other directory leaves one that does, and a stem has no slash at all.
So the directory and the stem of a file can be read off its package, wherever the file lies.
-/

namespace LayerLint

namespace Segments

theorem not_mem_of_cutLast_eq_none {mark : Char} {text : List Char}
    (uncut : cutLast mark text = none) : mark ∉ text := by
  induction text with
  | nil => exact List.not_mem_nil
  | cons c text ih =>
      rw [cutLast] at uncut
      cases inner : cutLast mark text with
      | some parts => simp [inner] at uncut
      | none =>
          have different : c ≠ mark := by simpa [inner] using uncut
          rw [List.mem_cons, not_or]
          exact ⟨different.symm, ih inner⟩

theorem eq_append_of_cutLast {mark : Char} {text before after : List Char}
    (cut : cutLast mark text = some (before, after)) :
    text = before ++ mark :: after ∧ mark ∉ after := by
  induction text generalizing before with
  | nil => simp [cutLast] at cut
  | cons c text ih =>
      rw [cutLast] at cut
      cases inner : cutLast mark text with
      | some parts =>
          obtain ⟨rest, tail⟩ := parts
          simp only [inner, Option.some.injEq, Prod.mk.injEq] at cut
          obtain ⟨rfl, rfl⟩ := cut
          obtain ⟨whole, noMark⟩ := ih inner
          exact ⟨by rw [whole, List.cons_append], noMark⟩
      | none =>
          simp only [inner, Option.ite_none_right_eq_some, Option.some.injEq, Prod.mk.injEq] at cut
          obtain ⟨rfl, rfl, rfl⟩ := cut
          exact ⟨rfl, not_mem_of_cutLast_eq_none inner⟩

end Segments

namespace NormalPath

open Segments

theorem exists_eq_stem_append (name : List Char) :
    ∃ ending, name = stem name ++ ending ∧ (ending = [] ∨ Specifier.IsExtension ending) := by
  unfold stem
  split
  next => exact ⟨[], (List.append_nil name).symm, .inl rfl⟩
  next before after cut =>
    split_ifs
    · exact ⟨[], (List.append_nil name).symm, .inl rfl⟩
    · obtain ⟨whole, noDot⟩ := eq_append_of_cutLast cut
      exact ⟨'.' :: after, whole, .inr ⟨after, rfl, noDot⟩⟩

theorem no_slash_splitName (path : List Char) : '/' ∉ (splitName path).2 := by
  unfold splitName
  split
  next uncut => exact not_mem_of_cutLast_eq_none uncut
  next before name cut =>
    obtain ⟨-, noSlash⟩ := eq_append_of_cutLast cut
    split_ifs <;> exact noSlash

theorem isAbsolute_rootOf_iff (text : List Char) :
    (rootOf text).isAbsolute = true ↔ text.head? = some '/' := by
  rw [(rootOf_eq_leadingSlashes text).2, bne_iff_ne]
  cases text with
  | nil => simp [leadingSlashes]
  | cons c text =>
      by_cases slash : c = '/'
      · simp [slash, leadingSlashes_cons]
      · simp [slash, leadingSlashes]

/-- A path is absolute when its normal form begins with a slash. -/
theorem isAbsolute_rootOfPath_iff (path : List Char) :
    (rootOfPath path).isAbsolute = true ↔ (normalizeChars path).head? = some '/' := by
  have plain := unifySlashes_of_no_backslash (isNormal_normalizeChars path).noBackslash
  rw [← rootOfPath_normalizeChars, rootOfPath, plain, isAbsolute_rootOf_iff]

/-- A text that begins with a slash and has no empty segment behind its leading slashes. -/
structure IsRooted (path : List Char) : Prop where
  isAbsolute : path.head? = some '/'
  noEmpty : [] ∉ innerSegments path

theorem isRooted_append_intercalate {root : Root} (isAbsolute : root.isAbsolute = true)
    {segments : List Segment} (kept : ∀ segment ∈ segments, IsKept segment) :
    IsRooted (root.slashes ++ ['/'].intercalate segments) := by
  constructor
  · cases root with
    | relative => exact absurd isAbsolute (by decide)
    | single => rfl
    | double => rfl
  · rw [innerSegments_append_intercalate root kept]
    exact fun empty => (kept [] empty).ne_nil rfl

theorem append_of_unrooted (directory : List Char) {path : List Char}
    (unrooted : path.head? ≠ some '/') :
    append directory path =
      (if directory = [] ∨ directory.getLast? = some '/' then directory else directory ++ ['/']) ++
        path := by
  unfold append
  split
  next => exact absurd rfl unrooted
  next => split_ifs <;> simp

/-- The directory of an absolute normal path has no empty segment either, and the path is its name put
behind the directory. -/
theorem splitName_of_isAbsolute {path : List Char}
    (isAbsolute : (rootOfPath path).isAbsolute = true) :
    IsRooted (splitName (normalizeChars path)).1 ∧
      append (splitName (normalizeChars path)).1 (splitName (normalizeChars path)).2 =
        normalizeChars path := by
  have kept : ∀ segment ∈ segmentsOf path, IsKept segment := fun _ => isKept_of_mem_segmentsOf
  rw [normalizeChars_of_isAbsolute isAbsolute]
  generalize rootOfPath path = root at isAbsolute ⊢
  by_cases atRoot : segmentsOf path = []
  · have rooted := isRooted_append_intercalate isAbsolute (List.forall_mem_nil IsKept)
    rw [atRoot]
    cases root with
    | relative => exact absurd isAbsolute (by decide)
    | single => exact ⟨rooted, rfl⟩
    | double => exact ⟨rooted, rfl⟩
  · rw [← List.dropLast_concat_getLast atRoot] at kept ⊢
    generalize (segmentsOf path).dropLast = directory at kept ⊢
    generalize (segmentsOf path).getLast atRoot = name at kept ⊢
    have directoryKept : ∀ segment ∈ directory, IsKept segment := fun segment member =>
      kept segment (List.mem_append_left [name] member)
    rw [splitName_append_intercalate isAbsolute kept]
    refine ⟨isRooted_append_intercalate isAbsolute directoryKept, ?_⟩
    have noSlash : '/' ∉ name := (kept name (by simp)).noSlash
    rw [append_of_unrooted _ fun slash => noSlash (List.mem_of_mem_head? slash)]
    by_cases inRoot : directory = []
    · subst inRoot
      rw [List.nil_append, List.intercalate_singleton]
      cases root with
      | relative => exact absurd isAbsolute (by decide)
      | single => rfl
      | double => rfl
    · obtain ⟨front, c, shape, notSlash⟩ := exists_last_of_kept inRoot directoryKept
      have untrailed : ¬ (root.slashes ++ ['/'].intercalate directory = [] ∨
          (root.slashes ++ ['/'].intercalate directory).getLast? = some '/') := by
        rw [shape, ← List.append_assoc, List.getLast?_concat]
        simp [notSlash]
      rw [if_neg untrailed, intercalate_concat inRoot]
      simp

end NormalPath

namespace BaseDir

open Segments NormalPath

theorem getLast?_trimSlashes_ne (text : List Char) : (trimSlashes text).getLast? ≠ some '/' := by
  rw [trimSlashes, List.getLast?_reverse]
  intro slash
  have first := List.head?_dropWhile_not (· == '/') text.reverse
  rw [slash] at first
  simp at first

/-- What follows a directory and a slash in a path without empty segments does not begin with a slash. -/
theorem relative_of_isRooted {base rest : List Char} (notRoot : base ≠ [])
    (untrailed : base.getLast? ≠ some '/') (rooted : IsRooted (base ++ '/' :: rest)) :
    rest ≠ [] ∧ rest.head? ≠ some '/' := by
  have named : base.dropWhile (· == '/') ≠ [] := by
    intro allSlashes
    rw [List.dropWhile_eq_nil_iff] at allSlashes
    apply untrailed
    rw [List.getLast?_eq_some_getLast notRoot]
    exact congrArg some (beq_iff_eq.mp (allSlashes _ (List.getLast_mem notRoot)))
  have behind : (base ++ '/' :: rest).dropWhile (· == '/') =
      base.dropWhile (· == '/') ++ '/' :: rest := by
    rw [List.dropWhile_append, if_neg (mt List.isEmpty_iff.mp named)]
  have inner : innerSegments (base ++ '/' :: rest) =
      (base.dropWhile (· == '/')).splitOn '/' ++ rest.splitOn '/' := by
    rw [innerSegments, behind, if_neg (List.append_ne_nil_of_left_ne_nil named _),
      List.splitOn_append_cons_self]
  have noEmpty : [] ∉ rest.splitOn '/' := by
    intro empty
    apply rooted.noEmpty
    rw [inner]
    exact List.mem_append_right _ empty
  constructor
  · rintro rfl
    exact noEmpty List.mem_cons_self
  · intro slash
    obtain ⟨more, rfl⟩ := List.head?_eq_some_iff.mp slash
    apply noEmpty
    rw [splitOn_slash_cons]
    exact List.mem_cons_self

/-- Three things can happen to a path when a base directory other than the root is dropped: it is the base
directory, it lies below it, or it is left alone. -/
theorem stripTrimmed_of_isRooted {base path : List Char} (notRoot : base ≠ [])
    (untrailed : base.getLast? ≠ some '/') (rooted : IsRooted path) :
    (path = base ∧ stripTrimmed path base = []) ∨
      (∃ rest, path = base ++ '/' :: rest ∧ rest ≠ [] ∧ rest.head? ≠ some '/' ∧
        stripTrimmed path base = rest) ∨
      stripTrimmed path base = path := by
  rw [stripTrimmed_of_ne_nil notRoot]
  by_cases atBase : path = base
  · exact .inl ⟨atBase, if_pos atBase⟩
  rw [if_neg atBase]
  cases found : afterPrefix? (base ++ ['/']) path with
  | none => exact .inr (.inr rfl)
  | some rest =>
      have whole : path = base ++ '/' :: rest := by
        rw [eq_append_of_afterPrefix? found, List.append_assoc, List.singleton_append]
      obtain ⟨something, unrooted⟩ := relative_of_isRooted notRoot untrailed (whole ▸ rooted)
      exact .inr (.inl ⟨rest, whole, something, unrooted, rfl⟩)

theorem injOn_stripTrimmed {base : List Char} (untrailed : base.getLast? ≠ some '/') :
    Set.InjOn (fun path => stripTrimmed path base) {path | IsRooted path} := by
  intro first firstRooted second secondRooted same
  simp only at same
  by_cases atRoot : base = []
  · -- The root takes away the first slash, which all of these paths have.
    obtain ⟨firstRest, rfl⟩ := List.head?_eq_some_iff.mp firstRooted.isAbsolute
    obtain ⟨secondRest, rfl⟩ := List.head?_eq_some_iff.mp secondRooted.isAbsolute
    simpa [stripTrimmed, atRoot] using same
  have firstSlash := firstRooted.isAbsolute
  have secondSlash := secondRooted.isAbsolute
  rcases stripTrimmed_of_isRooted atRoot untrailed firstRooted with
    ⟨firstIsBase, firstLeft⟩ | ⟨firstRest, firstWhole, firstFull, firstUnrooted, firstLeft⟩ | firstLeft <;>
  rcases stripTrimmed_of_isRooted atRoot untrailed secondRooted with
    ⟨secondIsBase, secondLeft⟩ | ⟨secondRest, secondWhole, secondFull, secondUnrooted, secondLeft⟩ |
      secondLeft <;>
  rw [firstLeft, secondLeft] at same
  · rw [firstIsBase, secondIsBase]
  · exact absurd same.symm secondFull
  · simp [← same] at secondSlash
  · exact absurd same firstFull
  · rw [firstWhole, secondWhole, same]
  · exact absurd (same ▸ secondSlash) firstUnrooted
  · simp [same] at firstSlash
  · exact absurd (same ▸ firstSlash) secondUnrooted
  · exact same

theorem injOn_stripChars (base : List Char) :
    Set.InjOn (fun path => stripChars path base) {path | IsRooted path} := by
  unfold stripChars
  split_ifs
  · exact Function.injective_id.injOn
  · exact injOn_stripTrimmed (getLast?_trimSlashes_ne _)

end BaseDir

namespace Package

open Segments NormalPath

theorem ofParts_inj {directory otherDirectory stem otherStem : List Char} (noSlash : '/' ∉ stem)
    (otherNoSlash : '/' ∉ otherStem)
    (same : ofParts directory stem = ofParts otherDirectory otherStem) :
    directory = otherDirectory ∧ stem = otherStem := by
  unfold ofParts at same
  split_ifs at same with empty otherEmpty otherEmpty
  · exact ⟨empty.trans otherEmpty.symm, same⟩
  · rw [same] at noSlash
    simp at noSlash
  · rw [← same] at otherNoSlash
    simp at otherNoSlash
  · have cut := congrArg (cutLast '/') same
    rw [cutLast_append _ noSlash, cutLast_append _ otherNoSlash, Option.some.injEq,
      Prod.mk.injEq] at cut
    exact cut

/-- Two files with one package lie in the same directory and have the same stem, so that their paths
differ at most in the last extension. -/
theorem ofFile_tells_modules_apart (first second : String) (base : Option String)
    (firstAbsolute : (normalize first).toList.head? = some '/')
    (secondAbsolute : (normalize second).toList.head? = some '/')
    (same : ofFile first base = ofFile second base) :
    directory (normalize first).toList = directory (normalize second).toList ∧
      stem (splitName (normalize first).toList).2 = stem (splitName (normalize second).toList).2 ∧
      ∃ trunk firstEnding secondEnding,
        (normalize first).toList = trunk ++ firstEnding ∧
        (normalize second).toList = trunk ++ secondEnding ∧
        (firstEnding = [] ∨ Specifier.IsExtension firstEnding) ∧
        (secondEnding = [] ∨ Specifier.IsExtension secondEnding) := by
  simp only [toList_normalize] at *
  obtain ⟨firstRooted, firstWhole⟩ :=
    splitName_of_isAbsolute ((isAbsolute_rootOfPath_iff first.toList).mpr firstAbsolute)
  obtain ⟨secondRooted, secondWhole⟩ :=
    splitName_of_isAbsolute ((isAbsolute_rootOfPath_iff second.toList).mpr secondAbsolute)
  have firstNoSlash := no_slash_splitName (normalizeChars first.toList)
  have secondNoSlash := no_slash_splitName (normalizeChars second.toList)
  have sameChars := congrArg String.toList same
  rw [ofFile, ofFile, String.toList_ofList, String.toList_ofList, ofFileChars, ofFileChars] at sameChars
  unfold directory
  generalize splitName (normalizeChars first.toList) = firstParts at *
  generalize splitName (normalizeChars second.toList) = secondParts at *
  obtain ⟨firstEnding, firstName, firstExtension⟩ := exists_eq_stem_append firstParts.2
  obtain ⟨secondEnding, secondName, secondExtension⟩ := exists_eq_stem_append secondParts.2
  have sameParts := ofParts_inj (fun slash => firstNoSlash (firstName ▸ List.mem_append_left _ slash))
    (fun slash => secondNoSlash (secondName ▸ List.mem_append_left _ slash)) sameChars
  have sameDirectory : firstParts.1 = secondParts.1 :=
    BaseDir.injOn_stripChars _ firstRooted secondRooted sameParts.1
  refine ⟨sameDirectory, sameParts.2, ?_⟩
  rw [append_of_unrooted _ fun slash => firstNoSlash (List.mem_of_mem_head? slash)] at firstWhole
  rw [append_of_unrooted _ fun slash => secondNoSlash (List.mem_of_mem_head? slash)] at secondWhole
  rw [firstName, ← List.append_assoc] at firstWhole
  rw [secondName, ← List.append_assoc, ← sameDirectory, ← sameParts.2] at secondWhole
  exact ⟨_, firstEnding, secondEnding, firstWhole.symm, secondWhole.symm, firstExtension,
    secondExtension⟩

/-- One module with two extensions, the second time written with backslashes and a detour. -/
theorem ofFile_tells_modules_apart_below_base :
    let first := "/p//src/./app/a.b.ts"
    let second := "\\p\\x\\..\\src\\app\\a.b.tsx"
    let base := some "/p/src/"
    (normalize first).toList.head? = some '/' ∧ (normalize second).toList.head? = some '/' ∧
      ofFile first base = ofFile second base ∧ ofFile first base = "app/a.b" ∧
      directory (normalize first).toList = directory (normalize second).toList ∧
      stem (splitName (normalize first).toList).2 = stem (splitName (normalize second).toList).2 := by
  intro first second base
  have firstAbsolute : (normalize first).toList.head? = some '/' := by decide +kernel
  have secondAbsolute : (normalize second).toList.head? = some '/' := by decide +kernel
  have same : ofFile first base = ofFile second base := by decide +kernel
  obtain ⟨sameDirectory, sameStem, -⟩ :=
    ofFile_tells_modules_apart first second base firstAbsolute secondAbsolute same
  exact ⟨firstAbsolute, secondAbsolute, same, by decide +kernel, sameDirectory, sameStem⟩

end Package
end LayerLint
