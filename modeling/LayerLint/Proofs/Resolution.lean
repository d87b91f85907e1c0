import LayerLint.Grammar
import LayerLint.Proofs.Lowercase
import LayerLint.Proofs.NormalPath
import LayerLint.Proofs.Traversal

/-!
# Imports and the files that they name

The package of a file and the package of an import that names this file are computed in two different
ways. This file shows when they agree. The package of a file strictly below the base directory is the
path without its extension below the base directory. An import that leaves the extension out denotes
this package, and so does one that spells it out, except that of a declaration file more than the last
extension is dropped.
-/

namespace LayerLint

open Segments NormalPath

namespace Specifier

/-- An extension: a dot, and no other dot behind it. -/
def IsExtension (extension : List Char) : Prop :=
  ∃ letters, extension = '.' :: letters ∧ '.' ∉ letters

theorem eq_of_isExtension_of_isSuffix {inner outer : List Char} (innerDot : IsExtension inner)
    (outerDot : IsExtension outer) (ends : inner <:+ outer) : inner = outer := by
  obtain ⟨innerLetters, rfl, -⟩ := innerDot
  obtain ⟨outerLetters, rfl, noDot⟩ := outerDot
  rcases List.suffix_cons_iff.mp ends with same | inside
  · exact same
  · exact absurd (inside.subset List.mem_cons_self) noDot

/-- A text ends in one extension only. -/
theorem eq_of_isExtension {first second text : List Char} (firstDot : IsExtension first)
    (secondDot : IsExtension second) (firstEnds : first <:+ text) (secondEnds : second <:+ text) :
    first = second := by
  rcases List.suffix_or_suffix_of_suffix firstEnds secondEnds with inner | inner
  · exact eq_of_isExtension_of_isSuffix firstDot secondDot inner
  · exact (eq_of_isExtension_of_isSuffix secondDot firstDot inner).symm

/-- An ending without a mark lies behind the last mark of a text. -/
theorem isSuffix_of_isSuffix_append_cons {mark : Char} {ending before after : List Char}
    (noMark : mark ∉ ending) (ends : ending <:+ before ++ mark :: after) : ending <:+ after := by
  rcases List.suffix_or_suffix_of_suffix ends (List.suffix_append before (mark :: after)) with
    inside | reaches
  · rcases List.suffix_cons_iff.mp inside with whole | inside
    · exact absurd (whole ▸ List.mem_cons_self) noMark
    · exact inside
  · exact absurd (reaches.subset List.mem_cons_self) noMark

/-- The extension of declaration files. -/
def declaration : List Char :=
  ['.', 'd', '.', 't', 's']

/-- The extensions that a specifier may spell out, besides that of declaration files. -/
def sourceExtensions : List (List Char) :=
  extensions.tail

theorem extensions_eq : extensions = declaration :: sourceExtensions := rfl

theorem mem_extensionChars_of_mem {ending : List Char} (member : ending ∈ extensions) :
    ∀ c ∈ ending, c ∈ Text.extensionChars := by
  have plain : ∀ other ∈ extensions, ∀ c ∈ other, c ∈ Text.extensionChars := by
    simp [extensions, Text.extensionChars]
  exact plain ending member

theorem isExtension_of_mem {extension : List Char} (member : extension ∈ sourceExtensions) :
    IsExtension extension := by
  have shape : ∀ other ∈ sourceExtensions, other.head? = some '.' ∧ '.' ∉ other.tail := by decide
  obtain ⟨dot, noDot⟩ := shape extension member
  cases extension with
  | nil => exact absurd dot (by decide)
  | cons c letters => exact ⟨letters, by rw [Option.some.inj dot], noDot⟩

theorem isSuffixOf_lowerChars {ending : List Char} (member : ending ∈ extensions)
    (path : List Char) :
    ending.isSuffixOf (Text.lowerChars path) = true ↔ ending <:+ path.map Char.toLower := by
  rw [List.isSuffixOf_iff_suffix]
  exact Text.isSuffix_lowerChars_iff (mem_extensionChars_of_mem member) path

theorem dropExtension_of_no_ending {path : List Char}
    (noEnding : ∀ ending ∈ extensions, ¬ ending <:+ path.map Char.toLower) :
    dropExtension path = path := by
  have notFound : extensions.find? (fun ending => ending.isSuffixOf (Text.lowerChars path)) =
      none := by
    rw [List.find?_eq_none]
    intro ending member
    rw [isSuffixOf_lowerChars member]
    exact noEnding ending member
  rw [dropExtension, notFound]

theorem dropExtension_of_declaration {path : List Char}
    (isDeclaration : declaration <:+ path.map Char.toLower) :
    dropExtension path = path.take (path.length - 5) := by
  have ends : declaration.isSuffixOf (Text.lowerChars path) = true :=
    (isSuffixOf_lowerChars (extensions_eq ▸ List.mem_cons_self) path).mpr isDeclaration
  have found : extensions.find? (fun ending => ending.isSuffixOf (Text.lowerChars path)) =
      some declaration := by
    rw [extensions_eq, List.find?_cons]
    simp only [ends]
  rw [dropExtension, found]
  rfl

/-- Of any other file the extension that it has in lower case is dropped. -/
theorem dropExtension_append {path extension : List Char}
    (source : extension.map Char.toLower ∈ sourceExtensions)
    (notDeclaration : ¬ declaration <:+ (path ++ extension).map Char.toLower) :
    dropExtension (path ++ extension) = path := by
  have listed : extension.map Char.toLower ∈ extensions :=
    extensions_eq ▸ List.mem_cons_of_mem declaration source
  have ends := (List.suffix_append path extension).map Char.toLower
  have isFound := (List.find?_isSome (p := fun ending =>
    ending.isSuffixOf (Text.lowerChars (path ++ extension)))).mpr
      ⟨_, listed, (isSuffixOf_lowerChars listed _).mpr ends⟩
  obtain ⟨found, search⟩ := Option.isSome_iff_exists.mp isFound
  have foundListed := List.mem_of_find?_eq_some search
  have foundTest := List.find?_some search
  have foundEnds := (isSuffixOf_lowerChars foundListed _).mp foundTest
  -- The search takes the first ending that fits, but besides the compound one only one can fit.
  have same : found = extension.map Char.toLower := by
    rw [extensions_eq] at foundListed
    rcases List.mem_cons.mp foundListed with rfl | foundSource
    · exact absurd foundEnds notDeclaration
    · exact eq_of_isExtension (isExtension_of_mem foundSource) (isExtension_of_mem source)
        foundEnds ends
  rw [dropExtension, search, same]
  simp

/-- More than the extension is dropped from declaration files, and from no others. -/
theorem dropExtension_append_eq_iff {path extension : List Char}
    (source : extension.map Char.toLower ∈ sourceExtensions) :
    dropExtension (path ++ extension) = path ↔
      ¬ declaration <:+ (path ++ extension).map Char.toLower := by
  constructor
  · intro dropped isDeclaration
    have inner : ['.', 't', 's'] <:+ declaration := by decide
    have short : extension.map Char.toLower = ['.', 't', 's'] :=
      eq_of_isExtension (isExtension_of_mem source) (isExtension_of_mem (by decide))
        ((List.suffix_append path extension).map Char.toLower) (inner.trans isDeclaration)
    have shortLength : extension.length = 3 := by
      rw [← List.length_map (f := Char.toLower), short]
      rfl
    have enough := isDeclaration.length_le
    rw [dropExtension_of_declaration isDeclaration] at dropped
    have lengths := congrArg List.length dropped
    simp only [declaration, List.length_map, List.length_append, List.length_take, List.length_cons,
      List.length_nil, shortLength] at lengths enough
    omega
  · exact dropExtension_append source

theorem isExtension_of_toLower {extension : List Char}
    (source : extension.map Char.toLower ∈ sourceExtensions) :
    IsExtension extension ∧ '/' ∉ extension ∧ '\\' ∉ extension ∧ 3 ≤ extension.length := by
  have shape : ∀ other ∈ sourceExtensions, '/' ∉ other ∧ '\\' ∉ other ∧ 3 ≤ other.length := by
    decide
  obtain ⟨noSlash, noBackslash, long⟩ := shape _ source
  obtain ⟨letters, lowered, noDot⟩ := isExtension_of_mem source
  rw [List.length_map] at long
  refine ⟨?_, fun member => noSlash (List.mem_map_of_mem member),
    fun member => noBackslash (List.mem_map_of_mem member), long⟩
  cases extension with
  | nil => simp at lowered
  | cons c rest =>
      rw [List.map_cons] at lowered
      obtain ⟨dot, restLowered⟩ := List.cons.inj lowered
      refine ⟨rest, by rw [Text.eq_of_toLower_eq dot (by decide)], fun member => noDot ?_⟩
      rw [← restLowered]
      exact List.mem_map_of_mem (f := Char.toLower) member

theorem toLower_mem_of_isSupported {extension : String}
    (supported : Grammar.isSupported extension = true) :
    extension.toList.map Char.toLower ∈ sourceExtensions := by
  rw [Grammar.isSupported, Grammar.dialectOf?, List.lookup_isSome_iff] at supported
  obtain ⟨entry, member, same⟩ := supported
  have listed : ∀ other ∈ Grammar.extensions, other.1.toList ∈ sourceExtensions := by
    decide +kernel
  have lowered : Text.lowerChars extension.toList = entry.1.toList := by
    rw [← eq_of_beq same, Text.lower, String.toList_ofList]
  have plain : ∀ c ∈ Text.lowerAfter [] extension.toList, c ∈ Text.extensionChars := by
    change ∀ c ∈ Text.lowerChars extension.toList, c ∈ Text.extensionChars
    rw [lowered]
    exact mem_extensionChars_of_mem (List.mem_cons_of_mem declaration (listed entry member))
  rw [← Text.lowerAfter_of_plain plain]
  change Text.lowerChars extension.toList ∈ sourceExtensions
  rw [lowered]
  exact listed entry member

end Specifier

namespace NormalPath

theorem stem_append {name extension : List Char} (named : ∃ c ∈ name, c ≠ '.')
    (isExtension : Specifier.IsExtension extension) :
    stem (name ++ extension) = name := by
  obtain ⟨letters, rfl, noDot⟩ := isExtension
  have notAllDots : ¬ name.all (· == '.') = true := by
    obtain ⟨c, member, notDot⟩ := named
    intro allDots
    exact notDot (eq_of_beq (List.all_eq_true.mp allDots c member))
  rw [stem, cutLast_append name noDot]
  simp only [if_neg notAllDots]

theorem isName_append {name extension : List Char} (isName : IsName name)
    (noSlash : '/' ∉ extension) (noBackslash : '\\' ∉ extension) (long : 3 ≤ extension.length) :
    IsName (name ++ extension) := by
  have longer : 3 ≤ (name ++ extension).length := by
    rw [List.length_append]
    omega
  refine ⟨⟨?_, ?_, ?_, ?_⟩, ?_⟩
  · exact fun same => absurd (same ▸ longer) (by decide)
  · exact fun same => absurd (same ▸ longer) (by decide)
  · exact fun member => (List.mem_append.mp member).elim isName.noSlash noSlash
  · exact fun member => (List.mem_append.mp member).elim isName.noBackslash noBackslash
  · exact fun same => absurd (same ▸ longer) (by decide)

theorem isName_of_append {name extension : List Char} (isName : IsName (name ++ extension))
    (named : ∃ c ∈ name, c ≠ '.') : IsName name := by
  obtain ⟨c, member, notDot⟩ := named
  refine ⟨⟨?_, ?_, ?_, ?_⟩, ?_⟩
  · exact List.ne_nil_of_mem member
  · exact fun same => notDot (List.mem_singleton.mp (same ▸ member))
  · exact fun inside => isName.noSlash (List.mem_append_left _ inside)
  · exact fun inside => isName.noBackslash (List.mem_append_left _ inside)
  · intro same
    rw [same, parent] at member
    exact notDot (by simpa using member)

end NormalPath

namespace BaseDir

theorem stripChars_cases {base : List Char} (isAbsolute : (rootOfPath base).isAbsolute = true) :
    (∀ rest, stripChars (absolute (segmentsOf base ++ rest)) base = ['/'].intercalate rest) ∨
      (segmentsOf base ≠ [] ∧ ∀ segments : List Segment, (∀ segment ∈ segments, IsName segment) →
        stripChars (absolute segments) base = absolute segments) := by
  cases root : rootOfPath base with
  | relative =>
      rw [root] at isAbsolute
      exact absurd isAbsolute (by decide)
  | single => exact .inl (stripChars_below root)
  | double =>
      by_cases atRoot : segmentsOf base = []
      · refine .inl fun rest => ?_
        rw [stripChars_root isAbsolute atRoot, atRoot, List.nil_append]
      · exact .inr ⟨atRoot, fun segments => stripChars_double root atRoot⟩

end BaseDir

namespace Package

theorem ofParts_join {directory : List Segment} (names : ∀ segment ∈ directory, IsName segment)
    (name : Segment) :
    ofParts (['/'].intercalate directory) name = ['/'].intercalate (directory ++ [name]) := by
  by_cases empty : directory = []
  · rw [empty, List.nil_append, List.intercalate_singleton]
    rfl
  · obtain ⟨front, c, shape, -⟩ :=
      exists_last_of_kept empty fun segment member => (names segment member).toIsKept
    have nonempty : ['/'].intercalate directory ≠ [] := by
      rw [shape]
      simp
    rw [ofParts, if_neg nonempty, intercalate_concat empty]

theorem ofParts_absolute {directory : List Segment} (nonempty : directory ≠ []) (name : Segment) :
    ofParts (absolute directory) name = absolute (directory ++ [name]) := by
  rw [ofParts, if_neg (absolute_ne_nil directory), absolute_concat nonempty]

/-- The package of a file strictly below the base directory is its path below the base directory
without the extension. -/
theorem ofFileChars_eq_stripChars {base : List Char}
    (isAbsolute : (rootOfPath base).isAbsolute = true) {directory : List Segment} {name : Segment}
    (names : ∀ segment ∈ segmentsOf base ++ directory ++ [name], IsName segment)
    (named : ∃ c ∈ name, c ≠ '.') {extension : List Char}
    (source : extension.map Char.toLower ∈ Specifier.sourceExtensions) :
    ofFileChars (absolute (segmentsOf base ++ directory ++ [name]) ++ extension) base =
      BaseDir.stripChars (absolute (segmentsOf base ++ directory ++ [name])) base := by
  obtain ⟨isExtension, noSlash, noBackslash, long⟩ := Specifier.isExtension_of_toLower source
  have directoryNames : ∀ segment ∈ segmentsOf base ++ directory, IsName segment :=
    fun segment member => names segment (List.mem_append_left [name] member)
  have fileNames : ∀ segment ∈ segmentsOf base ++ directory ++ [name ++ extension],
      IsName segment := by
    intro segment member
    rcases List.mem_append.mp member with member | member
    · exact directoryNames segment member
    · rw [List.mem_singleton.mp member]
      exact isName_append (names name (by simp)) noSlash noBackslash long
  rw [absolute_concat_append, ofFileChars, normalizeChars_absolute fileNames,
    splitName_absolute fileNames]
  simp only [stem_append named isExtension]
  -- The base directory is dropped from the directory here, and from the whole path on the other side.
  rcases BaseDir.stripChars_cases isAbsolute with drops | ⟨notRoot, keeps⟩
  · rw [drops, List.append_assoc, drops]
    apply ofParts_join
    exact fun segment member => directoryNames segment (List.mem_append_right _ member)
  · rw [keeps _ directoryNames, keeps _ names]
    exact ofParts_absolute (List.append_ne_nil_of_left_ne_nil notRoot directory) name

end Package

namespace Specifier

/-- The path in normal form that the text of a relative import denotes. -/
def targetPath (text file : String) : String :=
  String.ofList (target (unquote text).toList file.toList)

theorem resolve_of_isRelative {text : String} (relative : isRelative (unquote text) = true)
    (file base : String) :
    resolve text file (some base) =
      String.ofList (dropExtension
        (BaseDir.stripChars (targetPath text file).toList base.toList)) := by
  have relativeChars : isRelativeChars (unquoteChars text.toList) = true := by
    rw [isRelative, unquote, String.toList_ofList] at relative
    exact relative
  rw [resolve, resolveChars, if_pos relativeChars, targetPath, unquote, String.toList_ofList,
    String.toList_ofList]
  rfl

theorem resolve_of_not_isRelative {text : String} (external : ¬ isRelative (unquote text) = true)
    (file : String) (base : Option String) : resolve text file base = unquote text := by
  have externalChars : ¬ isRelativeChars (unquoteChars text.toList) = true := by
    rw [isRelative, unquote, String.toList_ofList] at external
    exact external
  rw [resolve, resolveChars, if_neg externalChars, unquote]

theorem exists_names_of_isBelow {text file : String} {base : List Char}
    (single : rootOfPath (targetPath text file).toList = .single)
    (below : IsBelow (targetPath text file).toList base) :
    ∃ directory name, (targetPath text file).toList =
        absolute (segmentsOf base ++ directory ++ [name]) ∧
      (∀ segment ∈ segmentsOf base ++ directory ++ [name], IsName segment) ∧
      last (targetPath text file).toList = name := by
  obtain ⟨rest, nonempty, shape⟩ := below
  have names := isName_of_single single
  have normal : (targetPath text file).toList =
      absolute (segmentsOf (targetPath text file).toList) := by
    rw [targetPath, String.toList_ofList] at single ⊢
    exact eq_absolute_of_single single
  obtain ⟨directory, name, rfl⟩ : ∃ directory name, rest = directory ++ [name] :=
    ⟨rest.dropLast, rest.getLast nonempty, (List.dropLast_concat_getLast nonempty).symm⟩
  rw [shape, ← List.append_assoc] at names normal
  exact ⟨directory, name, normal, names, by rw [normal, last_absolute names]⟩

theorem dropExtension_stripChars {path : List Char}
    (unextended : ∀ ending ∈ extensions, ¬ ending <:+ Text.lowerChars path) (base : List Char) :
    dropExtension (BaseDir.stripChars path base) = BaseDir.stripChars path base := by
  apply dropExtension_of_no_ending
  intro ending member ends
  apply unextended ending member
  rw [Text.isSuffix_lowerChars_iff (mem_extensionChars_of_mem member)]
  exact ends.trans ((BaseDir.stripChars_isSuffix path base).map Char.toLower)

/-- An import that leaves out the extension of a source file below the base directory denotes the
package of this file, and the layer on its edge is the layer of the file. -/
theorem resolve_eq_package_of_extended_target (text file base extension : String) (path : String)
    (relative : isRelative (unquote text) = true)
    (denoted : targetPath text file = path)
    (isAbsolute : (rootOfPath base.toList).isAbsolute = true)
    (single : rootOfPath path.toList = .single)
    (below : IsBelow path.toList base.toList)
    (named : ∃ c ∈ last path.toList, c ≠ '.')
    (unextended : ∀ ending ∈ extensions, ¬ ending <:+ Text.lowerChars path.toList)
    (supported : Grammar.isSupported extension = true) :
    resolve text file (some base) = Package.ofFile (path ++ extension) (some base) ∧
      ∀ (policy : Policy) (isMatch : Matcher) (root : Tree), policy.baseDir = base →
        ∀ edge ∈ (checkFile policy isMatch file root).value.1.edges, edge.specifier = text →
          edge.layer = policy.layerOf? isMatch (policy.packageOf (path ++ extension)) := by
  subst denoted
  have agree : resolve text file (some base) =
      Package.ofFile (targetPath text file ++ extension) (some base) := by
    obtain ⟨directory, name, normal, names, lastName⟩ := exists_names_of_isBelow single below
    rw [lastName] at named
    rw [resolve_of_isRelative relative, dropExtension_stripChars unextended, Package.ofFile,
      String.toList_append, normal, Option.getD_some,
      Package.ofFileChars_eq_stripChars isAbsolute names named
        (toLower_mem_of_isSupported supported)]
  refine ⟨agree, ?_⟩
  intro policy isMatch root sameBase edge member sameText
  obtain ⟨package, layer⟩ := edge_of_mem_checkFile member
  rw [layer, package, sameText, Policy.packageOf, sameBase, agree]

/-- An import with a double dot and an inner dot, below a base directory that is not in normal form. -/
theorem resolve_eq_package_of_util :
    let text := "'..\\lib/./util.v1'"
    let file := "/p/src//app/main.ts"
    let base := "/p/x/../src/"
    isRelative (unquote text) = true ∧ targetPath text file = "/p/src/lib/util.v1" ∧
      IsBelow "/p/src/lib/util.v1".toList base.toList ∧ Grammar.isSupported ".Tsx" = true ∧
      resolve text file (some base) = Package.ofFile "/p/src/lib/util.v1.Tsx" (some base) := by
  intro text file base
  have relative : isRelative (unquote text) = true := by decide +kernel
  have denoted : targetPath text file = "/p/src/lib/util.v1" := by decide +kernel
  have below : IsBelow "/p/src/lib/util.v1".toList base.toList :=
    ⟨["lib".toList, "util.v1".toList], by decide +kernel, by decide +kernel⟩
  have supported : Grammar.isSupported ".Tsx" = true := by decide +kernel
  have agree := resolve_eq_package_of_extended_target text file base ".Tsx" "/p/src/lib/util.v1"
    relative denoted (by decide +kernel) (by decide +kernel) below ⟨'u', by decide +kernel⟩
    (by decide +kernel) supported
  exact ⟨relative, denoted, below, supported, agree.1⟩

theorem stripChars_file_cases {base : List Char}
    (isAbsolute : (rootOfPath base).isAbsolute = true) {directory : List Segment} {name : Segment}
    (names : ∀ segment ∈ segmentsOf base ++ directory ++ [name], IsName segment) :
    BaseDir.stripChars (absolute (segmentsOf base ++ directory ++ [name])) base = name ∨
      ∃ front, BaseDir.stripChars (absolute (segmentsOf base ++ directory ++ [name])) base =
        front ++ '/' :: name := by
  rcases BaseDir.stripChars_cases isAbsolute with drops | ⟨notRoot, keeps⟩
  · rw [List.append_assoc, drops]
    by_cases empty : directory = []
    · rw [empty, List.nil_append, List.intercalate_singleton]
      exact .inl rfl
    · exact .inr ⟨['/'].intercalate directory, intercalate_concat empty name⟩
  · rw [keeps _ names]
    have nonempty : segmentsOf base ++ directory ≠ [] :=
      List.append_ne_nil_of_left_ne_nil notRoot directory
    exact .inr ⟨_, absolute_concat nonempty name⟩

theorem stripChars_append {base : List Char} (isAbsolute : (rootOfPath base).isAbsolute = true)
    {directory : List Segment} {name extension : List Char}
    (names : ∀ segment ∈ segmentsOf base ++ directory ++ [name], IsName segment)
    (fileNames : ∀ segment ∈ segmentsOf base ++ directory ++ [name ++ extension],
      IsName segment) :
    BaseDir.stripChars (absolute (segmentsOf base ++ directory ++ [name ++ extension])) base =
      BaseDir.stripChars (absolute (segmentsOf base ++ directory ++ [name])) base ++
        extension := by
  rcases BaseDir.stripChars_cases isAbsolute with drops | ⟨-, keeps⟩
  · rw [List.append_assoc, drops, List.append_assoc, drops]
    exact (List.cons.inj (absolute_concat_append directory name extension)).2.symm
  · rw [keeps _ names, keeps _ fileNames, absolute_concat_append]

theorem declaration_isSuffix_iff {base : List Char}
    (isAbsolute : (rootOfPath base).isAbsolute = true) {directory : List Segment} {name : Segment}
    (names : ∀ segment ∈ segmentsOf base ++ directory ++ [name], IsName segment) :
    declaration <:+ (BaseDir.stripChars (absolute (segmentsOf base ++ directory ++ [name])) base).map
        Char.toLower ↔
      declaration <:+ name.map Char.toLower := by
  rcases stripChars_file_cases isAbsolute names with alone | ⟨front, behind⟩
  · rw [alone]
  · rw [behind, List.map_append, List.map_cons]
    constructor
    · intro ends
      exact isSuffix_of_isSuffix_append_cons (by decide) ends
    · intro ends
      exact ends.trans ((List.suffix_cons _ _).trans (List.suffix_append _ _))

/-- An import that spells out the name of a source file below the base directory denotes the package of
this file, unless the name ends, in whatever case, like that of a declaration file. -/
theorem resolve_eq_package_of_target_iff (text file base stem extension : String) (path : String)
    (relative : isRelative (unquote text) = true)
    (denoted : targetPath text file = path)
    (isAbsolute : (rootOfPath base.toList).isAbsolute = true)
    (single : rootOfPath path.toList = .single)
    (below : IsBelow path.toList base.toList)
    (fileName : last path.toList = stem.toList ++ extension.toList)
    (named : ∃ c ∈ stem.toList, c ≠ '.')
    (supported : Grammar.isSupported extension = true) :
    resolve text file (some base) = Package.ofFile path (some base) ↔
      ¬ declaration <:+ Text.lowerChars (stem.toList ++ extension.toList) := by
  subst denoted
  have source := toLower_mem_of_isSupported supported
  obtain ⟨directory, name, normal, fileNames, lastName⟩ := exists_names_of_isBelow single below
  rw [lastName] at fileName
  subst fileName
  have names : ∀ segment ∈ segmentsOf base.toList ++ directory ++ [stem.toList],
      IsName segment := by
    intro segment member
    rcases List.mem_append.mp member with member | member
    · exact fileNames segment (List.mem_append_left _ member)
    · rw [List.mem_singleton.mp member]
      exact isName_of_append (fileNames (stem.toList ++ extension.toList) (by simp)) named
  have package : Package.ofFile (targetPath text file) (some base) = String.ofList
      (BaseDir.stripChars (absolute (segmentsOf base.toList ++ directory ++ [stem.toList]))
        base.toList) := by
    rw [Package.ofFile, normal, ← absolute_concat_append, Option.getD_some,
      Package.ofFileChars_eq_stripChars isAbsolute names named source]
  rw [resolve_of_isRelative relative, normal, stripChars_append isAbsolute names fileNames, package,
    String.ofList_inj, dropExtension_append_eq_iff source,
    ← stripChars_append isAbsolute names fileNames, declaration_isSuffix_iff isAbsolute fileNames,
    Text.isSuffix_lowerChars_iff (mem_extensionChars_of_mem (extensions_eq ▸ List.mem_cons_self))]

/-- A file name with an inner dot and an extension in capitals. -/
theorem resolve_eq_package_of_spec_file :
    isRelative (unquote "'./b.spec.TS'") = true ∧
      targetPath "'./b.spec.TS'" "/p/x.ts" = "/p/b.spec.TS" ∧
      IsBelow "/p/b.spec.TS".toList "/p".toList ∧ Grammar.isSupported ".TS" = true ∧
      resolve "'./b.spec.TS'" "/p/x.ts" (some "/p") = Package.ofFile "/p/b.spec.TS" (some "/p") := by
  have relative : isRelative (unquote "'./b.spec.TS'") = true := by decide +kernel
  have denoted : targetPath "'./b.spec.TS'" "/p/x.ts" = "/p/b.spec.TS" := by decide +kernel
  have below : IsBelow "/p/b.spec.TS".toList "/p".toList :=
    ⟨["b.spec.TS".toList], by decide +kernel, by decide +kernel⟩
  have supported : Grammar.isSupported ".TS" = true := by decide +kernel
  have agree := resolve_eq_package_of_target_iff "'./b.spec.TS'" "/p/x.ts" "/p" "b.spec" ".TS"
    "/p/b.spec.TS" relative denoted (by decide +kernel) (by decide +kernel) below
    (by decide +kernel) ⟨'b', by decide +kernel⟩ supported
  exact ⟨relative, denoted, below, supported, agree.mpr (by decide +kernel)⟩

/-- The package of a declaration file is not the one that an import of this file denotes. -/
theorem resolve_ne_package_of_declaration_file :
    isRelative (unquote "'./a.d.ts'") = true ∧
      targetPath "'./a.d.ts'" "/p/x.ts" = "/p/a.d.ts" ∧
      (rootOfPath "/p".toList).isAbsolute = true ∧ rootOfPath "/p/a.d.ts".toList = .single ∧
      IsBelow "/p/a.d.ts".toList "/p".toList ∧
      last "/p/a.d.ts".toList = "a.d".toList ++ ".ts".toList ∧ Grammar.isSupported ".ts" = true ∧
      resolve "'./a.d.ts'" "/p/x.ts" (some "/p") = "a" ∧
      Package.ofFile "/p/a.d.ts" (some "/p") = "a.d" := by
  have below : IsBelow "/p/a.d.ts".toList "/p".toList :=
    ⟨["a.d.ts".toList], by decide +kernel, by decide +kernel⟩
  refine ⟨?_, ?_, ?_, ?_, below, ?_, ?_, ?_, ?_⟩
  all_goals decide +kernel

end Specifier
end LayerLint
