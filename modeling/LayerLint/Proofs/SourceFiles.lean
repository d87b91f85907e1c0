import LayerLint.Proofs.Collection
import LayerLint.Proofs.PackageIdentity

/-!
# Which files are collected

A root of a search stands for itself if it is a file, and for the files below it if it is a directory. On
the way down neither links to directories nor directories for dependencies nor hidden directories are
entered; how the root itself and the directories above it are called does not matter. This file shows
that the collected files are exactly these, as long as every root can be made absolute and nothing below it
breaks off the search.
-/

namespace LayerLint

namespace Project

/-- A name that ends in a supported extension, in whatever case, and has something in front of it. -/
def HasSourceExtension (name : String) : Prop :=
  ∃ stem extension, stem ≠ [] ∧ name.toList = stem ++ extension ∧
    String.ofList (extension.map Char.toLower) ∈ Grammar.extensions.map Prod.fst

theorem ofList_mem_extensions_iff {extension : List Char} :
    String.ofList extension ∈ Grammar.extensions.map Prod.fst ↔
      extension ∈ Specifier.sourceExtensions := by
  have listed : ∀ entry ∈ Grammar.extensions, entry.1.toList ∈ Specifier.sourceExtensions := by
    decide +kernel
  have supported : ∀ other ∈ Specifier.sourceExtensions,
      String.ofList other ∈ Grammar.extensions.map Prod.fst := by
    decide +kernel
  constructor
  · intro member
    obtain ⟨entry, isEntry, same⟩ := List.mem_map.mp member
    have here := listed entry isEntry
    rwa [same, String.toList_ofList] at here
  · exact supported extension

theorem isSupported_of_toLower {extension : List Char}
    (source : extension.map Char.toLower ∈ Specifier.sourceExtensions) :
    Grammar.isSupported (String.ofList extension) = true := by
  have plain := Specifier.mem_extensionChars_of_mem (List.mem_cons_of_mem Specifier.declaration source)
  have lowered : Text.lower (String.ofList extension) = String.ofList (extension.map Char.toLower) := by
    rw [Text.lower, String.toList_ofList, Text.lowerChars, Text.lowerAfter_of_toLower plain]
  obtain ⟨entry, isEntry, same⟩ := List.mem_map.mp (ofList_mem_extensions_iff.mpr source)
  rw [Grammar.isSupported, Grammar.dialectOf?, List.lookup_isSome_iff, lowered]
  exact ⟨entry, isEntry, by rw [same, BEq.rfl]⟩

theorem isSource_iff {name : String} : isSource name = true ↔ HasSourceExtension name := by
  constructor
  · intro isSource
    unfold Project.isSource DiskPath.extensionOf at isSource
    split at isSource
    next first stem last rest cut =>
      refine ⟨first :: stem, '.' :: last :: rest, List.cons_ne_nil _ _,
        (Segments.eq_append_of_cutLast cut).1, ofList_mem_extensions_iff.mpr ?_⟩
      simpa using Specifier.toLower_mem_of_isSupported isSource
    next => exact absurd isSource (by decide +kernel)
  · rintro ⟨stem, extension, notEmpty, whole, supported⟩
    have source := ofList_mem_extensions_iff.mp supported
    obtain ⟨⟨letters, rfl, noDot⟩, -, -, long⟩ := Specifier.isExtension_of_toLower source
    obtain ⟨last, rest, rfl⟩ := List.exists_cons_of_length_pos (show 0 < letters.length by
      rw [List.length_cons] at long
      omega)
    obtain ⟨first, stem, rfl⟩ := List.exists_cons_of_ne_nil notEmpty
    have extension : DiskPath.extensionOf name = String.ofList ('.' :: last :: rest) := by
      rw [DiskPath.extensionOf, whole, Segments.cutLast_append _ noDot]
    rw [isSource, extension]
    exact isSupported_of_toLower source

/-- The source files that an absolute path stands for. -/
inductive StandsFor (disk : Disk) (place : DiskPath) : DiskPath → Prop
  | file (isFile : disk.isFile place = true) (named : HasSourceExtension place.name) :
      StandsFor disk place place
  | below {entries inner : List (String × DiskNode)} {directories : List String} {name : String}
      {node : DiskNode} (isDirectory : disk.target? place = some (.directory entries))
      (way : Enters disk place.names entries directories inner)
      (listable : Lists disk (place.names ++ directories)) (listed : (name, node) ∈ inner)
      (entered : ∀ directory ∈ directories,
        directory ≠ "node_modules" ∧ directory.toList.head? ≠ some '.')
      (isFile : disk.isFile (.absolute (place.names ++ directories ++ [name])) = true)
      (named : HasSourceExtension name) :
      StandsFor disk place (.absolute (place.names ++ directories ++ [name]))

/-- Nothing breaks off the search at an absolute path: the system says what the path leads to, the
directories below it are not nested too deep and have no path that is too long, and the system says what
every path with a supported extension in them leads to, also where files are passed over. -/
structure Searchable (disk : Disk) (place : DiskPath) : Prop where
  answered : ∀ fault, ¬ disk.Refuses place fault
  shallow : ∀ entries directories inner, disk.target? place = some (.directory entries) →
    Enters disk place.names entries directories inner →
    directories.length < disk.limits.levels .directory
  short : ∀ entries directories inner, disk.target? place = some (.directory entries) →
    Enters disk place.names entries directories inner →
    disk.reach (DiskPath.absolute (place.names ++ directories)).render
      (.absolute (place.names ++ directories)) ≠ .error .nameTooLong
  asked : ∀ entries directories inner name node, disk.target? place = some (.directory entries) →
    Enters disk place.names entries directories inner → Lists disk (place.names ++ directories) →
    (name, node) ∈ inner → HasSourceExtension name →
    ∀ fault, ¬ disk.Refuses (.absolute (place.names ++ directories ++ [name])) fault

section StandsFor

variable {disk : Disk} {place path : DiskPath} {found : List DiskPath}
  {entries : List (String × DiskNode)}

theorem isSkipped_eq_false_iff {name : String} :
    isSkipped name = false ↔ name ≠ "node_modules" ∧ name.toList.head? ≠ some '.' := by
  simp [isSkipped]

theorem name_absolute_concat (names : List String) (name : String) :
    (DiskPath.absolute (names ++ [name])).name = name := by
  simp [DiskPath.absolute, DiskPath.name]

/-- A way down that is longer than a number has a beginning of that length. -/
theorem Enters.exists_of_le {here directories : List String} {last : List (String × DiskNode)}
    (way : Enters disk here entries directories last) {count : Nat} (enough : count ≤ directories.length) :
    ∃ front inner, Enters disk here entries front inner ∧ front.length = count := by
  induction way generalizing count with
  | here => exact ⟨[], _, .here, (Nat.le_zero.mp enough).symm⟩
  | @down here directories entries inner last directory listable listed onward ih =>
      cases count with
      | zero => exact ⟨[], _, .here, rfl⟩
      | succ count =>
          obtain ⟨front, middle, way, long⟩ := ih (by simpa using enough)
          exact ⟨directory :: front, middle, .down listable listed way, by simp [long]⟩

theorem exists_sourcesBelow_iff (isDirectory : disk.target? place = some (.directory entries)) :
    (∃ found, sourcesBelow disk place = .ok found) ↔ Searchable disk place := by
  simp only [sourcesBelow_eq_gather isDirectory, exists_gather_iff, mem_metAt_iff]
  constructor
  · intro sound
    have only : ∀ others, disk.target? place = some (.directory others) → others = entries := by
      intro others same
      simpa [isDirectory, eq_comm] using same
    have shallow : ∀ directories inner, Enters disk place.names entries directories inner →
        directories.length < disk.limits.levels .directory := by
      intro directories inner way
      by_contra deep
      obtain ⟨front, middle, way, long⟩ := way.exists_of_le (not_lt.mp deep)
      obtain ⟨part, sources⟩ := sound _ (.tooDeep way long)
      exact nomatch sources
    refine ⟨Disk.not_refuses_of_target? isDirectory, ?_, ?_, ?_⟩
    · intro others directories inner same way
      obtain rfl := only others same
      exact shallow directories inner way
    · intro others directories inner same way long
      obtain rfl := only others same
      obtain ⟨part, sources⟩ := sound _ (.tooLong way (shallow directories inner way) long)
      exact nomatch sources
    · intro others directories inner name node same way listable listed named
      obtain rfl := only others same
      have met := sound _ (.entry way (shallow directories inner way) listable listed)
      refine exists_sources_entry_iff.mp met ?_
      rw [name_absolute_concat]
      exact isSource_iff.mpr named
  · intro searchable met encounter
    cases encounter with
    | tooDeep way deep => exact absurd deep (searchable.shallow _ _ _ isDirectory way).ne
    | tooLong way inReach long => exact absurd long (searchable.short _ _ _ isDirectory way)
    | entry way inReach listable listed =>
        refine exists_sources_entry_iff.mpr fun source => ?_
        rw [name_absolute_concat] at source
        exact searchable.asked _ _ _ _ _ isDirectory way listable listed (isSource_iff.mp source)

theorem mem_sourcesBelow_iff (isDirectory : disk.target? place = some (.directory entries))
    (done : sourcesBelow disk place = .ok found) : path ∈ found ↔ StandsFor disk place path := by
  have searchable := (exists_sourcesBelow_iff isDirectory).mp ⟨found, done⟩
  rw [sourcesBelow_eq_gather isDirectory] at done
  simp only [mem_gather_iff done, mem_metAt_iff]
  constructor
  · rintro ⟨met, encounter, part, sources, member⟩
    cases encounter with
    | tooDeep way deep => exact nomatch sources
    | tooLong way inReach long => exact nomatch sources
    | @entry directories inner name node way inReach listable listed =>
        obtain ⟨rfl, source, isFile, shown⟩ := (mem_sources_entry_iff sources).mp member
        rw [name_absolute_concat] at source
        have entered : ∀ directory ∈ directories, isSkipped directory = false := by simpa using shown
        exact .below isDirectory way listable listed
          (fun directory inside => isSkipped_eq_false_iff.mp (entered directory inside)) isFile
          (isSource_iff.mp source)
  · intro standsFor
    cases standsFor with
    | file isFile named =>
        obtain ⟨content, readable, isThere⟩ := Disk.isFile_eq_true_iff.mp isFile
        exact nomatch isDirectory.symm.trans isThere
    | @below others inner directories name node same way listable listed entered isFile named =>
        obtain rfl : others = entries := by simpa [isDirectory, eq_comm] using same
        have shown : (false || directories.any isSkipped) = false := by
          simpa using fun directory inside => isSkipped_eq_false_iff.mpr (entered directory inside)
        have inReach := searchable.shallow _ _ _ isDirectory way
        have encounter : Encounter disk false (disk.limits.levels .directory) place.names others
            (.entry (.absolute (place.names ++ directories ++ [name]))
              (false || directories.any isSkipped)) :=
          .entry way inReach listable listed
        obtain ⟨part, sources⟩ := exists_gather_iff.mp ⟨found, done⟩ _ encounter.mem_metAt
        refine ⟨_, encounter, part, sources, (mem_sources_entry_iff sources).mpr ⟨rfl, ?_, isFile, shown⟩⟩
        rw [name_absolute_concat]
        exact isSource_iff.mpr named

theorem searchable_of_not_directory (answered : ∀ fault, ¬ disk.Refuses place fault)
    (other : ∀ entries, disk.target? place ≠ some (.directory entries)) : Searchable disk place where
  answered := answered
  shallow entries _ _ isDirectory _ := absurd isDirectory (other entries)
  short entries _ _ isDirectory _ := absurd isDirectory (other entries)
  asked entries _ _ _ _ isDirectory _ _ _ _ := absurd isDirectory (other entries)

theorem exists_sourcesAt_iff :
    (∃ found, (sourcesAt disk place).value = .ok found) ↔ Searchable disk place := by
  obtain ⟨fault, refuses⟩ | isFile | ⟨entries, isDirectory⟩ | ⟨answered, isFile, isDirectory⟩ :=
    exists_kind disk place
  · refine iff_of_false ?_ fun searchable => searchable.answered fault refuses
    rintro ⟨found, done⟩
    exact nomatch done.symm.trans (value_sourcesAt_of_refuses refuses)
  · obtain ⟨content, readable, isThere⟩ := Disk.isFile_eq_true_iff.mp isFile
    refine iff_of_true ⟨_, value_sourcesAt_of_isFile isFile⟩
      (searchable_of_not_directory (Disk.not_refuses_of_target? isThere) ?_)
    intro entries isDirectory
    exact nomatch isDirectory.symm.trans isThere
  · rw [value_sourcesAt_of_isDirectory isDirectory]
    exact exists_sourcesBelow_iff isDirectory
  · refine iff_of_true ⟨_, value_sourcesAt_of_neither answered isFile isDirectory⟩
      (searchable_of_not_directory answered ?_)
    intro entries isThere
    exact absurd (Disk.isDirectory_eq_true_iff.mpr ⟨entries, isThere⟩) (by simp [isDirectory])

/-- The source files that an absolute path stands for are found. -/
theorem mem_sourcesAt_iff (done : (sourcesAt disk place).value = .ok found) :
    path ∈ found ↔ StandsFor disk place path := by
  obtain ⟨fault, refuses⟩ | isFile | ⟨entries, isDirectory⟩ | ⟨answered, isFile, isDirectory⟩ :=
    exists_kind disk place
  · exact nomatch done.symm.trans (value_sourcesAt_of_refuses refuses)
  · rw [value_sourcesAt_of_isFile isFile] at done
    cases done
    constructor
    · intro member
      split_ifs at member with source
      · obtain rfl := List.mem_singleton.mp member
        exact .file isFile (isSource_iff.mp source)
      · exact absurd member List.not_mem_nil
    · intro standsFor
      cases standsFor with
      | file isFile named =>
          rw [if_pos (isSource_iff.mpr named)]
          exact List.mem_singleton_self place
      | below isDirectory =>
          obtain ⟨content, readable, isThere⟩ := Disk.isFile_eq_true_iff.mp isFile
          exact nomatch isDirectory.symm.trans isThere
  · rw [value_sourcesAt_of_isDirectory isDirectory] at done
    exact mem_sourcesBelow_iff isDirectory done
  · rw [value_sourcesAt_of_neither answered isFile isDirectory] at done
    cases done
    refine iff_of_false List.not_mem_nil fun standsFor => ?_
    cases standsFor with
    | file isThere => exact nomatch isFile.symm.trans isThere
    | below isThere =>
        exact absurd (Disk.isDirectory_eq_true_iff.mpr ⟨_, isThere⟩) (by simp [isDirectory])

end StandsFor

/-- A list of files is collected exactly if no root holds the character that ends paths, leads into links
without an end or cannot be searched. The files come in strictly ascending order of their names, segment by
segment, and they are the source files that the roots stand for. -/
theorem collect_finds_source_files (disk : Disk) (roots : List DiskPath) :
    ((∃ files, (collect disk roots).value = .ok files) ↔
      ∀ root ∈ roots, root.hasNull = false ∧
        ∃ place, disk.settle root = .ok place ∧ disk.lookup place ≠ .error .tooManyLinks ∧
          Searchable disk place) ∧
    ∀ files, (collect disk roots).value = .ok files →
      files.Pairwise (fun first second => first.names < second.names) ∧
        ∀ path, path ∈ files ↔
          ∃ root ∈ roots, ∃ place, disk.resolve root = .ok place ∧ StandsFor disk place path := by
  constructor
  · rw [exists_collect_iff]
    refine forall₂_congr fun root _ => ?_
    simp only [value_sourcesOf_eq_ok_iff]
    rw [exists_comm]
    simp only [exists_and_left, exists_sourcesAt_iff, Disk.resolve_eq_ok_iff, and_assoc]
  · intro files done
    refine ⟨pairwise_collect done, fun path => ?_⟩
    rw [mem_collect_iff done]
    refine exists_congr fun root => and_congr_right fun given => ?_
    constructor
    · rintro ⟨found, sources, member⟩
      obtain ⟨place, resolved, sources⟩ := value_sourcesOf_eq_ok_iff.mp sources
      exact ⟨place, resolved, (mem_sourcesAt_iff sources).mp member⟩
    · rintro ⟨place, resolved, standsFor⟩
      obtain ⟨found, sources⟩ := exists_collect_iff.mp ⟨files, done⟩ root given
      obtain ⟨other, same, sourcesAt⟩ := value_sourcesOf_eq_ok_iff.mp sources
      cases resolved.symm.trans same
      exact ⟨found, sources, (mem_sourcesAt_iff sourcesAt).mpr standsFor⟩

/-- A hidden directory is passed over below one root and searched as a root of its own; another root does
not exist. -/
theorem collect_finds_source_files_in_hidden_root :
    let disk : Disk :=
      { top := .directory [("p", .directory
          [(".h", .directory [("x.ts", .file [] true)]), ("B.TSX", .file [] false),
            ("a.ts", .file [] true), ("d", .link ".h"), ("e.ts", .directory []),
            ("l.ts", .link "a.ts"), ("node_modules", .directory [("m.ts", .file [] true)]),
            ("s", .directory [("y.d.mjs", .file [] true), ("z.md", .file [] true)])])]
        workingDir := ["p"] }
    let roots := [".h", "/p", "gone", "a.ts"].map DiskPath.ofString
    let files := ["/p/.h/x.ts", "/p/B.TSX", "/p/a.ts", "/p/l.ts", "/p/s/y.d.mjs"].map DiskPath.ofString
    (collect disk roots).value = .ok files ∧
      files.Pairwise (fun first second => first.names < second.names) ∧
      (∀ path, path ∈ files ↔
        ∃ root ∈ roots, ∃ place, disk.resolve root = .ok place ∧ StandsFor disk place path) := by
  intro disk roots files
  have done : (collect disk roots).value = .ok files :=
    collect_eq_ok (by decide +kernel) (by decide +kernel)
  exact ⟨done, (collect_finds_source_files disk roots).2 files done⟩

/-- A root that is a link to itself leaves no list, not even of the files of the other roots. -/
theorem collect_breaks_off_at_link_loop :
    let disk : Disk :=
      { top := .directory [("p", .directory [("a.ts", .file [] true), ("loop", .link "loop")])]
        workingDir := ["p"] }
    let roots := ["a.ts", "loop"].map DiskPath.ofString
    disk.has (.ofString "/p/loop") = false ∧ ¬ ∃ files, (collect disk roots).value = .ok files := by
  intro disk roots
  refine ⟨by decide +kernel, ?_⟩
  rintro ⟨files, done⟩
  have broken : (collect disk roots).value.toOption = none := by decide +kernel
  rw [done] at broken
  exact nomatch broken

end Project
end LayerLint
