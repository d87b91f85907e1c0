import LayerLint.Proofs.CanonicalPath
import LayerLint.Proofs.PolicyReading

/-!
# The scope of a run without paths

A run that is given no paths searches the base directory of its policy. The policy keeps that directory as
a text in normal form, from which the path to search is read back. Normal forms have no backslashes, while
names of directories may: this file shows that the path is read back as it was exactly if none of its names
has one.
-/

namespace LayerLint

namespace DiskPath

open NormalPath Segments

theorem names_join {directory path : DiskPath} {name : String} (member : name ∈ (directory.join path).names) :
    name ∈ directory.names ∨ name ∈ path.names := by
  unfold join at member
  split at member
  · exact .inr member
  · exact List.mem_append.mp member

theorem no_backslash_ofString {text : String} (normal : '\\' ∉ text.toList) :
    ∀ name ∈ (ofString text).names, '\\' ∉ name.toList := by
  intro name member
  rw [ofString, namesOf, List.mem_filter] at member
  obtain ⟨segment, isSegment, rfl⟩ := List.mem_map.mp member.1
  rw [String.toList_ofList]
  exact fun inside => normal ((of_mem_splitOn isSegment).2 _ inside)

theorem isName_of_isFileName {name : String} (proper : IsFileName name) (plain : '\\' ∉ name.toList) :
    IsName name.toList where
  ne_nil := fun empty => proper.nonempty (String.toList_eq_nil_iff.mp empty)
  ne_dot := fun dot => proper.notDot (String.toList_inj.mp dot)
  noSlash := proper.noSlash
  noBackslash := plain
  ne_parent := fun dots => proper.notParent (String.toList_inj.mp dots)

/-- A path of file names is read back from the normal form of its text exactly if it has no backslash. -/
theorem ofString_normalize_render_iff {path : DiskPath} (isAbsolute : path.root = .single)
    (proper : ∀ name ∈ path.names, IsFileName name) :
    ofString (normalize path.render) = path ↔ ∀ name ∈ path.names, '\\' ∉ name.toList := by
  constructor
  · intro same
    -- A path that is read from a normal form has no backslash in its names.
    have normal : '\\' ∉ (normalize path.render).toList := by
      rw [toList_normalize]
      exact (isNormal_normalizeChars _).noBackslash
    have plain := no_backslash_ofString normal
    rwa [same] at plain
  · intro plain
    have segments : ∀ segment ∈ path.names.map String.toList, IsName segment := by
      intro segment member
      obtain ⟨name, isName, rfl⟩ := List.mem_map.mp member
      exact isName_of_isFileName (proper name isName) (plain name isName)
    have unchanged : normalize path.render = path.render := by
      rw [← absolute_names isAbsolute, normalize_eq_iff, toList_render_absolute]
      exact normalizeChars_absolute segments
    rw [unchanged, ← absolute_names isAbsolute]
    exact ofString_render_absolute proper

end DiskPath

namespace Project

/-- The base directory of a run: its policy file names it, itself or through the compiler options beside
it, and it is made absolute as seen from there. -/
inductive LocatesBase (disk : Disk) (root : DiskPath) (config : Option DiskPath) : DiskPath → Prop
  | intro {path directory base : DiskPath} {document : Policy.Document} {codes : List Nat}
      (selects : Selects disk root config path) (states : States disk path directory document)
      (named : Policy.baseDirCodes? disk directory document = some codes)
      (resolved : DirectoryName.resolve disk directory codes = .ok base) :
      LocatesBase disk root config base

section BaseDirectory

variable {disk : Disk} {root path base : DiskPath} {config : Option DiskPath} {debug : Option Int}

/-- The base directory of a run is computed part by part, since documents cannot be compared. -/
theorem locatesBase_of_computed (directory : DiskPath) (codes : List Nat)
    (selects : Selects disk root config path)
    (place : (disk.resolve path.parent).toOption = some directory)
    (stated : ((Policy.document? disk path).bind fun value =>
      (Policy.Document.ofValue value).toOption.map (Policy.baseDirCodes? disk directory)) =
        some (some codes))
    (resolved : (DirectoryName.resolve disk directory codes).toOption = some base) :
    LocatesBase disk root config base := by
  obtain ⟨value, parsed, stated⟩ := Option.bind_eq_some_iff.mp stated
  obtain ⟨document, shaped, named⟩ := Option.map_eq_some_iff.mp stated
  exact .intro selects ⟨eq_ok_of_toOption place, value, parsed, eq_ok_of_toOption shaped⟩ named
    (eq_ok_of_toOption resolved)

/-- The policy of a run keeps its base directory as a text in normal form. -/
theorem LocatesBase.baseDir_eq (located : LocatesBase disk root config base) {checked : Checked}
    (ready : (setUp disk root config debug).value = .ok (some checked)) :
    checked.policy.baseDir = NormalPath.normalize base.render := by
  obtain ⟨selects, states, named, resolved⟩ := located
  have loaded := value_load_eq_ok (value_loadDraft_eq_ok_iff.mpr ⟨_, _, _, _, states, named, resolved, rfl⟩)
  rw [value_setUp_of_selects selects, value_check_of_load loaded] at ready
  dsimp only at ready
  split at ready
  next => rw [← Option.some.inj (Except.ok.inj ready), Policy.Draft.toPolicy, Policy.Draft.ofDocument]
  next => cases ready

/-- A run without paths is the run that is given the base directory of its policy. -/
theorem lint_nil_eq_lint_singleton {scope : DiskPath}
    (read : ∀ checked, (setUp disk root config debug).value = .ok (some checked) →
      DiskPath.ofString checked.policy.baseDir = scope) :
    lint disk root config [] debug = lint disk root config [scope] debug := by
  unfold lint
  apply Traced.bind_congr
  cases ready : (setUp disk root config debug).value with
  | error fault => rfl
  | ok checked? =>
      cases checked? with
      | none => rfl
      | some checked =>
          rw [← read checked ready]
          rfl

end BaseDirectory

section Texts

variable {disk : Disk} {path base : DiskPath} {project : String} {config : Option String}

/-- The path of a policy file has only names that are seen in the texts that lead to it. -/
theorem Selects.names (selects : Selects disk (.ofString project) (config.map .ofString) path) :
    ∀ name ∈ path.names, name = ".." ∨ IsFileName name := by
  intro name member
  cases config with
  | none =>
      have inDirectory (fileName : String)
          (member : name ∈ (DiskPath.join (.ofString project) (.ofString fileName)).names) :
          name = ".." ∨ IsFileName name :=
        (DiskPath.names_join member).elim DiskPath.isFileName_of_mem_namesOf
          DiskPath.isFileName_of_mem_namesOf
      obtain ⟨rfl, -⟩ | ⟨-, rfl, -⟩ := selects
      · exact inDirectory "fences.yml" member
      · exact inDirectory ".fences.yml" member
  | some text =>
      obtain ⟨rfl, -⟩ := selects
      exact DiskPath.isFileName_of_mem_namesOf member

theorem LocatesBase.isFileName (proper : disk.IsProper)
    (located : LocatesBase disk (.ofString project) (config.map .ofString) base) :
    base.root = .single ∧ ∀ name ∈ base.names, IsFileName name := by
  cases located with
  | @intro path directory _ document codes selects states named resolved =>
      refine ⟨Disk.root_of_resolve (Policy.resolve_of_directoryName_resolve resolved), ?_⟩
      have directoryNames : ∀ name ∈ directory.names, IsFileName name := by
        refine Disk.isFileName_of_resolve_names proper ?_ states.place
        exact fun name member => selects.names name (List.mem_of_mem_dropLast member)
      refine Disk.isFileName_of_resolve_names proper ?_ (Policy.resolve_of_directoryName_resolve resolved)
      intro name member
      rcases DiskPath.names_join member with inside | inside
      · exact .inr (directoryNames name inside)
      · exact DiskPath.isFileName_of_mem_namesOf inside

end Texts

/-- A run without paths has the outcome and the record of a run that is given the base directory, if no
name on the path of that directory has a backslash. In every case the run searches what the normal form of
the path leads to, which is the base directory itself exactly if there is no backslash. -/
theorem lint_defaults_to_base_directory (disk : Disk) (project : String) (config : Option String)
    (debug : Option Int) (base : DiskPath) (proper : disk.IsProper)
    (located : LocatesBase disk (.ofString project) (config.map .ofString) base) :
    let run (paths : List DiskPath) :=
      lint disk (.ofString project) (config.map .ofString) paths debug
    let scope := DiskPath.ofString (NormalPath.normalize base.render)
    ((∀ name ∈ base.names, '\\' ∉ name.toList) → run [] = run [base]) ∧
    run [] = run [scope] ∧
    (scope = base ↔ ∀ name ∈ base.names, '\\' ∉ name.toList) := by
  intro run scope
  have searches : run [] = run [scope] :=
    lint_nil_eq_lint_singleton fun checked ready => by rw [located.baseDir_eq ready]
  have isBase : scope = base ↔ ∀ name ∈ base.names, '\\' ∉ name.toList := by
    obtain ⟨isAbsolute, names⟩ := located.isFileName proper
    exact DiskPath.ofString_normalize_render_iff isAbsolute names
  refine ⟨?_, searches, isBase⟩
  intro plain
  rw [searches, isBase.mpr plain]

/-- The compiler options lead through a link and back from the directory behind it. -/
theorem lint_defaults_to_base_directory_behind_link :
    let document := Text.Utf8.encode "layers:\n  a: [x]\n"
    let options := Text.Utf8.encode "\x7b\"compilerOptions\":\x7b\"baseUrl\":\"ln/../lib\"\x7d\x7d"
    let disk : Disk :=
      { top := .directory [("p", .directory
          [("deep", .directory [("d", .directory []), ("lib", .directory [("x.ts", .file [] true)])]),
            ("fences.yml", .file document true), ("ln", .link "deep/d"),
            ("tsconfig.json", .file options true)])]
        workingDir := ["p"] }
    let base := DiskPath.ofString "/p/deep/lib"
    disk.IsProper ∧ LocatesBase disk (.ofString ".") none base ∧ disk.isDirectory base = true ∧
      (∀ name ∈ base.names, '\\' ∉ name.toList) ∧
      lint disk (.ofString ".") none [] none = lint disk (.ofString ".") none [base] none ∧
      ((lint disk (.ofString ".") none [] none).value.toOption.map LintResult.filesScanned) =
        some 1 := by
  intro document options disk base
  have proper : disk.IsProper := ⟨by decide +kernel, by decide +kernel⟩
  have selected : Selects disk (.ofString ".") none (.ofString "fences.yml") :=
    .inl ⟨by decide +kernel, by decide +kernel⟩
  have located : LocatesBase disk (.ofString ".") none base :=
    locatesBase_of_computed (.ofString "/p") ("ln/../lib".toList.map Char.toNat) selected
      (by decide +kernel) (by decide +kernel) (by decide +kernel)
  have plain : ∀ name ∈ base.names, '\\' ∉ name.toList := by decide +kernel
  have same : lint disk (.ofString ".") none [] none = lint disk (.ofString ".") none [base] none :=
    (lint_defaults_to_base_directory disk "." none none base proper located).1 plain
  exact ⟨proper, located, by decide +kernel, plain, same, by decide +kernel⟩

/-- Nothing is searched in place of a base directory whose name has a backslash. -/
theorem lint_misses_base_directory_with_backslash :
    let document := Text.Utf8.encode "base_dir: a\\b\n"
    let disk : Disk :=
      { top := .directory [("p", .directory
          [("a\\b", .directory [("x.ts", .file [] true)]), ("fences.yml", .file document true)])]
        workingDir := ["p"] }
    let base := DiskPath.absolute ["p", "a\\b"]
    LocatesBase disk (.ofString ".") none base ∧ disk.isDirectory base = true ∧
      ((lint disk (.ofString ".") none [] none).value.toOption.map LintResult.filesScanned) = some 0 ∧
      ((lint disk (.ofString ".") none [base] none).value.toOption.map LintResult.filesScanned) = some 1 ∧
      lint disk (.ofString ".") none [] none ≠ lint disk (.ofString ".") none [base] none := by
  intro document disk base
  have selected : Selects disk (.ofString ".") none (.ofString "fences.yml") :=
    .inl ⟨by decide +kernel, by decide +kernel⟩
  have located : LocatesBase disk (.ofString ".") none base :=
    locatesBase_of_computed (.ofString "/p") ("a\\b".toList.map Char.toNat) selected
      (by decide +kernel) (by decide +kernel) (by decide +kernel)
  have missed : ((lint disk (.ofString ".") none [] none).value.toOption.map LintResult.filesScanned) =
      some 0 := by
    decide +kernel
  have found : ((lint disk (.ofString ".") none [base] none).value.toOption.map
      LintResult.filesScanned) = some 1 := by
    decide +kernel
  refine ⟨located, by decide +kernel, missed, found, ?_⟩
  intro same
  rw [same, found] at missed
  exact absurd missed (by decide)

end Project
end LayerLint
