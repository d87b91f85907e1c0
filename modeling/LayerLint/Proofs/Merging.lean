import LayerLint.Proofs.FileNames
import LayerLint.Proofs.Tally

/-!
# Runs that are split and merged

Which files a run checks depends on the set of files that its roots stand for, and what is found in a
file does not depend on the other files. So a run over two lists of roots without common files adds up
the counters of the two runs and merges their violations in the order of the files, and runs that collect
the same files have the same result. The order of two violations is read off the names of their files,
which is why the names on the disk have to be file names.
-/

namespace LayerLint

section Merge

variable {α β : Type}

theorem merge_append_left {le : β → β → Bool} {block items others : List β}
    (before : ∀ first ∈ block, ∀ second ∈ others, le first second = true) :
    (block ++ items).merge others le = block ++ items.merge others le := by
  induction block with
  | nil => rfl
  | cons first block ih =>
      have later := ih fun item member => before item (List.mem_cons_of_mem first member)
      cases others with
      | nil => simp
      | cons second others =>
          have ordered := before first List.mem_cons_self second List.mem_cons_self
          rw [List.cons_append, List.cons_merge_cons, if_pos ordered, later, List.cons_append]

theorem merge_append_right {le : β → β → Bool} {block items others : List β}
    (behind : ∀ first ∈ items, ∀ second ∈ block, le first second = false) :
    items.merge (block ++ others) le = block ++ items.merge others le := by
  induction block with
  | nil => rfl
  | cons second block ih =>
      have later := ih fun first member item inside =>
        behind first member item (List.mem_cons_of_mem second inside)
      cases items with
      | nil => simp
      | cons first items =>
          have reversed : ¬ le first second = true :=
            Bool.eq_false_iff.mp (behind first List.mem_cons_self second List.mem_cons_self)
          rw [List.cons_append, List.cons_merge_cons, if_neg reversed, later, List.cons_append]

/-- Blocks of items are merged as wholes, if the items are in the order of their blocks. -/
theorem flatMap_merge {order : α → α → Bool} {le : β → β → Bool} {block : α → List β}
    (transitive : ∀ first second third, order first second = true → order second third = true →
      order first third = true)
    {keys others : List α}
    (keyed : ∀ key ∈ keys, ∀ other ∈ others, ∀ first ∈ block key, ∀ second ∈ block other,
      le first second = order key other)
    (ascending : keys.Pairwise fun first second => order first second = true)
    (othersAscending : others.Pairwise fun first second => order first second = true) :
    (keys.merge others order).flatMap block =
      (keys.flatMap block).merge (others.flatMap block) le := by
  induction keys generalizing others with
  | nil => simp
  | cons key keys inKeys =>
      induction others with
      | nil => simp
      | cons other others inOthers =>
          obtain ⟨afterKey, keysAscending⟩ := List.pairwise_cons.mp ascending
          obtain ⟨afterOther, restAscending⟩ := List.pairwise_cons.mp othersAscending
          rw [List.cons_merge_cons]
          by_cases first : order key other = true
          · rw [if_pos first, List.flatMap_cons, List.flatMap_cons, merge_append_left,
              inKeys _ keysAscending othersAscending]
            · exact fun later member => keyed later (List.mem_cons_of_mem key member)
            · -- What comes after the other key comes after this one as well.
              intro item inside second member
              obtain ⟨later, isKey, insideLater⟩ := List.mem_flatMap.mp member
              rw [keyed key List.mem_cons_self later isKey item inside second insideLater]
              rcases List.mem_cons.mp isKey with rfl | isKey
              · exact first
              · exact transitive key other later first (afterOther later isKey)
          · rw [if_neg first, List.flatMap_cons (x := other), List.flatMap_cons (x := other),
              merge_append_right, inOthers _ restAscending]
            · exact fun later isKey second member =>
                keyed later isKey second (List.mem_cons_of_mem other member)
            · intro item member second inside
              obtain ⟨later, isKey, insideLater⟩ := List.mem_flatMap.mp member
              rw [keyed later isKey other List.mem_cons_self item insideLater second inside,
                Bool.eq_false_iff]
              intro reversed
              rcases List.mem_cons.mp isKey with rfl | isKey
              · exact first reversed
              · exact first (transitive key later other (afterKey later isKey) reversed)

end Merge

/-- The order in which a run reports violations: that of the names on the paths of their files. -/
def Violation.inPathOrder (first second : Violation) : Bool :=
  Project.inOrder (DiskPath.ofString first.file).names (DiskPath.ofString second.file).names

theorem Violation.file_of_ofImport {policy : Policy} {own : String} {node : Tree} {edge : Edge}
    {violation : Violation} (found : ofImport policy own node edge = some violation) :
    violation.file = edge.file := by
  unfold ofImport at found
  split at found
  · cases found
    rfl
  · split at found
    · exact nomatch found
    · cases found
      rfl

theorem file_of_mem_checkFile {policy : Policy} {isMatch : Matcher} {file : String} {root : Tree}
    {violation : Violation}
    (member : violation ∈ (checkFile policy isMatch file root).value.1.violations) :
    violation.file = file := by
  obtain rfl | ⟨own, node, -, found⟩ := violation_of_mem_checkFile member
  · rfl
  · exact Violation.file_of_ofImport found

namespace Project

/-- The violations in one file, none if it has no syntax tree. -/
def violationsOf (disk : Disk) (policy : Policy) (path : DiskPath) : List Violation :=
  (parsed disk [path]).flatMap fun file => (walkOf policy file).violations

theorem file_of_mem_violationsOf {disk : Disk} {policy : Policy} {path : DiskPath}
    {violation : Violation} (member : violation ∈ violationsOf disk policy path) :
    violation.file = path.render := by
  obtain ⟨file, inside, found⟩ := List.mem_flatMap.mp member
  rw [← List.mem_singleton.mp (mem_of_mem_parsed inside)]
  exact file_of_mem_checkFile found

theorem violations_tallied (disk : Disk) (policy : Policy) (files : List DiskPath)
    (warnings : List String) :
    (tallied disk policy files { warnings }).violations =
      files.flatMap (violationsOf disk policy) := by
  change [] ++ (parsed disk files).flatMap (fun file => (walkOf policy file).violations) = _
  rw [List.nil_append]
  induction files with
  | nil => rfl
  | cons path files ih =>
      have split : parsed disk (path :: files) = parsed disk [path] ++ parsed disk files :=
        List.filterMap_append (l := [path])
      rw [split, List.flatMap_append, List.flatMap_cons, ih]
      rfl

/-- Each counter of a result is the sum of that counter of two others. -/
structure IsSum (both one two : LintResult) : Prop where
  scanned : both.filesScanned = one.filesScanned + two.filesScanned
  excluded : both.filesExcluded = one.filesExcluded + two.filesExcluded
  skipped : both.filesSkipped = one.filesSkipped + two.filesSkipped
  imports : both.importsChecked = one.importsChecked + two.importsChecked

theorem isSum_tallied {files first second : List DiskPath} (perm : files.Perm (first ++ second))
    (disk : Disk) (policy : Policy) (warnings : List String) :
    IsSum (tallied disk policy files { warnings }) (tallied disk policy first { warnings })
      (tallied disk policy second { warnings }) := by
  have split : (parsed disk files).Perm (parsed disk first ++ parsed disk second) :=
    (perm.filterMap _).trans (List.filterMap_append ▸ .refl _)
  refine ⟨?_, ?_, ?_, ?_⟩
  · simp [tallied, split.countP_eq]
  · simp [tallied, split.countP_eq]
  · simp [tallied, perm.countP_eq]
  · simp [tallied, (split.map _).sum_eq]

section Collected

variable {disk : Disk} {first second : List DiskPath} {firstFiles secondFiles : List DiskPath}

theorem ascending_of_collect (done : (collect disk first).value = .ok firstFiles) :
    firstFiles.Pairwise fun path other => inOrder path.names other.names = true :=
  (pairwise_collect done).imp fun before => (inOrder_iff _ _).mpr (le_of_lt before)

theorem nodup_of_collect (done : (collect disk first).value = .ok firstFiles) : firstFiles.Nodup := by
  refine (pairwise_collect done).imp fun {path other} before same => ?_
  rw [same] at before
  exact lt_irrefl _ before

/-- There is one way to arrange source files. -/
theorem eq_of_perm {files others : List DiskPath} (perm : files.Perm others)
    (areFiles : ∀ path ∈ files, IsSourceFile disk path)
    (ascending : files.Pairwise fun path other => inOrder path.names other.names = true)
    (othersAscending : others.Pairwise fun path other => inOrder path.names other.names = true) :
    files = others := by
  refine perm.eq_of_pairwise (fun path other member otherMember before after => ?_) ascending
    othersAscending
  have isFile := areFiles path member
  exact isFile.eq_of_names (areFiles other (perm.mem_iff.mpr otherMember))
    (le_antisymm ((inOrder_iff _ _).mp before) ((inOrder_iff _ _).mp after))

/-- The collected files are determined by the set of files. -/
theorem eq_of_collect (firstDone : (collect disk first).value = .ok firstFiles)
    (secondDone : (collect disk second).value = .ok secondFiles)
    (same : ∀ path, path ∈ firstFiles ↔ path ∈ secondFiles) : firstFiles = secondFiles :=
  eq_of_perm
    ((List.perm_ext_iff_of_nodup (nodup_of_collect firstDone) (nodup_of_collect secondDone)).mpr same)
    (fun _ member => isSourceFile_of_mem_collect firstDone member)
    (ascending_of_collect firstDone) (ascending_of_collect secondDone)

theorem collect_of_same_roots (done : (collect disk first).value = .ok firstFiles)
    (same : ∀ root, root ∈ second ↔ root ∈ first) :
    (collect disk second).value = .ok firstFiles := by
  have found := exists_collect_iff.mp ⟨firstFiles, done⟩
  obtain ⟨files, again⟩ : ∃ files, (collect disk second).value = .ok files :=
    exists_collect_iff.mpr fun root member => found root ((same root).mp member)
  have members : ∀ path, path ∈ files ↔ path ∈ firstFiles := fun path => by
    rw [mem_collect_iff again, mem_collect_iff done]
    simp only [same]
  rw [again, eq_of_collect again done members]

/-- Below two lists of roots without common files the files of both are found, in order. -/
theorem collect_append (firstDone : (collect disk first).value = .ok firstFiles)
    (secondDone : (collect disk second).value = .ok secondFiles)
    (disjoint : firstFiles.Disjoint secondFiles) :
    (collect disk (first ++ second)).value =
      .ok (firstFiles.merge secondFiles fun path other => inOrder path.names other.names) := by
  obtain ⟨files, done⟩ : ∃ files, (collect disk (first ++ second)).value = .ok files :=
    exists_collect_iff.mpr fun root member => (List.mem_append.mp member).elim
      (exists_collect_iff.mp ⟨firstFiles, firstDone⟩ root)
      (exists_collect_iff.mp ⟨secondFiles, secondDone⟩ root)
  have merged : (firstFiles.merge secondFiles fun path other =>
      inOrder path.names other.names).Perm (firstFiles ++ secondFiles) := List.merge_perm_append _
  have distinct : (firstFiles ++ secondFiles).Nodup :=
    (nodup_of_collect firstDone).append (nodup_of_collect secondDone) disjoint
  have members : ∀ path, path ∈ files ↔ path ∈ firstFiles ++ secondFiles := fun path => by
    simp only [mem_collect_iff done, List.mem_append, mem_collect_iff firstDone,
      mem_collect_iff secondDone, or_and_right, exists_or]
  have perm : files.Perm (firstFiles ++ secondFiles) :=
    (List.perm_ext_iff_of_nodup (nodup_of_collect done) distinct).mpr members
  rw [done]
  congr 1
  have areFiles : ∀ path ∈ files, IsSourceFile disk path := fun path member =>
    isSourceFile_of_mem_collect done member
  refine eq_of_perm (perm.trans merged.symm) areFiles (ascending_of_collect done) ?_
  apply List.pairwise_merge
  · exact fun _ _ _ => inOrder_trans
  · exact fun path other => inOrder_total path.names other.names
  · exact ascending_of_collect firstDone
  · exact ascending_of_collect secondDone

end Collected

section Runs

variable {disk : Disk} {root : DiskPath} {config : Option DiskPath} {debug : Option Int}
  {checked : Checked} {first second : List String} {firstFiles secondFiles : List DiskPath}

theorem value_lint_of_given (ready : (setUp disk root config debug).value = .ok (some checked))
    (given : first ≠ [])
    (collected : (collect disk (first.map DiskPath.ofString)).value = .ok firstFiles) :
    (lint disk root config (first.map DiskPath.ofString) debug).value =
      .ok (tallied disk checked.policy firstFiles { warnings := checked.warnings }) := by
  have nonempty : ¬ (first.map DiskPath.ofString).isEmpty = true := by simpa using given
  exact value_lint_of_collected disk root config _ debug ready (by rwa [if_neg nonempty])

/-- The violations of merged files are the merged violations of the files. -/
theorem merge_flatMap_violationsOf (proper : disk.IsProper) (policy : Policy)
    (firstDone : (collect disk (first.map DiskPath.ofString)).value = .ok firstFiles)
    (secondDone : (collect disk (second.map DiskPath.ofString)).value = .ok secondFiles) :
    (firstFiles.merge secondFiles fun path other => inOrder path.names other.names).flatMap
        (violationsOf disk policy) =
      (firstFiles.flatMap (violationsOf disk policy)).merge
        (secondFiles.flatMap (violationsOf disk policy)) Violation.inPathOrder := by
  apply flatMap_merge
  · exact fun _ _ _ => inOrder_trans
  · intro path member other otherMember violation found another otherFound
    rw [Violation.inPathOrder, file_of_mem_violationsOf found, file_of_mem_violationsOf otherFound,
      ofString_render_of_mem_collect proper firstDone member,
      ofString_render_of_mem_collect proper secondDone otherMember]
  · exact ascending_of_collect firstDone
  · exact ascending_of_collect secondDone

end Runs

end Project

/-- A run over two lists of roots without common files adds up the counters of the runs over the lists,
and its violations are those of the two runs, merged in the order of the paths of their files: those of
one file stay together and are the same in each run. Runs over lists of roots that stand for the same
files have the same result, as have those over the same roots in another order or number. -/
theorem Project.lint_append_merges_runs (disk : Disk) (root : DiskPath) (config : Option DiskPath)
    (debug : Option Int) (checked : Checked) (first second : List String)
    (firstFiles secondFiles : List DiskPath) (proper : disk.IsProper)
    (ready : (setUp disk root config debug).value = .ok (some checked))
    (firstGiven : first ≠ []) (secondGiven : second ≠ [])
    (firstCollected : (collect disk (first.map DiskPath.ofString)).value = .ok firstFiles)
    (secondCollected : (collect disk (second.map DiskPath.ofString)).value = .ok secondFiles) :
    ∃ one two,
      (lint disk root config (first.map DiskPath.ofString) debug).value = .ok one ∧
      (lint disk root config (second.map DiskPath.ofString) debug).value = .ok two ∧
      (firstFiles.Disjoint secondFiles → ∃ (both : LintResult) (files : List DiskPath),
        (lint disk root config ((first ++ second).map DiskPath.ofString) debug).value = .ok both ∧
        IsSum both one two ∧
        both.violations = one.violations.merge two.violations Violation.inPathOrder ∧
        (∀ path, path ∈ files ↔ path ∈ firstFiles ∨ path ∈ secondFiles) ∧
        (files.Pairwise fun path other => path.names < other.names) ∧
        one.violations = firstFiles.flatMap (violationsOf disk checked.policy) ∧
        two.violations = secondFiles.flatMap (violationsOf disk checked.policy) ∧
        both.violations = files.flatMap (violationsOf disk checked.policy)) ∧
      ((∀ path, path ∈ firstFiles ↔ path ∈ secondFiles) → one = two) ∧
      ∀ texts : List String, (∀ text, text ∈ texts ↔ text ∈ first) →
        (lint disk root config (texts.map DiskPath.ofString) debug).value = .ok one := by
  refine ⟨_, _, value_lint_of_given ready firstGiven firstCollected,
    value_lint_of_given ready secondGiven secondCollected, fun disjoint => ?_, fun same => ?_,
    fun texts same => ?_⟩
  · have given : first ++ second ≠ [] := List.append_ne_nil_of_left_ne_nil firstGiven second
    have collected := collect_append firstCollected secondCollected disjoint
    rw [← List.map_append] at collected
    refine ⟨_, _, value_lint_of_given ready given collected,
      isSum_tallied (List.merge_perm_append _) disk checked.policy checked.warnings, ?_,
      fun _ => List.mem_merge, pairwise_collect collected, violations_tallied _ _ _ _,
      violations_tallied _ _ _ _, violations_tallied _ _ _ _⟩
    rw [violations_tallied, violations_tallied, violations_tallied]
    exact merge_flatMap_violationsOf proper checked.policy firstCollected secondCollected
  · rw [eq_of_collect firstCollected secondCollected same]
  · have given : texts ≠ [] := by
      obtain ⟨text, member⟩ := List.exists_mem_of_ne_nil first firstGiven
      exact List.ne_nil_of_mem ((same text).mpr member)
    have roots : ∀ root, root ∈ texts.map DiskPath.ofString ↔ root ∈ first.map DiskPath.ofString := by
      simp only [List.mem_map, same, implies_true]
    exact value_lint_of_given ready given (collect_of_same_roots firstCollected roots)

/-- The directory `b` on its own, and a file before it together with a directory behind it. -/
theorem Project.lint_append_merges_three_files :
    let document := Text.Utf8.encode "base_dir: .\nlayers:\n  ui: [ui/*]\n"
    let disk : Disk :=
      { top := .directory [("p", .directory
          [("a", .directory [("z.ts", .file [] true)]),
            ("b", .directory [("m.ts", .file [] true)]),
            ("c", .directory [("k.ts", .file [] true), ("l.ts", .file [] false)]),
            ("fences.yml", .file document true)])]
        workingDir := ["p"] }
    let policy : Policy := { baseDir := "/p", layers := [⟨"ui", ["ui/*"]⟩] }
    let firstFiles := ["/p/b/m.ts"].map DiskPath.ofString
    let secondFiles := ["/p/a/z.ts", "/p/c/k.ts", "/p/c/l.ts"].map DiskPath.ofString
    disk.IsProper ∧
      (setUp disk (.ofString "/p") none none).value = .ok (some ⟨policy, []⟩) ∧
      (collect disk (["b"].map DiskPath.ofString)).value = .ok firstFiles ∧
      (collect disk (["a/z.ts", "c"].map DiskPath.ofString)).value = .ok secondFiles ∧
      ∃ one two both,
        (lint disk (.ofString "/p") none (["b"].map DiskPath.ofString) none).value = .ok one ∧
        (lint disk (.ofString "/p") none (["b", "b"].map DiskPath.ofString) none).value = .ok one ∧
        (lint disk (.ofString "/p") none (["a/z.ts", "c"].map DiskPath.ofString) none).value =
          .ok two ∧
        (lint disk (.ofString "/p") none (["b", "a/z.ts", "c"].map DiskPath.ofString) none).value =
          .ok both ∧
        IsSum both one two ∧
        one.violations.map (·.file) = ["/p/b/m.ts"] ∧
        two.violations.map (·.file) = ["/p/a/z.ts", "/p/c/k.ts"] ∧
        both.violations.map (·.file) = ["/p/a/z.ts", "/p/b/m.ts", "/p/c/k.ts"] := by
  intro document disk policy firstFiles secondFiles
  have proper : disk.IsProper := ⟨by decide +kernel, by decide +kernel⟩
  have ready : (setUp disk (.ofString "/p") none none).value = .ok (some ⟨policy, []⟩) :=
    setUp_eq_ok (by decide +kernel)
  have firstCollected : (collect disk (["b"].map DiskPath.ofString)).value = .ok firstFiles :=
    collect_eq_ok (by decide +kernel) (by decide +kernel)
  have secondCollected :
      (collect disk (["a/z.ts", "c"].map DiskPath.ofString)).value = .ok secondFiles :=
    collect_eq_ok (by decide +kernel) (by decide +kernel)
  have disjoint : ∀ path ∈ firstFiles, path ∉ secondFiles := by decide +kernel
  obtain ⟨one, two, first, second, merged, -, repeated⟩ :=
    lint_append_merges_runs disk (.ofString "/p") none none ⟨policy, []⟩ ["b"] ["a/z.ts", "c"]
      firstFiles secondFiles proper ready (by decide) (by decide) firstCollected secondCollected
  obtain ⟨both, files, together, isSum, violations, -, -, inFirst, inSecond, -⟩ :=
    merged fun path member => disjoint path member
  have firstNames : one.violations.map (·.file) = ["/p/b/m.ts"] := by
    rw [inFirst]
    decide +kernel
  have secondNames : two.violations.map (·.file) = ["/p/a/z.ts", "/p/c/k.ts"] := by
    rw [inSecond]
    decide +kernel
  refine ⟨proper, ready, firstCollected, secondCollected, one, two, both, first,
    repeated ["b", "b"] (by simp), second, together, isSum, firstNames, secondNames, ?_⟩
  have named : (one.violations.merge two.violations Violation.inPathOrder).map (·.file) =
      (one.violations.map (·.file)).merge (two.violations.map (·.file)) fun path other =>
        inOrder (DiskPath.ofString path).names (DiskPath.ofString other).names :=
    List.map_merge fun _ _ _ _ => rfl
  rw [violations, named, firstNames, secondNames, List.cons_merge_cons, if_neg (by decide +kernel),
    List.cons_merge_cons, if_pos (by decide +kernel), List.nil_merge]

end LayerLint
