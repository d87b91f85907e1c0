import Mathlib
import LayerLint.Proofs.Collection
import LayerLint.Proofs.Traversal

/-!
# The tally of a run

A run over the files of a project adds up what the walkers of the files leave behind. Whether a file is
excluded is not reported by its walker and is read off the state and the layer it ends with; this file
shows that this reading is right, and that the counters and the violations of a run are those of the
collected files, in their order.
-/

namespace LayerLint

instance (policy : Policy) (isMatch : Matcher) (package : String) :
    Decidable (policy.Excludes isMatch package) :=
  decidable_of_iff _ (policy.value_isExcluded_iff isMatch package)

namespace Project

/-- The files that have a syntax tree, with their trees. -/
def parsed (disk : Disk) (files : List DiskPath) : List (DiskPath × Tree) :=
  files.filterMap fun path => ((parseFile disk path).toOption.join).map fun tree => (path, tree)

theorem mem_of_mem_parsed {disk : Disk} {files : List DiskPath} {file : DiskPath × Tree}
    (member : file ∈ parsed disk files) : file.1 ∈ files := by
  obtain ⟨path, listed, parse⟩ := List.mem_filterMap.mp member
  obtain ⟨tree, -, rfl⟩ := Option.map_eq_some_iff.mp parse
  exact listed

/-- Whether an attempt to parse a file ends without a syntax tree. -/
def isUnparsed (disk : Disk) (path : DiskPath) : Bool :=
  match parseFile disk path with
  | .ok tree? => tree?.isNone
  | .error _ => false

/-- The walker of a parsed file after its run. -/
def walkOf (policy : Policy) (file : DiskPath × Tree) : Walker :=
  (checkFile policy Glob.isMatch file.1.render file.2).value.1

/-- Whether the package of a file is excluded. -/
def isExcluded (policy : Policy) (file : DiskPath × Tree) : Bool :=
  decide (policy.Excludes Glob.isMatch (policy.packageOf file.1.render))

/-- A walker ends in the last state without a layer exactly for the excluded files: a file without a
layer that is not excluded ends in the aborted state. -/
theorem done_without_layer_eq (policy : Policy) (file : DiskPath × Tree) :
    ((walkOf policy file).state == .done && (walkOf policy file).layer.isNone) =
      isExcluded policy file := by
  obtain ⟨excluded, ended⟩ | ⟨kept, -, ended⟩ | ⟨own, kept, -, ended⟩ :=
    checkFile_cases policy Glob.isMatch file.1.render file.2
  · rw [walkOf, ended, isExcluded, decide_eq_true excluded]
    rfl
  · rw [walkOf, ended, isExcluded, decide_eq_false kept]
    rfl
  · rw [walkOf, ended, isExcluded, decide_eq_false kept]
    rfl

/-- A result to which the outcome of some files is added. -/
def tallied (disk : Disk) (policy : Policy) (files : List DiskPath) (result : LintResult) :
    LintResult :=
  { result with
    violations := result.violations ++
      (parsed disk files).flatMap fun file => (walkOf policy file).violations
    filesScanned := result.filesScanned +
      (parsed disk files).countP fun file => !isExcluded policy file
    filesExcluded := result.filesExcluded +
      (parsed disk files).countP (isExcluded policy)
    filesSkipped := result.filesSkipped + files.countP (isUnparsed disk)
    importsChecked := result.importsChecked +
      ((parsed disk files).map fun file => ((walkOf policy file).edges.length : Int)).sum }

section Files

variable {disk : Disk} {path : DiskPath} {files : List DiskPath}

theorem parsed_cons_of_tree {tree : Tree} (parse : parseFile disk path = .ok (some tree)) :
    parsed disk (path :: files) = (path, tree) :: parsed disk files := by
  simp [parsed, parse, Except.toOption]

theorem parsed_cons_of_no_tree (parse : parseFile disk path = .ok none) :
    parsed disk (path :: files) = parsed disk files := by
  simp [parsed, parse, Except.toOption]

theorem isUnparsed_eq {tree? : Option Tree} (parse : parseFile disk path = .ok tree?) :
    isUnparsed disk path = tree?.isNone := by
  unfold isUnparsed
  rw [parse]

theorem length_parsed_add_unparsed (parse : ∀ path ∈ files, ∃ tree?, parseFile disk path = .ok tree?) :
    (parsed disk files).length + files.countP (isUnparsed disk) = files.length := by
  induction files with
  | nil => rfl
  | cons path files ih =>
      have rest := ih fun other member => parse other (List.mem_cons_of_mem path member)
      obtain ⟨tree? | tree, here⟩ := parse path List.mem_cons_self
      · rw [parsed_cons_of_no_tree here, List.countP_cons_of_pos (by simp [isUnparsed_eq here]),
          List.length_cons, ← rest, Nat.add_assoc]
      · rw [parsed_cons_of_tree here, List.countP_cons_of_neg (by simp [isUnparsed_eq here]),
          List.length_cons, List.length_cons, ← rest, Nat.add_right_comm]

theorem value_lintFile (policy : Policy) (result : LintResult)
    (parse : ∃ tree?, parseFile disk path = .ok tree?) :
    (lintFile disk policy result path).value = tallied disk policy [path] result := by
  obtain ⟨tree? | tree, here⟩ := parse
  · have empty : parsed disk [path] = [] := parsed_cons_of_no_tree here
    have skipped : [path].countP (isUnparsed disk) = 1 :=
      List.countP_cons_of_pos (by simp [isUnparsed_eq here])
    have walked : (lintFile disk policy result path).value =
        { result with filesSkipped := result.filesSkipped + 1 } := by
      unfold lintFile
      rw [here]
      rfl
    rw [walked, tallied, empty, skipped]
    simp
  · have one : parsed disk [path] = [(path, tree)] := parsed_cons_of_tree here
    have skipped : [path].countP (isUnparsed disk) = 0 :=
      List.countP_cons_of_neg (by simp [isUnparsed_eq here])
    have walked : (lintFile disk policy result path).value =
        addWalk result (walkOf policy (path, tree)) := by
      unfold lintFile
      rw [here]
      rfl
    rw [walked, addWalk, done_without_layer_eq, tallied, one, skipped]
    simp only [List.flatMap_cons, List.flatMap_nil, List.append_nil, List.countP_cons, List.countP_nil,
      List.map_cons, List.map_nil, List.sum_cons, List.sum_nil]
    cases isExcluded policy (path, tree) <;> simp

theorem tallied_append (policy : Policy) (result : LintResult) (first second : List DiskPath) :
    tallied disk policy (first ++ second) result =
      tallied disk policy second (tallied disk policy first result) := by
  have split : parsed disk (first ++ second) = parsed disk first ++ parsed disk second :=
    List.filterMap_append
  simp [tallied, split, add_assoc]

theorem value_lintFiles (policy : Policy) (result : LintResult)
    (parse : ∀ path ∈ files, ∃ tree?, parseFile disk path = .ok tree?) :
    (lintFiles disk policy result files).value = tallied disk policy files result := by
  induction files generalizing result with
  | nil => simp [lintFiles, tallied, parsed]
  | cons path files ih =>
      have here := parse path List.mem_cons_self
      have rest := ih (tallied disk policy [path] result) fun other member =>
        parse other (List.mem_cons_of_mem path member)
      rw [lintFiles, Traced.value_bind, value_lintFile policy result here, rest, ← tallied_append,
        List.singleton_append]

end Files

theorem value_lint_of_collected (disk : Disk) (root : DiskPath) (config : Option DiskPath)
    (paths : List DiskPath) (debug : Option Int) {checked : Checked} {files : List DiskPath}
    (ready : (setUp disk root config debug).value = .ok (some checked))
    (collected : (collect disk
      (if paths.isEmpty then [.ofString checked.policy.baseDir] else paths)).value = .ok files) :
    (lint disk root config paths debug).value =
      .ok (tallied disk checked.policy files { warnings := checked.warnings }) := by
  have parse : ∀ path ∈ files, ∃ tree?, parseFile disk path = .ok tree? := fun path member =>
    (isSourceFile_of_mem_collect collected member).parseFile
  rw [lint, Traced.value_bind, ready]
  simp only [Traced.value_bind, collected, Traced.value_pure, value_lintFiles _ _ parse]

end Project

/-- A run with a valid policy whose files can be collected ends with a result. Each file is counted once,
as scanned, excluded or skipped: the skipped files are those without a syntax tree, and the excluded ones
are those with a tree whose package is excluded. The imports and violations are those of the files with a
tree, in ascending order of the names of the files. -/
theorem Project.lint_tallies_collected_files (disk : Disk) (root : DiskPath)
    (config : Option DiskPath) (paths : List DiskPath) (debug : Option Int) (checked : Checked)
    (files : List DiskPath)
    (ready : (setUp disk root config debug).value = .ok (some checked))
    (collected : (collect disk
      (if paths.isEmpty then [.ofString checked.policy.baseDir] else paths)).value = .ok files) :
    ∃ result, (lint disk root config paths debug).value = .ok result ∧
      result.filesScanned + result.filesExcluded + result.filesSkipped = files.length ∧
      result.filesSkipped = files.countP (isUnparsed disk) ∧
      result.filesExcluded = (parsed disk files).countP (isExcluded checked.policy) ∧
      result.importsChecked =
        ((parsed disk files).map fun file =>
          ((checkFile checked.policy Glob.isMatch file.1.render file.2).value.1.edges.length :
            Int)).sum ∧
      result.violations =
        ((parsed disk files).flatMap fun file =>
          (checkFile checked.policy Glob.isMatch file.1.render file.2).value.1.violations) ∧
      files.Pairwise fun first second => first.names < second.names := by
  have counted := length_parsed_add_unparsed fun path member =>
    (isSourceFile_of_mem_collect collected member).parseFile
  have halves : (parsed disk files).length = (parsed disk files).countP (isExcluded checked.policy) +
      (parsed disk files).countP fun file => !isExcluded checked.policy file := by
    simp [List.length_eq_countP_add_countP (isExcluded checked.policy)]
  refine ⟨_, value_lint_of_collected disk root config paths debug ready collected, ?_, ?_, ?_, ?_, ?_,
    pairwise_collect collected⟩
  · simp only [tallied, zero_add]
    omega
  · simp [tallied]
  · simp [tallied]
  · simp [tallied, walkOf]
  · simp [tallied, walkOf]

/-- A project with a file that cannot be read, an excluded one, one with an import that has no layer, and
one that has no layer itself. Its base directory is that of its policy file. -/
theorem Project.lint_tallies_four_files :
    let document := Text.Utf8.encode "base_dir: .\nlayers:\n  ui: [ui/*]\nexcluded: [gen/*]\n"
    let disk : Disk :=
      { top := .directory [("p", .directory
          [("db", .directory [("b.js", .file [] false)]),
            ("fences.yml", .file document true),
            ("gen", .directory [("g.ts", .file [] true)]),
            ("ui", .directory [("a.ts", .file (Text.Utf8.encode "import '../db'") true)]),
            ("x.ts", .file [] true)])]
        workingDir := [] }
    let policy : Policy :=
      { baseDir := "/p", layers := [⟨"ui", ["ui/*"]⟩], excluded := ["gen/*"] }
    let files := ["/p/db/b.js", "/p/gen/g.ts", "/p/ui/a.ts", "/p/x.ts"].map DiskPath.ofString
    (setUp disk (.ofString "/p") none none).value = .ok (some ⟨policy, []⟩) ∧
      (collect disk [.ofString policy.baseDir]).value = .ok files ∧
      ∃ result, (lint disk (.ofString "/p") none [] none).value = .ok result ∧
        result.filesScanned + result.filesExcluded + result.filesSkipped = 4 ∧
        result.filesSkipped = 1 ∧ result.filesExcluded = 1 ∧ result.importsChecked = 1 ∧
        result.violations.map (fun violation => (violation.file, violation.rule)) =
          [("/p/ui/a.ts", "unmatched_import"), ("/p/x.ts", "unclassified_file")] := by
  intro document disk policy files
  have ready : (setUp disk (.ofString "/p") none none).value = .ok (some ⟨policy, []⟩) :=
    setUp_eq_ok (by decide +kernel)
  have collected : (collect disk [.ofString policy.baseDir]).value = .ok files :=
    collect_eq_ok (by decide +kernel) (by decide +kernel)
  obtain ⟨result, ended, total, skipped, excluded, imports, violations, -⟩ :=
    lint_tallies_collected_files disk (.ofString "/p") none [] none ⟨policy, []⟩ files ready collected
  refine ⟨ready, collected, result, ended, total, skipped.trans ?_, excluded.trans ?_,
    imports.trans ?_, ?_⟩
  · decide +kernel
  · decide +kernel
  · decide +kernel
  · rw [violations]
    decide +kernel

end LayerLint
