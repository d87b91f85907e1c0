import LayerLint.Project.Lint
import LayerLint.Proofs.Traversal

/-!
# The trace of a run

Lowering the debug number hides entries of the log and does nothing else. To remove the entries above
a debug number from a record commutes with going on after a computation, so that it suffices to look at
the places where an entry is written. The loop over the nodes of a file is compared node by node, with
walkers that differ in the debug number of their policy only.
-/

namespace LayerLint

namespace Traced

variable {α β : Type}

/-- A computation with the entries above a debug number removed from its log. -/
def shown (debug : Int) (computation : Traced α) : Traced α :=
  { computation with log := computation.log.filter (Entry.isShown debug) }

@[simp] theorem shown_test (debug : Int) (pattern : String) :
    (test pattern).shown debug = test pattern := rfl

@[simp] theorem shown_bind (debug : Int) (first : Traced α) (next : α → Traced β) :
    (first >>= next).shown debug =
      first.shown debug >>= fun value => (next value).shown debug := by
  apply eq_of_parts
  · rfl
  · exact List.filter_append first.log (next first.value).log
  · rfl

@[simp] theorem shown_map (debug : Int) (function : α → β) (computation : Traced α) :
    (function <$> computation).shown debug = function <$> computation.shown debug := by
  rw [map_eq_pure_bind, map_eq_pure_bind, shown_bind]
  rfl

theorem shown_trace {low high : Int} (ordered : low ≤ high) (detail : Detail) (channel : Channel)
    (text : String) :
    (trace high detail channel text).shown low = trace low detail channel text := by
  by_cases visible : detail.level ≤ low
  · have visibleAbove : detail.level ≤ high := Int.le_trans visible ordered
    simp [shown, trace, visible, visibleAbove, Entry.isShown]
  · by_cases visibleAbove : detail.level ≤ high
    · simp [shown, trace, visible, visibleAbove, Entry.isShown]
    · simp [shown, trace, visible, visibleAbove]

end Traced

theorem Entry.isShown_nodes_level (entry : Entry) : entry.isShown Detail.nodes.level = true := by
  obtain ⟨severity, channel, text⟩ := entry
  cases severity with
  | trace detail => cases detail <;> rfl
  | warning => rfl

namespace Layer

theorem shown_accepts {low high : Int} (ordered : low ≤ high) (isMatch : Matcher)
    (package name : String) (patterns : List String) :
    (accepts isMatch high package name patterns).shown low =
      accepts isMatch low package name patterns := by
  induction patterns with
  | nil => rfl
  | cons pattern patterns ih =>
      by_cases matched : isMatch package pattern = true
      · simp [accepts, matched, Traced.shown_trace ordered]
      · simp [accepts, matched, Traced.shown_trace ordered, ih]

theorem shown_search {low high : Int} (ordered : low ≤ high) (isMatch : Matcher)
    (package : String) (layers : List Layer) :
    (search isMatch high package layers).shown low = search isMatch low package layers := by
  induction layers with
  | nil => simp [search, Traced.shown_trace ordered]
  | cons layer layers ih =>
      simp only [search, Traced.shown_bind, shown_accepts ordered]
      congr 1
      funext accepted
      cases accepted with
      | true => simp [Traced.shown_trace ordered]
      | false => simpa using ih

theorem shown_classify {low high : Int} (ordered : low ≤ high) (layers : List Layer)
    (isMatch : Matcher) (package : String) :
    (classify layers isMatch high package).shown low = classify layers isMatch low package := by
  simp only [classify, Traced.shown_bind, Traced.shown_trace ordered, shown_search ordered]

@[simp] theorem shown_isExcluded (debug : Int) (isMatch : Matcher) (package : String)
    (patterns : List String) :
    (isExcluded isMatch package patterns).shown debug = isExcluded isMatch package patterns := by
  induction patterns with
  | nil => rfl
  | cons pattern patterns ih =>
      by_cases matched : isMatch package pattern = true
      · simp [isExcluded, matched]
      · simp [isExcluded, matched, ih]

end Layer

namespace Policy

/-- The same policy under another debug number. -/
def withDebug (policy : Policy) (debug : Int) : Policy :=
  { policy with debug }

variable (policy : Policy) (debug : Int)

@[simp] theorem debug_withDebug : (policy.withDebug debug).debug = debug := rfl

@[simp] theorem layers_withDebug : (policy.withDebug debug).layers = policy.layers := rfl

@[simp] theorem baseDir_withDebug : (policy.withDebug debug).baseDir = policy.baseDir := rfl

@[simp] theorem allowed?_withDebug (layer : String) :
    (policy.withDebug debug).allowed? layer = policy.allowed? layer := rfl

end Policy

namespace Walker

/-- The same walker under another debug number. -/
def withDebug (debug : Int) (walker : Walker) : Walker :=
  { walker with policy := walker.policy.withDebug debug }

section
variable (walker : Walker) (debug : Int)

@[simp] theorem withDebug_withDebug (other : Int) :
    (walker.withDebug debug).withDebug other = walker.withDebug other := rfl

@[simp] theorem policy_withDebug :
    (walker.withDebug debug).policy = walker.policy.withDebug debug := rfl

@[simp] theorem isMatch_withDebug : (walker.withDebug debug).isMatch = walker.isMatch := rfl

@[simp] theorem package_withDebug : (walker.withDebug debug).package = walker.package := rfl

@[simp] theorem package_link (node : Tree) (package : String) (layer : Option String) :
    (walker.link node package layer).package = walker.package := rfl

@[simp] theorem targetOf_withDebug (node : Tree) :
    (walker.withDebug debug).targetOf node = walker.targetOf node := rfl

@[simp] theorem link_withDebug (node : Tree) (package : String) (layer : Option String) :
    (walker.withDebug debug).link node package layer =
      (walker.link node package layer).withDebug debug := rfl

@[simp] theorem report_withDebug (node : Tree) (rule message : String) (package : Option String) :
    (walker.withDebug debug).report node rule message package =
      (walker.report node rule message package).withDebug debug := rfl

theorem extend_withDebug (edges : List Edge) (violations : List Violation) :
    (walker.withDebug debug).extend edges violations =
      (walker.extend edges violations).withDebug debug := rfl

end

/-- What a computation that hands back a walker shows under a lower debug number. -/
def dimmed (debug : Int) (computation : Traced Walker) : Traced Walker :=
  withDebug debug <$> computation.shown debug

@[simp] theorem dimmed_pure (debug : Int) (walker : Walker) :
    dimmed debug (pure walker) = pure (walker.withDebug debug) := rfl

@[simp] theorem dimmed_bind {α : Type} (debug : Int) (first : Traced α)
    (next : α → Traced Walker) :
    dimmed debug (first >>= next) =
      first.shown debug >>= fun value => dimmed debug (next value) := by
  rw [dimmed, Traced.shown_bind, map_bind]
  rfl

theorem dimmed_checkImport {low high : Int} (ordered : low ≤ high) (walker : Walker) (own : String)
    (node : Tree) :
    dimmed low ((walker.withDebug high).checkImport own node) =
      (walker.withDebug low).checkImport own node := by
  simp only [checkImport, policy_withDebug, Policy.debug_withDebug, Policy.layers_withDebug,
    Policy.allowed?_withDebug, isMatch_withDebug, package_withDebug, targetOf_withDebug,
    dimmed_bind, Traced.shown_trace ordered, Layer.shown_classify ordered]
  congr 1
  funext _
  congr 1
  funext target
  cases target with
  | none => simp
  | some layer =>
      by_cases same : layer = own
      · simp [same]
      · simp only [if_neg same, link_withDebug, package_withDebug, package_link, dimmed_bind,
          Traced.shown_trace ordered]
        congr 1
        funext _
        by_cases listed : layer ∈ (walker.policy.allowed? own).getD []
        · simp [listed]
        · simp [listed]

/-- To go on with what a computation hands back is the same as to go on from the dimmed computation, if
the walker handed back may be dimmed. -/
theorem bind_eq_dimmed_bind {β : Type} {debug : Int} {computation : Traced Walker}
    {next other : Walker → Traced β}
    (agree : next computation.value = other (computation.value.withDebug debug)) :
    computation.shown debug >>= next = dimmed debug computation >>= other := by
  rw [dimmed, bind_map_left]
  exact Traced.bind_congr agree

theorem shown_dump {low high : Int} (ordered : low ≤ high) (walker : Walker) (path : String)
    (node : Tree) :
    ((walker.withDebug high).dump path node).shown low = (walker.withDebug low).dump path node :=
  Traced.shown_trace ordered .nodes .walker (path ++ ":" ++ node.kind ++ " " ++ node.text)

theorem dimmed_inspect {low high : Int} (ordered : low ≤ high) (own : String) (walker : Walker)
    (visit : Tree.Visit) :
    dimmed low (inspect own (walker.withDebug high) visit) =
      inspect own (walker.withDebug low) visit := by
  by_cases imported : visit.isImport = true
  · simp only [inspect, imported, if_true, dimmed_bind, dimmed_pure]
    rw [← dimmed_checkImport ordered]
    apply bind_eq_dimmed_bind
    rw [value_checkImport, extend_withDebug, shown_dump ordered]
    rfl
  · simp only [inspect, imported, Bool.false_eq_true, if_false, pure_bind, dimmed_bind, dimmed_pure,
      shown_dump ordered, withDebug_withDebug]

theorem dimmed_foldlM_inspect {low high : Int} (ordered : low ≤ high) (own : String)
    (visits : List Tree.Visit) (walker : Walker) :
    dimmed low (visits.foldlM (inspect own) (walker.withDebug high)) =
      visits.foldlM (inspect own) (walker.withDebug low) := by
  induction visits generalizing walker with
  | nil => rfl
  | cons visit visits ih =>
      rw [List.foldlM_cons, List.foldlM_cons, dimmed_bind, ← dimmed_inspect ordered]
      apply bind_eq_dimmed_bind
      rw [value_inspect, extend_withDebug, ih, withDebug_withDebug]

theorem traverse_eq_foldlM (walker : Walker) (own : String) (root : Tree)
    (classified : walker.state = .classified) (layered : walker.layer = some own) :
    walker.traverse root = (do
      let next ← root.preorder.foldlM (inspect own) walker
      pure (next, .ok ())) := by
  rw [traverse, work_eq_foldlM walker own _ classified layered, ← Tree.visits_eq_flatMap]
  rfl

/-- The run of a new walker as a loop over the nodes of its file, in which nothing can fail. -/
def survey (walker : Walker) (root : Tree) : Traced Walker := do
  let policy := walker.policy
  let package := policy.packageOf walker.file
  if ← Layer.isExcluded walker.isMatch package policy.excluded then
    Traced.trace policy.debug .skips .walker
      ("Skipping " ++ walker.file ++ " in package " ++ package ++ " because it was excluded")
    pure { walker with package, state := .done }
  else
    match ← Layer.classify policy.layers walker.isMatch policy.debug package with
    | none =>
        let refused := { walker with package }.report (anchor root) Violation.unclassifiedFile
          ("File not found in layers config and was not excluded. (" ++ package ++ ")") none
        pure { refused with state := .aborted, layer := none }
    | some own =>
        let next ← root.preorder.foldlM (inspect own)
          { walker with package, state := .classified, layer := some own }
        pure { next with state := .done }

theorem run_eq_survey (walker : Walker) (root : Tree) (isNew : walker.state = .unclassified) :
    walker.run root = (do
      let ended ← walker.survey root
      pure (ended, .ok ())) := by
  simp only [run, if_pos isNew, survey, bind_assoc]
  congr 1
  funext excluded
  cases excluded with
  | true => simp [Policy.packageOf]
  | false =>
      simp only [Bool.false_eq_true, if_false, runChecked, bind_assoc]
      congr 1
      funext layer
      cases layer with
      | none => rfl
      | some own =>
          simp only
          rw [traverse_eq_foldlM _ own root rfl rfl]
          simp [Policy.packageOf]

theorem dimmed_survey {low high : Int} (ordered : low ≤ high) (walker : Walker) (root : Tree) :
    dimmed low ((walker.withDebug high).survey root) = (walker.withDebug low).survey root := by
  simp only [survey, dimmed_bind, Layer.shown_isExcluded, policy_withDebug]
  congr 1
  funext excluded
  cases excluded with
  | true =>
      simp only [if_true, dimmed_bind, Policy.debug_withDebug, Traced.shown_trace ordered]
      rfl
  | false =>
      simp only [Bool.false_eq_true, if_false, dimmed_bind, Policy.debug_withDebug,
        Policy.layers_withDebug, Layer.shown_classify ordered]
      congr 1
      funext layer
      cases layer with
      | none => rfl
      | some own =>
          simp only [dimmed_bind]
          have loop := dimmed_foldlM_inspect ordered own root.preorder
            { walker with
              package := walker.policy.packageOf walker.file
              state := .classified
              layer := some own }
          refine Eq.trans (bind_eq_dimmed_bind ?_)
            (congrArg (· >>= fun next => pure { next with state := .done }) loop)
          rfl

theorem value_survey_withDebug (walker : Walker) (root : Tree) (first second : Int) :
    ((walker.withDebug first).survey root).value =
      ((walker.withDebug second).survey root).value.withDebug first := by
  -- Both are compared with the run under the larger number.
  rw [← dimmed_survey (Int.le_max_left first second), ← dimmed_survey (Int.le_max_right first second)]
  rfl

theorem log_run_withDebug {low high : Int} (ordered : low ≤ high) (walker : Walker) (root : Tree)
    (isNew : walker.state = .unclassified) :
    ((walker.withDebug low).run root).log =
      ((walker.withDebug high).run root).log.filter (Entry.isShown low) := by
  rw [run_eq_survey (walker.withDebug low) root isNew,
    run_eq_survey (walker.withDebug high) root isNew, ← dimmed_survey ordered]
  simp [dimmed, Traced.shown]

theorem tests_run_withDebug {low high : Int} (ordered : low ≤ high) (walker : Walker) (root : Tree)
    (isNew : walker.state = .unclassified) :
    ((walker.withDebug low).run root).tests = ((walker.withDebug high).run root).tests := by
  rw [run_eq_survey (walker.withDebug low) root isNew,
    run_eq_survey (walker.withDebug high) root isNew, ← dimmed_survey ordered]
  simp [dimmed, Traced.shown]

theorem log_run_eq_filter_full (walker : Walker) (root : Tree) (isNew : walker.state = .unclassified)
    (debug : Int) :
    ((walker.withDebug debug).run root).log =
      ((walker.withDebug Detail.nodes.level).run root).log.filter (Entry.isShown debug) := by
  rcases Int.le_total debug Detail.nodes.level with ordered | beyond
  · exact log_run_withDebug ordered walker root isNew
  · -- Beyond the highest level nothing is added any more, and nothing is removed.
    have full := log_run_withDebug beyond walker root isNew
    rw [List.filter_eq_self.mpr fun entry _ => entry.isShown_nodes_level] at full
    rw [full]
    exact log_run_withDebug (Int.le_refl debug) walker root isNew

theorem value_run_withDebug (walker : Walker) (root : Tree) (first second : Int)
    (isNew : walker.state = .unclassified) :
    ((walker.withDebug first).run root).value =
      (((walker.withDebug second).run root).value.1.withDebug first, .ok ()) := by
  rw [run_eq_survey (walker.withDebug first) root isNew,
    run_eq_survey (walker.withDebug second) root isNew]
  simp only [Traced.value_bind, Traced.value_pure]
  rw [value_survey_withDebug walker root first second]

end Walker

namespace Project

theorem value_lintFile_withDebug (disk : Disk) (policy : Policy) (debug : Int)
    (result : LintResult) (path : DiskPath) :
    (lintFile disk (policy.withDebug debug) result path).value =
      (lintFile disk policy result path).value := by
  unfold lintFile
  split
  next tree _ =>
    have ended := Walker.value_run_withDebug
      (Walker.fresh policy Glob.isMatch path.render) tree debug policy.debug rfl
    simp only [Traced.value_bind, Traced.value_pure]
    exact congrArg (fun outcome => addWalk result outcome.1) ended
  next => rfl

theorem value_lintFiles_withDebug (disk : Disk) (policy : Policy) (debug : Int)
    (result : LintResult) (files : List DiskPath) :
    (lintFiles disk (policy.withDebug debug) result files).value =
      (lintFiles disk policy result files).value := by
  induction files generalizing result with
  | nil => rfl
  | cons path files ih =>
      simp only [lintFiles, Traced.value_bind, value_lintFile_withDebug, ih]

/-- A debug number that is set for a run replaces the one of the policy, and changes nothing else. -/
theorem value_setUp_some (disk : Disk) (root : DiskPath) (config : Option DiskPath) (debug : Int) :
    (setUp disk root config (some debug)).value =
      (setUp disk root config none).value.map
        (Option.map fun checked => ⟨checked.policy.withDebug debug, checked.warnings⟩) := by
  unfold setUp
  split
  next => rfl
  next => rfl
  next path _ =>
    simp only [check, Traced.value_bind]
    cases (Policy.load disk path).value with
    | error fault => cases fault <;> rfl
    | ok policy =>
        have validated : ({ policy with debug } : Policy).validate = policy.validate := rfl
        simp only [Traced.value_bind, Option.getD_some, Option.getD_none, validated]
        cases policy.validate.value with
        | error fault => rfl
        | ok warnings => rfl

theorem value_lint_some (disk : Disk) (root : DiskPath) (config : Option DiskPath)
    (paths : List DiskPath) (debug : Int) :
    (lint disk root config paths (some debug)).value =
      (lint disk root config paths none).value := by
  simp only [lint, Traced.value_bind, value_setUp_some]
  cases (setUp disk root config none).value with
  | error fault => rfl
  | ok checked? =>
      cases checked? with
      | none => rfl
      | some checked =>
          simp only [Except.map, Option.map_some, Policy.baseDir_withDebug, Traced.value_bind]
          cases (collect disk _).value with
          | error cause => rfl
          | ok files =>
              simp only [Traced.value_bind, Traced.value_pure, value_lintFiles_withDebug]

end Project

/-- Under a lower debug number a new walker ends its run in the same way and tests the same patterns,
and its log is what is left of the log under the higher one, or of the full log, when the entries of
higher levels are removed. The result of linting does not depend on the debug number. -/
theorem Walker.run_graded_by_debug (policy : Policy) (isMatch : Matcher) (file : String) (root : Tree)
    (low high : Int) (ordered : low ≤ high) :
    let run (debug : Int) := (fresh (policy.withDebug debug) isMatch file).run root
    (∃ lower upper, (run low).value = (lower, .ok ()) ∧ (run high).value = (upper, .ok ()) ∧
      lower.state = upper.state ∧ lower.package = upper.package ∧ lower.layer = upper.layer ∧
      lower.violations = upper.violations ∧ lower.edges = upper.edges) ∧
    (run low).tests = (run high).tests ∧
    (run low).log = (run high).log.filter (Entry.isShown low) ∧
    (run low).log.Sublist (run high).log ∧
    (∀ debug, (run debug).log = (run Detail.nodes.level).log.filter (Entry.isShown debug)) ∧
    ∀ disk root config paths,
      (Project.lint disk root config paths (some low)).value =
        (Project.lint disk root config paths (some high)).value := by
  intro run
  let walker := fresh policy isMatch file
  have logs : (run low).log = (run high).log.filter (Entry.isShown low) :=
    log_run_withDebug ordered walker root rfl
  have value (debug : Int) : (run debug).value = ((run high).value.1.withDebug debug, .ok ()) :=
    value_run_withDebug walker root debug high rfl
  refine ⟨⟨_, _, value low, value high, rfl, rfl, rfl, rfl, rfl⟩,
    tests_run_withDebug ordered walker root rfl, logs, ?_,
    log_run_eq_filter_full walker root rfl, ?_⟩
  · rw [logs]
    exact List.filter_sublist
  · intro disk root config paths
    rw [Project.value_lint_some, Project.value_lint_some]

/-- A file with one import, under a debug number that shows how packages are resolved and under one that
shows everything. -/
theorem Walker.run_graded_by_two_and_five :
    let policy : Policy := { baseDir := "/p", layers := [⟨"lower", ["b"]⟩, ⟨"upper", ["a/*"]⟩] }
    let root : Tree :=
      .node { kind := "program" }
        [.node { kind := "import_statement" }
          [.node { kind := "string", content := Text.Utf8.encode "'./y'", field := some "source" } []]]
    let run (debug : Int) := (fresh (policy.withDebug debug) Glob.isMatch "/p/a/x.ts").run root
    (2 : Int) ≤ 5 ∧
      (run 2).log.map Entry.text =
        ["resolving a/x against layers", ".... got upper", "a/x found import a/y",
          "resolving a/y against layers", ".... got upper"] ∧
      (run 5).log.length = 13 ∧
      (run 2).log = (run 5).log.filter (Entry.isShown 2) := by
  intro policy root run
  have graded := run_graded_by_debug policy Glob.isMatch "/p/a/x.ts" root 2 5 (by decide)
  exact ⟨by decide, by decide +kernel, by decide +kernel, graded.2.2.1⟩

end LayerLint
