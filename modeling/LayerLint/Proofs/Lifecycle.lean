import LayerLint.Proofs.Traversal
import Mathlib.Logic.ExistsUnique

/-!
# The life of a walker

A walker may be called in any order: to run, to visit a node, to traverse a tree. Between two calls it is
either new or at the end of its only run. Only a run brings it into the state in which nodes are
visited, and no run leaves it there, so that visits and traversals from outside do nothing, the first run
comes to one of three ends, and every later run is refused.
-/

namespace LayerLint

namespace Walker

/-- A call of a walker from outside. -/
inductive Call
  | run (root : Tree)
  | visit (parent : Option Tree) (path : String) (node : Tree)
  | traverse (root : Tree)

def Call.IsRun : Call → Prop
  | .run _ => True
  | _ => False

def after (walker : Walker) : Call → Walker
  | .run root => (walker.run root).value.1
  | .visit parent path node => (walker.visit parent path node).value.1
  | .traverse root => (walker.traverse root).value.1

/-- The walker after several calls in turn. -/
def afterAll (walker : Walker) (calls : List Call) : Walker :=
  calls.foldl after walker

/-- The ways in which the first run may end. -/
inductive Outcome
  | skipped
  | refused
  | checked (own : String)

/-- What the walker of a run looks like at each end. -/
def EndsIn (walker : Walker) (root : Tree) : Outcome → Prop
  | .skipped =>
      walker.state = .done ∧ walker.layer = none ∧ walker.violations = [] ∧ walker.edges = []
  | .refused =>
      walker.state = .aborted ∧ walker.layer = none ∧ walker.edges = [] ∧
        walker.violations = [Violation.ofFile walker.policy walker.file root]
  | .checked own => walker.state = .done ∧ walker.layer = some own

/-- The end that the policy asks for: excluded files are skipped, files without a layer are refused, and
all others are checked. -/
def Due (policy : Policy) (isMatch : Matcher) (file : String) : Outcome → Prop
  | .skipped => policy.Excludes isMatch (policy.packageOf file)
  | .refused =>
      ¬ policy.Excludes isMatch (policy.packageOf file) ∧
        policy.layerOf? isMatch (policy.packageOf file) = none
  | .checked own =>
      ¬ policy.Excludes isMatch (policy.packageOf file) ∧
        policy.layerOf? isMatch (policy.packageOf file) = some own

theorem existsUnique_due (policy : Policy) (isMatch : Matcher) (file : String) :
    ∃! outcome, Due policy isMatch file outcome := by
  by_cases excluded : policy.Excludes isMatch (policy.packageOf file)
  · refine ⟨.skipped, excluded, ?_⟩
    intro outcome due
    cases outcome with
    | skipped => rfl
    | refused => exact absurd excluded due.1
    | checked own => exact absurd excluded due.1
  · cases layered : policy.layerOf? isMatch (policy.packageOf file) with
    | none =>
        refine ⟨.refused, ⟨excluded, layered⟩, ?_⟩
        intro outcome due
        cases outcome with
        | skipped => exact absurd due excluded
        | refused => rfl
        | checked own => exact absurd (layered.symm.trans due.2) (by simp)
    | some own =>
        refine ⟨.checked own, ⟨excluded, layered⟩, ?_⟩
        intro outcome due
        cases outcome with
        | skipped => exact absurd due excluded
        | refused => exact absurd (layered.symm.trans due.2) (by simp)
        | checked other =>
            have same : some own = some other := layered.symm.trans due.2
            rw [Option.some.inj same]

theorem eq_of_endsIn {walker : Walker} {root : Tree} {first second : Outcome}
    (firstEnd : walker.EndsIn root first) (secondEnd : walker.EndsIn root second) :
    first = second := by
  -- The state sets the refused ones apart, and the layer the others.
  cases first with
  | skipped =>
      cases second with
      | skipped => rfl
      | refused => exact absurd (firstEnd.1.symm.trans secondEnd.1) (by decide)
      | checked own => exact absurd (firstEnd.2.1.symm.trans secondEnd.2) (by simp)
  | refused =>
      cases second with
      | skipped => exact absurd (firstEnd.1.symm.trans secondEnd.1) (by decide)
      | refused => rfl
      | checked own => exact absurd (firstEnd.1.symm.trans secondEnd.1) (by decide)
  | checked own =>
      cases second with
      | skipped => exact absurd (firstEnd.2.symm.trans secondEnd.2.1) (by simp)
      | refused => exact absurd (firstEnd.1.symm.trans secondEnd.1) (by decide)
      | checked other => rw [Option.some.inj (firstEnd.2.symm.trans secondEnd.2)]

theorem run_fresh_endsIn (policy : Policy) (isMatch : Matcher) (file : String) (root : Tree)
    {outcome : Outcome} (due : Due policy isMatch file outcome) :
    ∃ ended, ((fresh policy isMatch file).run root).value = (ended, .ok ()) ∧
      ended.policy = policy ∧ ended.file = file ∧ ended.package = policy.packageOf file ∧
      ended.EndsIn root outcome := by
  cases outcome with
  | skipped =>
      have value := value_run_of_excludes policy isMatch file root due
      exact ⟨_, value, rfl, rfl, rfl, rfl, rfl, rfl, rfl⟩
  | refused =>
      have value := value_run_of_no_layer policy isMatch file root due.1 due.2
      exact ⟨_, value, rfl, rfl, rfl, rfl, rfl, rfl, rfl⟩
  | checked own =>
      have value := value_run_of_layer policy isMatch file own root due.1 due.2
      exact ⟨_, value, rfl, rfl, rfl, rfl, rfl⟩

/-- A walker that does not walk at present stops at every node. -/
theorem visit_of_idle (walker : Walker) (idle : walker.state ≠ .classified)
    (parent : Option Tree) (path : String) (node : Tree) :
    walker.visit parent path node = pure (walker, .ok .stop) := by
  rw [Walker.visit, if_neg idle]

theorem traverse_of_idle (walker : Walker) (idle : walker.state ≠ .classified) (root : Tree) :
    walker.traverse root = pure (walker, .ok ()) := by
  rw [traverse]
  cases agendaOf "" root with
  | nil => rw [work]
  | cons entry agenda =>
      rw [work, visit_of_idle walker idle]
      rfl

theorem run_of_ran (walker : Walker) (ran : walker.state ≠ .unclassified) (root : Tree) :
    walker.run root = pure (walker, .error (.alreadyRan walker.file walker.state)) := by
  rw [run, if_neg ran]

/-- A walker at the end of its run. -/
structure HasEnded (walker : Walker) (file : String) : Prop where
  idle : walker.state ≠ .classified
  ran : walker.state ≠ .unclassified
  sameFile : walker.file = file

theorem hasEnded_after_run (policy : Policy) (isMatch : Matcher) (file : String) (root : Tree) :
    HasEnded ((fresh policy isMatch file).after (.run root)) file := by
  obtain ⟨outcome, due, -⟩ := existsUnique_due policy isMatch file
  obtain ⟨ended, value, -, sameFile, -, ending⟩ := run_fresh_endsIn policy isMatch file root due
  rw [after, value]
  cases outcome with
  | skipped => exact ⟨by simp [ending.1], by simp [ending.1], sameFile⟩
  | refused => exact ⟨by simp [ending.1], by simp [ending.1], sameFile⟩
  | checked own => exact ⟨by simp [ending.1], by simp [ending.1], sameFile⟩

/-- Only a run changes a walker that does not walk at present. -/
theorem after_of_idle (walker : Walker) (idle : walker.state ≠ .classified) (call : Call)
    (noRun : ¬ call.IsRun) :
    walker.after call = walker := by
  cases call with
  | run root => exact absurd trivial noRun
  | visit parent path node => rw [after, visit_of_idle walker idle, Traced.value_pure]
  | traverse root => rw [after, traverse_of_idle walker idle, Traced.value_pure]

theorem after_of_ended {walker : Walker} {file : String} (ended : walker.HasEnded file)
    (call : Call) : walker.after call = walker := by
  by_cases isRun : call.IsRun
  · cases call with
    | run root => rw [after, run_of_ran walker ended.ran, Traced.value_pure]
    | visit parent path node => exact isRun.elim
    | traverse root => exact isRun.elim
  · exact walker.after_of_idle ended.idle call isRun

theorem afterAll_of_ended {walker : Walker} {file : String} (ended : walker.HasEnded file)
    (calls : List Call) : walker.afterAll calls = walker := by
  induction calls with
  | nil => rfl
  | cons call calls ih =>
      rw [afterAll, List.foldl_cons, after_of_ended ended]
      exact ih

theorem afterAll_fresh_of_no_run (policy : Policy) (isMatch : Matcher) (file : String)
    (calls : List Call) (noRun : ¬ ∃ call ∈ calls, call.IsRun) :
    (fresh policy isMatch file).afterAll calls = fresh policy isMatch file := by
  induction calls with
  | nil => rfl
  | cons call calls ih =>
      have callNoRun : ¬ call.IsRun := fun isRun => noRun ⟨call, List.mem_cons_self, isRun⟩
      have callsNoRun : ¬ ∃ call ∈ calls, call.IsRun := by
        rintro ⟨later, member, isRun⟩
        exact noRun ⟨later, List.mem_cons_of_mem call member, isRun⟩
      rw [afterAll, List.foldl_cons, after_of_idle _ (by simp [fresh]) call callNoRun]
      exact ih callsNoRun

/-- After its first run a walker is at its end, whatever the calls before and after it were. -/
theorem hasEnded_afterAll_of_run (policy : Policy) (isMatch : Matcher) (file : String)
    (calls : List Call) (hasRun : ∃ call ∈ calls, call.IsRun) :
    HasEnded ((fresh policy isMatch file).afterAll calls) file := by
  induction calls with
  | nil =>
      obtain ⟨call, member, -⟩ := hasRun
      exact absurd member List.not_mem_nil
  | cons call calls ih =>
      rw [afterAll, List.foldl_cons]
      by_cases isRun : call.IsRun
      · cases call with
        | run root =>
            have ended := hasEnded_after_run policy isMatch file root
            have unchanged := afterAll_of_ended ended calls
            rw [afterAll] at unchanged
            rw [unchanged]
            exact ended
        | visit parent path node => exact isRun.elim
        | traverse root => exact isRun.elim
      · -- The call leaves the walker as new, so that the run is among the calls that remain.
        rw [after_of_idle _ (by simp [fresh]) call isRun]
        apply ih
        obtain ⟨later, member, laterIsRun⟩ := hasRun
        rcases List.mem_cons.mp member with rfl | member
        · exact absurd laterIsRun isRun
        · exact ⟨later, member, laterIsRun⟩

/-- Whatever calls a new walker has had, a visit stops and a traversal does nothing. If it has not run
yet, a run returns and comes to exactly one end, the one that the policy asks for. If it has run, a run
is refused and nothing changes. -/
theorem afterAll_calls_lifecycle (policy : Policy) (isMatch : Matcher) (file : String)
    (calls : List Call) :
    let walker := (fresh policy isMatch file).afterAll calls
    (∀ parent path node, walker.visit parent path node = pure (walker, .ok .stop)) ∧
    (∀ root, walker.traverse root = pure (walker, .ok ())) ∧
    ((¬ ∃ call ∈ calls, call.IsRun) → ∀ root,
      ∃ ended, (walker.run root).value = (ended, .ok ()) ∧
        ended.policy = policy ∧ ended.file = file ∧ ended.package = policy.packageOf file ∧
        (∃! outcome, ended.EndsIn root outcome) ∧
        ∀ outcome, ended.EndsIn root outcome ↔ Due policy isMatch file outcome) ∧
    ((∃ call ∈ calls, call.IsRun) → ∀ root,
      walker.run root = pure (walker, .error (.alreadyRan file walker.state))) := by
  intro walker
  have idle : walker.state ≠ .classified := by
    by_cases hasRun : ∃ call ∈ calls, call.IsRun
    · exact (hasEnded_afterAll_of_run policy isMatch file calls hasRun).idle
    · have unchanged := afterAll_fresh_of_no_run policy isMatch file calls hasRun
      simp [walker, unchanged, fresh]
  refine ⟨walker.visit_of_idle idle, walker.traverse_of_idle idle, ?_, ?_⟩
  · intro noRun root
    have unchanged : walker = fresh policy isMatch file :=
      afterAll_fresh_of_no_run policy isMatch file calls noRun
    obtain ⟨due, isDue, dueUnique⟩ := existsUnique_due policy isMatch file
    obtain ⟨ended, value, samePolicy, sameFile, package, ending⟩ :=
      run_fresh_endsIn policy isMatch file root isDue
    rw [unchanged]
    refine ⟨ended, value, samePolicy, sameFile, package,
      ⟨due, ending, fun _ other => eq_of_endsIn other ending⟩, ?_⟩
    intro outcome
    constructor
    · intro outcomeEnd
      rw [eq_of_endsIn outcomeEnd ending]
      exact isDue
    · intro outcomeDue
      rw [dueUnique outcome outcomeDue]
      exact ending
  · intro hasRun root
    have ended : walker.HasEnded file :=
      hasEnded_afterAll_of_run policy isMatch file calls hasRun
    rw [walker.run_of_ran ended.ran, ended.sameFile]

end Walker
end LayerLint
