import LayerLint.Proofs.Configuration

/-!
# What validation reports

A set of names is reported as the one list that has each of its members once, in ascending order. The
fault about undeclared layers and the warnings about repeated targets are such lists, and the other
warnings follow the order of the policy. Here the fault and the warnings are described by what they have
to name, and validation is shown to hand back just that, the fault before any warning.
-/

namespace LayerLint
namespace Policy

/-- A list of the names with a property: each of them once, in ascending order. -/
structure Lists (names : List String) (property : String → Prop) : Prop where
  ascending : names.Pairwise (· < ·)
  mem_iff : ∀ name, name ∈ names ↔ property name

/-- The rules use a name, as a source or as a target. -/
def Uses (policy : Policy) (name : String) : Prop :=
  ∃ rule ∈ policy.rules, name = rule.1 ∨ name ∈ rule.2

/-- A name that the rules use and no layer has. -/
def Misses (policy : Policy) (name : String) : Prop :=
  policy.Uses name ∧ ∀ layer ∈ policy.layers, layer.name ≠ name

/-- The texts of the warnings about one entry of the rules. -/
inductive WarnsOfRule (layer : String) (targets : List String) : List String → Prop
  | itself {names : List String} (listed : layer ∈ targets)
      (repeats : Lists names fun target => 2 ≤ targets.count target) :
      WarnsOfRule layer targets
        (("Layer '" ++ layer ++ "' lists itself in rules (same-layer imports are always allowed)") ::
          names.map fun target =>
            "Layer '" ++ layer ++ "' lists '" ++ target ++ "' more than once in rules")
  | others {names : List String} (unlisted : layer ∉ targets)
      (repeats : Lists names fun target => 2 ≤ targets.count target) :
      WarnsOfRule layer targets
        (names.map fun target =>
          "Layer '" ++ layer ++ "' lists '" ++ target ++ "' more than once in rules")

/-- The texts of the warnings about the layers of a policy. -/
inductive WarnsOfLayers : List Layer → List String → Prop
  | nil : WarnsOfLayers [] []
  | bare {layer : Layer} {layers : List Layer} {texts : List String} (bare : layer.patterns = [])
      (rest : WarnsOfLayers layers texts) :
      WarnsOfLayers (layer :: layers)
        (("Layer '" ++ layer.name ++ "' has no patterns and can never match") :: texts)
  | patterned {layer : Layer} {layers : List Layer} {texts : List String}
      (patterned : layer.patterns ≠ []) (rest : WarnsOfLayers layers texts) :
      WarnsOfLayers (layer :: layers) texts

/-- The texts of the warnings about the rules of a policy. -/
inductive WarnsOfRules : Rules → List String → Prop
  | nil : WarnsOfRules [] []
  | cons {rule : String × List String} {rules : Rules} {first texts : List String}
      (one : WarnsOfRule rule.1 rule.2 first) (rest : WarnsOfRules rules texts) :
      WarnsOfRules (rule :: rules) (first ++ texts)

theorem lists_ascending (names : List String) : Lists (ascending names) (· ∈ names) := by
  constructor
  · have inOrder : (ascending names).Pairwise fun first second => decide (first ≤ second) = true := by
      apply List.pairwise_mergeSort
      · intro first second third
        simpa using le_trans
      · intro first second
        simpa using le_total first second
    have distinct : (ascending names).Nodup :=
      (List.mergeSort_perm _ _).nodup_iff.mpr (Project.nodup_eraseDups names)
    apply (inOrder.and distinct).imp
    rintro first second ⟨before, different⟩
    exact lt_of_le_of_ne (of_decide_eq_true before) different
  · intro name
    rw [ascending, List.mem_mergeSort, List.mem_eraseDups]

/-- The names with a property can be listed in one way only. -/
theorem Lists.eq {names others : List String} {property : String → Prop}
    (lists : Lists names property) (also : Lists others property) : names = others := by
  have distinct {list : List String} (ordered : list.Pairwise (· < ·)) : list.Nodup :=
    ordered.imp ne_of_lt
  have perm : names.Perm others := by
    rw [List.perm_ext_iff_of_nodup (distinct lists.ascending) (distinct also.ascending)]
    intro name
    rw [lists.mem_iff, also.mem_iff]
  refine perm.eq_of_pairwise ?_ lists.ascending also.ascending
  intro first second _ _ before after
  exact absurd after (lt_asymm before)

theorem lists_repeated (targets : List String) :
    Lists (repeated targets) fun target => 2 ≤ targets.count target := by
  obtain ⟨ordered, members⟩ := lists_ascending (targets.filter fun target => 1 < targets.count target)
  refine ⟨ordered, fun target => ?_⟩
  rw [repeated, members, List.mem_filter, decide_eq_true_eq]
  constructor
  · rintro ⟨-, twice⟩
    exact twice
  · intro twice
    exact ⟨List.count_pos_iff.mp (by omega), twice⟩

theorem lists_undeclared (policy : Policy) : Lists policy.undeclared policy.Misses := by
  obtain ⟨ordered, members⟩ :=
    lists_ascending (policy.usedNames.filter fun name => !policy.layerNames.contains name)
  refine ⟨ordered, fun name => ?_⟩
  rw [undeclared, members, List.mem_filter, Misses, Uses, usedNames, List.mem_flatMap]
  simp [layerNames]

theorem warnsOfRule_iff (layer : String) (targets texts : List String) :
    WarnsOfRule layer targets texts ↔ texts = (ruleWarnings layer targets).map Warning.message := by
  have lists := lists_repeated targets
  unfold ruleWarnings
  constructor
  · intro warns
    cases warns with
    | itself listed repeats => simp [listed, repeats.eq lists, Warning.message]
    | others unlisted repeats => simp [unlisted, repeats.eq lists, Warning.message]
  · rintro rfl
    by_cases listed : layer ∈ targets
    · simpa [listed, Function.comp_def, Warning.message] using WarnsOfRule.itself listed lists
    · simpa [listed, Function.comp_def, Warning.message] using WarnsOfRule.others listed lists

theorem warnsOfRules_iff (rules : Rules) (texts : List String) :
    WarnsOfRules rules texts ↔
      texts = (rules.flatMap fun rule => ruleWarnings rule.1 rule.2).map Warning.message := by
  constructor
  · intro warns
    induction warns with
    | nil => rfl
    | cons one rest ih =>
        rw [(warnsOfRule_iff _ _ _).mp one, ih, List.flatMap_cons, List.map_append]
  · rintro rfl
    induction rules with
    | nil => exact .nil
    | cons rule rules ih =>
        rw [List.flatMap_cons, List.map_append]
        exact .cons ((warnsOfRule_iff _ _ _).mpr rfl) ih

theorem warnsOfLayers_iff (layers : List Layer) (texts : List String) :
    WarnsOfLayers layers texts ↔
      texts = ((layers.filter fun layer => layer.patterns.isEmpty).map fun layer =>
        Warning.noPatterns layer.name).map Warning.message := by
  constructor
  · intro warns
    induction warns with
    | nil => rfl
    | bare bare rest ih => simp [bare, ih, Warning.message]
    | patterned patterned rest ih => simp [patterned, ih]
  · rintro rfl
    induction layers with
    | nil => exact .nil
    | cons layer layers ih =>
        by_cases bare : layer.patterns = []
        · simpa [bare, Warning.message] using WarnsOfLayers.bare bare ih
        · simpa [bare] using WarnsOfLayers.patterned bare ih

theorem log_logWarnings (texts : List String) :
    (logWarnings texts).log = texts.map fun text => ⟨.warning, .policy, text⟩ := by
  induction texts with
  | nil => rfl
  | cons text texts ih =>
      rw [logWarnings, Traced.log_bind, ih]
      rfl

theorem log_validate (policy : Policy) :
    policy.validate.log =
      if policy.undeclared = [] then
        (policy.warnings.map Warning.message).map fun text => ⟨.warning, .policy, text⟩
      else [] := by
  unfold validate
  split_ifs
  · rw [Traced.log_bind, log_logWarnings, Traced.log_pure, List.append_nil]
  · rfl

/-- Validation fails exactly when the rules use a name that no layer has, and its fault lists all of
these names. Otherwise it hands back and logs the warnings about the layers, and then those about the
rules. -/
theorem validate_reports_all_problems (policy : Policy) :
    (∀ fault, policy.validate.value = .error fault ↔
      (∃ name, policy.Misses name) ∧
        ∃ names, Lists names policy.Misses ∧ fault = .undeclaredLayers names) ∧
    (∀ texts, policy.validate.value = .ok texts ↔
      (∀ name, ¬ policy.Misses name) ∧
        ∃ ofLayers ofRules, WarnsOfLayers policy.layers ofLayers ∧ WarnsOfRules policy.rules ofRules ∧
          texts = ofLayers ++ ofRules) ∧
    (∀ fault, policy.validate.value = .error fault → policy.validate.log = []) ∧
    ∀ texts, policy.validate.value = .ok texts →
      policy.validate.log = texts.map fun text => ⟨.warning, .policy, text⟩ := by
  have lists := lists_undeclared policy
  have nothing : policy.undeclared = [] ↔ ∀ name, ¬ policy.Misses name := by
    rw [List.eq_nil_iff_forall_not_mem]
    simp only [lists.mem_iff]
  rw [value_validate, log_validate]
  by_cases declared : policy.undeclared = []
  · have complete := nothing.mp declared
    simp only [if_pos declared, reduceCtorEq, false_iff, not_and, Except.ok.injEq]
    refine ⟨?_, ?_, ?_, ?_⟩
    · rintro fault ⟨name, missed⟩
      exact absurd missed (complete name)
    · intro texts
      simp only [warnsOfLayers_iff, warnsOfRules_iff]
      constructor
      · rintro rfl
        exact ⟨complete, _, _, rfl, rfl, List.map_append⟩
      · rintro ⟨-, ofLayers, ofRules, rfl, rfl, rfl⟩
        exact List.map_append
    · exact fun _ impossible => absurd impossible id
    · rintro texts rfl
      rfl
  · have missed : ∃ name, policy.Misses name := by
      by_contra none
      exact declared (nothing.mpr (not_exists.mp none))
    simp only [if_neg declared, reduceCtorEq, false_iff, Except.error.injEq]
    refine ⟨?_, ?_, ?_, ?_⟩
    · intro fault
      constructor
      · rintro rfl
        exact ⟨missed, _, lists, rfl⟩
      · rintro ⟨-, names, also, rfl⟩
        rw [lists.eq also]
    · rintro texts ⟨complete, -⟩
      obtain ⟨name, misses⟩ := missed
      exact complete name misses
    · exact fun _ _ => trivial
    · exact fun _ impossible => absurd impossible id

end Policy
end LayerLint
