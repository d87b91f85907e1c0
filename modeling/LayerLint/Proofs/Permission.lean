import LayerLint.Proofs.Traversal
import Mathlib.Data.List.Basic

/-!
# Wider rules

The rules of a policy decide which imports between layers are forbidden, and nothing else. This file
compares two checks of one file under policies that differ in their rules only, where the second ones list
at least the layers that the first ones list. The two walkers classify the file and its imports in the
same way, and the second one lifts exactly the violations whose layer is listed by then.
-/

namespace LayerLint

namespace Policy

/-- The same policy under other rules. -/
def withRules (policy : Policy) (rules : Rules) : Policy :=
  { policy with rules }

/-- The layers that the rules list for a layer: none of them if there is no entry. -/
def targetsOf (policy : Policy) (layer : String) : List String :=
  (policy.allowed? layer).getD []

/-- Rules that list at least the layers that the rules of a policy list. -/
def IsWidenedBy (policy : Policy) (rules : Rules) : Prop :=
  ∀ layer, policy.targetsOf layer ⊆ (policy.withRules rules).targetsOf layer

variable {policy : Policy} {rules : Rules}

theorem IsWidenedBy.permits (wider : policy.IsWidenedBy rules) {own target : String}
    (permitted : policy.Permits own target) : (policy.withRules rules).Permits own target := by
  rw [permits_iff] at permitted ⊢
  exact permitted.imp_right fun listed => wider own listed

end Policy

namespace Violation

/-- A forbidden import is lifted by a policy that lists its layer for the layer of the file. -/
def IsLifted (policy : Policy) (isMatch : Matcher) (own? : Option String) (violation : Violation) :
    Prop :=
  violation.rule = forbiddenImport ∧
    ∃ own ∈ own?, ∃ target ∈ violation.package.bind (policy.layerOf? isMatch),
      target ∈ policy.targetsOf own

instance (policy : Policy) (isMatch : Matcher) (own? : Option String) (violation : Violation) :
    Decidable (violation.IsLifted policy isMatch own?) :=
  inferInstanceAs (Decidable (_ ∧ _))

section

variable {policy : Policy} {isMatch : Matcher} {own : String} {node : Tree} {edge : Edge}

theorem not_isLifted_of_rule_ne {own? : Option String} {violation : Violation}
    (other : violation.rule ≠ forbiddenImport) : ¬ violation.IsLifted policy isMatch own? :=
  fun lifted => other lifted.1

theorem isLifted_atImport_iff {target rule message : String}
    (layered : policy.layerOf? isMatch edge.package = some target) :
    (atImport node edge rule message).IsLifted policy isMatch (some own) ↔
      rule = forbiddenImport ∧ target ∈ policy.targetsOf own := by
  simp [IsLifted, atImport, layered]

theorem ofImport_withRules {rules : Rules} (wider : policy.IsWidenedBy rules)
    (layered : edge.layer = policy.layerOf? isMatch edge.package) :
    ofImport (policy.withRules rules) own node edge =
      (ofImport policy own node edge).filter fun violation =>
        ¬ violation.IsLifted (policy.withRules rules) isMatch (some own) := by
  unfold ofImport
  cases found : edge.layer with
  | none =>
      have kept : ¬ (atImport node edge unmatchedImport
          (edge.package ++ " not matched to any layer")).IsLifted (policy.withRules rules) isMatch
            (some own) :=
        not_isLifted_of_rule_ne (show unmatchedImport ≠ forbiddenImport by decide)
      simp only [Option.filter_some, decide_eq_true kept, if_true]
  | some target =>
      have isTarget : (policy.withRules rules).layerOf? isMatch edge.package = some target :=
        layered.symm.trans found
      by_cases permitted : policy.Permits own target
      · simp only [if_pos permitted, if_pos (wider.permits permitted), Option.filter_none]
      · have differs : target ≠ own := fun same => permitted (.inl same)
        have listed_iff : (policy.withRules rules).Permits own target ↔
            target ∈ (policy.withRules rules).targetsOf own := by
          rw [Policy.permits_iff]
          exact or_iff_right differs
        simp only [if_neg permitted, listed_iff, Option.filter_some, isLifted_atImport_iff isTarget]
        by_cases listed : target ∈ (policy.withRules rules).targetsOf own
        · simp [listed]
        · simp [listed]

/-- An import from the layer of the file itself is not reported. -/
theorem layer_ne_of_ofImport {violation : Violation}
    (layered : edge.layer = policy.layerOf? isMatch edge.package)
    (reported : ofImport policy own node edge = some violation) :
    violation.package = some edge.package ∧ policy.layerOf? isMatch edge.package ≠ some own := by
  rw [← layered]
  unfold ofImport at reported
  split at reported
  next unmatched =>
    cases reported
    exact ⟨rfl, by simp [unmatched]⟩
  next target found =>
    split at reported
    next => exact nomatch reported
    next forbidden =>
      cases reported
      refine ⟨rfl, fun same => forbidden (.inl ?_)⟩
      exact Option.some.inj (found.symm.trans same)

end

end Violation

theorem Walker.violationsFor_withRules {policy : Policy} {rules : Rules}
    (wider : policy.IsWidenedBy rules) (isMatch : Matcher) (file own : String) (imports : List Tree) :
    (fresh (policy.withRules rules) isMatch file).violationsFor own imports =
      ((fresh policy isMatch file).violationsFor own imports).filter fun violation =>
        ¬ violation.IsLifted (policy.withRules rules) isMatch (some own) := by
  rw [violationsFor, violationsFor, List.filter_filterMap]
  apply List.filterMap_congr
  intro node _
  exact Violation.ofImport_withRules wider rfl

section

variable (policy : Policy) (rules : Rules) (isMatch : Matcher) (file : String) (root : Tree)

/-- The end of the check under other rules: only the violations may be different. -/
theorem checkFile_withRules :
    ∃ walker violations, (checkFile policy isMatch file root).value = (walker, .ok ()) ∧
      (checkFile (policy.withRules rules) isMatch file root).value =
        ({ walker with policy := policy.withRules rules, violations }, .ok ()) ∧
      (policy.IsWidenedBy rules → violations = walker.violations.filter fun violation =>
        ¬ violation.IsLifted (policy.withRules rules) isMatch walker.layer) := by
  obtain ⟨excluded, ended⟩ | ⟨included, unclassified, ended⟩ | ⟨own, included, layered, ended⟩ :=
    checkFile_cases policy isMatch file root
  · have widened := Walker.value_run_of_excludes (policy.withRules rules) isMatch file root excluded
    exact ⟨_, _, ended, widened, fun _ => rfl⟩
  · have widened := Walker.value_run_of_no_layer (policy.withRules rules) isMatch file root included
      unclassified
    have kept : ¬ (Violation.ofFile policy file root).IsLifted (policy.withRules rules) isMatch none :=
      Violation.not_isLifted_of_rule_ne
        (show Violation.unclassifiedFile ≠ Violation.forbiddenImport by decide)
    refine ⟨_, _, ended, widened, fun _ => ?_⟩
    symm
    apply List.filter_cons_of_pos
    exact decide_eq_true kept
  · have widened := Walker.value_run_of_layer (policy.withRules rules) isMatch file own root included
      layered
    exact ⟨_, _, ended, widened, fun wider => Walker.violationsFor_withRules wider isMatch file own _⟩

theorem layer_ne_of_mem_checkFile {violation : Violation} {package : String}
    (member : violation ∈ (checkFile policy isMatch file root).value.1.violations)
    (reported : violation.package = some package) :
    policy.layerOf? isMatch package ≠ (checkFile policy isMatch file root).value.1.layer := by
  obtain rfl | ⟨own, node, layered, found⟩ := violation_of_mem_checkFile member
  · exact nomatch reported
  · obtain ⟨named, differs⟩ := Violation.layer_ne_of_ofImport rfl found
    rw [layered, Option.some.inj (reported.symm.trans named)]
    exact differs

end

/-- Under wider rules the check of a file ends in the same state, with the same package, layer and edges,
and its violations are those that are not lifted; violations of other rules stay. Under any rules, a
package that is reported is not of the layer of the file. -/
theorem checkFile_under_wider_rules (policy : Policy) (rules : Rules) (isMatch : Matcher)
    (file : String) (root : Tree) (wider : policy.IsWidenedBy rules) :
    let wide := policy.withRules rules
    ∃ walker widened, (checkFile policy isMatch file root).value = (walker, .ok ()) ∧
      (checkFile wide isMatch file root).value = (widened, .ok ()) ∧
      widened.state = walker.state ∧ widened.package = walker.package ∧
      widened.layer = walker.layer ∧ widened.edges = walker.edges ∧
      (widened.violations = walker.violations.filter fun violation =>
        ¬ violation.IsLifted wide isMatch walker.layer) ∧
      (∀ rule ≠ Violation.forbiddenImport,
        (widened.violations.filter fun violation => violation.rule = rule) =
          walker.violations.filter fun violation => violation.rule = rule) ∧
      ∀ others : Rules,
        ∀ violation ∈ (checkFile (policy.withRules others) isMatch file root).value.1.violations,
          ∀ package, violation.package = some package →
            policy.layerOf? isMatch package ≠ walker.layer := by
  intro wide
  obtain ⟨walker, violations, ended, widened, lifted⟩ :=
    checkFile_withRules policy rules isMatch file root
  refine ⟨walker, _, ended, widened, rfl, rfl, rfl, rfl, lifted wider, ?_, ?_⟩
  · intro rule other
    rw [lifted wider, List.filter_filter]
    apply List.filter_congr
    intro violation _
    by_cases same : violation.rule = rule
    · have kept : ¬ violation.IsLifted wide isMatch walker.layer :=
        Violation.not_isLifted_of_rule_ne (same ▸ other)
      rw [decide_eq_true kept, Bool.and_true]
    · rw [decide_eq_false same, Bool.false_and]
  · intro others violation member package reported
    obtain ⟨same, _, sameEnded, otherEnded, -⟩ := checkFile_withRules policy others isMatch file root
    have differs := layer_ne_of_mem_checkFile (policy.withRules others) isMatch file root member reported
    rw [otherEnded] at differs
    obtain rfl : same = walker := (Prod.mk.inj (sameEnded.symm.trans ended)).1
    exact differs

/-- A file with an import from a layer that is listed later, one from a layer that is not listed at all,
one from its own layer, and one that has no layer. Before, there is no entry for the layer of the file. -/
theorem checkFile_under_one_more_rule :
    let policy : Policy :=
      { baseDir := "/p"
        layers := [⟨"upper", ["a/*"]⟩, ⟨"lower", ["b"]⟩, ⟨"other", ["c"]⟩]
        rules := [("lower", ["other"])] }
    let rules : Rules := [("lower", ["upper", "other"]), ("upper", ["lower"])]
    let specifier (text : String) : Tree :=
      .node { kind := "import_statement" }
        [.node { kind := "string", content := Text.Utf8.encode text, field := some "source" } []]
    let root : Tree :=
      .node { kind := "program" } [specifier "b", specifier "c", specifier "./y", specifier "d"]
    policy.IsWidenedBy rules ∧
      ∃ walker widened, (checkFile policy Glob.isMatch "/p/a/x.ts" root).value = (walker, .ok ()) ∧
        (checkFile (policy.withRules rules) Glob.isMatch "/p/a/x.ts" root).value = (widened, .ok ()) ∧
        widened.edges = walker.edges ∧
        walker.violations.map Violation.package = [some "b", some "c", some "d"] ∧
        widened.violations.map Violation.package = [some "c", some "d"] := by
  intro policy rules specifier root
  have wider : policy.IsWidenedBy rules := by
    intro layer target listed
    by_cases isLower : layer = "lower"
    · subst isLower
      obtain rfl : target = "other" := List.mem_singleton.mp listed
      decide
    · have differs : (layer == "lower") = false := beq_eq_false_iff_ne.mpr isLower
      have unlisted : policy.targetsOf layer = [] := by
        simp [Policy.targetsOf, Policy.allowed?, policy, List.lookup_cons, List.lookup_nil, differs]
      rw [unlisted] at listed
      exact absurd listed List.not_mem_nil
  obtain ⟨walker, widened, ended, widenedEnded, -, -, -, edges, -⟩ :=
    checkFile_under_wider_rules policy rules Glob.isMatch "/p/a/x.ts" root wider
  refine ⟨wider, walker, widened, ended, widenedEnded, edges, ?_, ?_⟩
  · have computed : (checkFile policy Glob.isMatch "/p/a/x.ts" root).value.1.violations.map
        Violation.package = [some "b", some "c", some "d"] := by decide +kernel
    rw [ended] at computed
    exact computed
  · have computed : (checkFile (policy.withRules rules) Glob.isMatch "/p/a/x.ts"
        root).value.1.violations.map Violation.package = [some "c", some "d"] := by decide +kernel
    rw [widenedEnded] at computed
    exact computed

end LayerLint
