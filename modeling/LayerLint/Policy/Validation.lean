import LayerLint.Policy
import LayerLint.Policy.Error

/-!
# Validation of policies

Every layer that the rules name, as a source or as a target, has to be declared. Softer faults are
warnings: a layer without patterns, a layer that lists itself, and a target that is listed twice.
-/

namespace LayerLint
namespace Policy

/-- Names without repetitions in ascending order. -/
def ascending (names : List String) : List String :=
  names.eraseDups.mergeSort fun first second => decide (first ≤ second)

/-- All names that the rules use: each source and its targets. -/
def usedNames (policy : Policy) : List String :=
  policy.rules.flatMap fun rule => rule.1 :: rule.2

/-- The names that the rules use and no layer has, in ascending order. -/
def undeclared (policy : Policy) : List String :=
  ascending (policy.usedNames.filter fun name => !policy.layerNames.contains name)

/-- Something in a policy that is odd but usable. -/
inductive Warning
  | noPatterns (layer : String)
  | listsItself (layer : String)
  | listedTwice (layer target : String)
  deriving DecidableEq

/-- The text of a warning. -/
def Warning.message : Warning → String
  | .noPatterns layer => "Layer '" ++ layer ++ "' has no patterns and can never match"
  | .listsItself layer =>
      "Layer '" ++ layer ++ "' lists itself in rules (same-layer imports are always allowed)"
  | .listedTwice layer target =>
      "Layer '" ++ layer ++ "' lists '" ++ target ++ "' more than once in rules"

/-- The targets that a list names more than once, in ascending order. -/
def repeated (targets : List String) : List String :=
  ascending (targets.filter fun target => 1 < targets.count target)

/-- The warnings about one entry of the rules. -/
def ruleWarnings (layer : String) (targets : List String) : List Warning :=
  (if targets.contains layer then [.listsItself layer] else []) ++
    (repeated targets).map (.listedTwice layer)

/-- The warnings about a policy: first those about its layers, then those about its rules. -/
def warnings (policy : Policy) : List Warning :=
  ((policy.layers.filter fun layer => layer.patterns.isEmpty).map fun layer =>
      .noPatterns layer.name) ++
    policy.rules.flatMap fun rule => ruleWarnings rule.1 rule.2

/-- Write a warning to the log for each text. -/
def logWarnings : List String → Traced Unit
  | [] => pure ()
  | text :: texts => do
      Traced.warn .policy text
      logWarnings texts

/-- Check a policy. The texts of its warnings are logged and handed back. -/
def validate (policy : Policy) : Traced (Except ConfigFault (List String)) :=
  if policy.undeclared = [] then do
    let texts := policy.warnings.map Warning.message
    logWarnings texts
    pure (.ok texts)
  else pure (.error (.undeclaredLayers policy.undeclared))

end Policy
end LayerLint
