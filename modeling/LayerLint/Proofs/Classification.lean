import LayerLint.Policy

/-!
# Classification as a search

Classifying a package writes trace entries and records the patterns that were tested. This file reads
off the value alone: the layer found is the first one with a matching pattern, whatever the debug
number is, and a package is excluded when some pattern of the list matches it. Computations with a
record obey the monad laws, since records are appended.
-/

namespace LayerLint

namespace Traced

variable {α β : Type}

theorem eq_of_parts {first second : Traced α} (value : first.value = second.value)
    (log : first.log = second.log) (tests : first.tests = second.tests) :
    first = second := by
  cases first
  cases second
  simp only [mk.injEq]
  exact ⟨value, log, tests⟩

instance : LawfulMonad Traced := by
  refine LawfulMonad.mk' Traced ?idMap ?pureBind ?bindAssoc
  case idMap =>
    intro α computation
    apply eq_of_parts
    · rfl
    · exact List.append_nil computation.log
    · exact List.append_nil computation.tests
  case pureBind =>
    intro α β value next
    rfl
  case bindAssoc =>
    intro α β γ first second third
    apply eq_of_parts
    · rfl
    · exact List.append_assoc first.log _ _
    · exact List.append_assoc first.tests _ _

/-- To go on in two ways gives the same when they agree on the value handed over. -/
theorem bind_congr {first : Traced α} {next other : α → Traced β}
    (agree : next first.value = other first.value) :
    first >>= next = first >>= other := by
  apply eq_of_parts
  · rw [value_bind, value_bind, agree]
  · rw [log_bind, log_bind, agree]
  · rw [tests_bind, tests_bind, agree]

@[simp] theorem value_map (function : α → β) (computation : Traced α) :
    (function <$> computation).value = function computation.value := rfl

@[simp] theorem log_map (function : α → β) (computation : Traced α) :
    (function <$> computation).log = computation.log :=
  List.append_nil computation.log

@[simp] theorem tests_map (function : α → β) (computation : Traced α) :
    (function <$> computation).tests = computation.tests :=
  List.append_nil computation.tests

@[simp] theorem tests_trace (debug : Int) (detail : Detail) (channel : Channel) (text : String) :
    (trace debug detail channel text).tests = [] := rfl

@[simp] theorem tests_test (pattern : String) : (test pattern).tests = [pattern] := rfl

end Traced

namespace Layer

@[simp] theorem value_accepts (isMatch : Matcher) (debug : Int) (package name : String)
    (patterns : List String) :
    (accepts isMatch debug package name patterns).value = patterns.any (isMatch package) := by
  induction patterns with
  | nil => rfl
  | cons pattern patterns ih =>
      by_cases matched : isMatch package pattern = true
      · simp [accepts, matched]
      · simp [accepts, matched, ih]

/-- A search gives the name of the first layer with a matching pattern. -/
@[simp] theorem value_search (isMatch : Matcher) (debug : Int) (package : String)
    (layers : List Layer) :
    (search isMatch debug package layers).value =
      (layers.find? fun layer => layer.patterns.any (isMatch package)).map Layer.name := by
  induction layers with
  | nil => rfl
  | cons layer layers ih =>
      by_cases accepted : layer.patterns.any (isMatch package) = true
      · simp only [search, Traced.value_bind, value_accepts, accepted, if_true,
          Traced.value_pure, List.find?_cons_of_pos, Option.map_some]
      · simp only [search, Traced.value_bind, value_accepts, accepted, if_false,
          List.find?_cons_of_neg, not_false_eq_true, ih, Bool.false_eq_true]

/-- The layer of a package does not depend on the debug number. -/
theorem value_classify (layers : List Layer) (isMatch : Matcher) (debug : Int)
    (package : String) :
    (classify layers isMatch debug package).value =
      (layers.find? fun layer => layer.patterns.any (isMatch package)).map Layer.name := by
  simp only [classify, Traced.value_bind, value_search]

@[simp] theorem value_isExcluded (isMatch : Matcher) (package : String) (patterns : List String) :
    (isExcluded isMatch package patterns).value = patterns.any (isMatch package) := by
  induction patterns with
  | nil => rfl
  | cons pattern patterns ih =>
      by_cases matched : isMatch package pattern = true
      · simp [isExcluded, matched]
      · simp [isExcluded, matched, ih]

end Layer
end LayerLint
