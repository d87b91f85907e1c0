import LayerLint.Glob
import LayerLint.Proofs.Classification
import Mathlib.Data.List.Basic

/-!
# The first matching pattern of a layer table

Layers are tried one after the other, and the patterns of each layer one after the other. This file
reads the two nested searches as one search through the list of all patterns of the table, each with the
layer that it belongs to. The search stops at the first match, and no pattern behind it is tested. It
follows what appending two tables and rearranging the patterns of a layer do to the layer found.
-/

namespace LayerLint
namespace Layer

/-- The patterns of a table in the order of the table, each with the layer that it belongs to. -/
def declared (layers : List Layer) : List (Layer × String) :=
  layers.flatMap fun layer => layer.patterns.map (Prod.mk layer)

/-- A search through patterns with their layers ends at its first match: no pair before it matches. -/
structure EndsAt (isMatch : Matcher) (package : String) (pairs before : List (Layer × String))
    (found : Layer × String) : Prop where
  passed : before ++ [found] <+: pairs
  unmatched : ∀ pair ∈ before, isMatch package pair.2 = false
  matched : isMatch package found.2 = true

theorem declared_cons (layer : Layer) (layers : List Layer) :
    declared (layer :: layers) = layer.patterns.map (Prod.mk layer) ++ declared layers := rfl

theorem map_snd_append (layer : Layer) (patterns : List String) (pairs : List (Layer × String)) :
    (patterns.map (Prod.mk layer) ++ pairs).map Prod.snd = patterns ++ pairs.map Prod.snd := by
  rw [List.map_append, List.map_map]
  exact congrArg (· ++ pairs.map Prod.snd) (List.map_id patterns)

namespace EndsAt

variable {isMatch : Matcher} {package : String} {pairs before : List (Layer × String)}
  {found : Layer × String}

theorem mem (ended : EndsAt isMatch package pairs before found) : found ∈ pairs :=
  ended.passed.subset (List.mem_append_right before (List.mem_singleton_self found))

theorem append_right (ended : EndsAt isMatch package pairs before found)
    (rest : List (Layer × String)) : EndsAt isMatch package (pairs ++ rest) before found :=
  ⟨ended.passed.trans (List.prefix_append pairs rest), ended.unmatched, ended.matched⟩

theorem append_left (ended : EndsAt isMatch package pairs before found)
    {front : List (Layer × String)} (missed : ∀ pair ∈ front, isMatch package pair.2 = false) :
    EndsAt isMatch package (front ++ pairs) (front ++ before) found := by
  refine ⟨?_, List.forall_mem_append.mpr ⟨missed, ended.unmatched⟩, ended.matched⟩
  rw [List.append_assoc]
  exact (List.prefix_append_right_inj front).mpr ended.passed

end EndsAt

section Search

variable (isMatch : Matcher) (debug : Int) (package : String)

theorem tests_accepts_of_match {pattern : String} (matched : isMatch package pattern = true)
    (name : String) (patterns : List String) :
    (accepts isMatch debug package name (pattern :: patterns)).tests = [pattern] := by
  simp [accepts, matched]

theorem tests_accepts_of_no_match {pattern : String} (unmatched : isMatch package pattern = false)
    (name : String) (patterns : List String) :
    (accepts isMatch debug package name (pattern :: patterns)).tests =
      pattern :: (accepts isMatch debug package name patterns).tests := by
  simp [accepts, unmatched]

/-- The patterns of one layer are tested up to the first match, or all of them. -/
theorem tests_accepts_cases (layer : Layer) (patterns : List String) :
    ((∀ pattern ∈ patterns, isMatch package pattern = false) ∧
        (accepts isMatch debug package layer.name patterns).tests = patterns) ∨
      ∃ before found, EndsAt isMatch package (patterns.map (Prod.mk layer)) before found ∧
        (accepts isMatch debug package layer.name patterns).tests =
          (before ++ [found]).map Prod.snd := by
  induction patterns with
  | nil => exact .inl ⟨by simp, rfl⟩
  | cons first patterns ih =>
      cases tested : isMatch package first with
      | true =>
          refine .inr ⟨[], (layer, first), ⟨⟨_, rfl⟩, by simp, tested⟩, ?_⟩
          exact tests_accepts_of_match isMatch debug package tested layer.name patterns
      | false =>
          rw [tests_accepts_of_no_match isMatch debug package tested]
          rcases ih with ⟨missed, tests⟩ | ⟨before, found, ended, tests⟩
          · exact .inl ⟨List.forall_mem_cons.mpr ⟨tested, missed⟩, by rw [tests]⟩
          · refine .inr ⟨[(layer, first)] ++ before, found, ?_, by rw [tests]; rfl⟩
            exact ended.append_left (List.forall_mem_singleton.mpr tested)

theorem search_of_accepts {layer : Layer}
    (accepted : layer.patterns.any (isMatch package) = true) (layers : List Layer) :
    (search isMatch debug package (layer :: layers)).value = some layer.name ∧
      (search isMatch debug package (layer :: layers)).tests =
        (accepts isMatch debug package layer.name layer.patterns).tests := by
  simp only [search, Traced.value_bind, Traced.tests_bind, value_accepts, accepted, if_true,
    Traced.value_pure, Traced.tests_pure, Traced.tests_trace, List.append_nil, and_self]

theorem search_of_not_accepts {layer : Layer}
    (rejected : ¬ layer.patterns.any (isMatch package) = true) (layers : List Layer) :
    (search isMatch debug package (layer :: layers)).value =
        (search isMatch debug package layers).value ∧
      (search isMatch debug package (layer :: layers)).tests =
        (accepts isMatch debug package layer.name layer.patterns).tests ++
          (search isMatch debug package layers).tests := by
  simp only [search, Traced.value_bind, Traced.tests_bind, value_accepts, if_neg rejected, and_self]

/-- The nested searches are one search through the whole table. -/
theorem search_cases (layers : List Layer) :
    ((∀ pair ∈ declared layers, isMatch package pair.2 = false) ∧
        (search isMatch debug package layers).value = none ∧
        (search isMatch debug package layers).tests = (declared layers).map Prod.snd) ∨
      ∃ before found, EndsAt isMatch package (declared layers) before found ∧
        (search isMatch debug package layers).value = some found.1.name ∧
        (search isMatch debug package layers).tests = (before ++ [found]).map Prod.snd := by
  induction layers with
  | nil => exact .inl ⟨by simp [declared], rfl, rfl⟩
  | cons layer layers ih =>
      rw [declared_cons]
      rcases tests_accepts_cases isMatch debug package layer layer.patterns with
        ⟨missed, here⟩ | ⟨before, found, ended, here⟩
      · -- The layer has no match, so the search goes on behind its patterns.
        have rejected : ¬ layer.patterns.any (isMatch package) = true := by
          rw [List.any_eq_true]
          rintro ⟨pattern, inside, matched⟩
          rw [missed pattern inside] at matched
          exact Bool.false_ne_true matched
        have missedHere : ∀ pair ∈ layer.patterns.map (Prod.mk layer),
            isMatch package pair.2 = false := List.forall_mem_map.mpr missed
        obtain ⟨value, tests⟩ := search_of_not_accepts isMatch debug package rejected layers
        rw [value, tests, here]
        rcases ih with ⟨missedBehind, noValue, behind⟩ | ⟨before, found, ended, foundName, behind⟩
        · refine .inl ⟨List.forall_mem_append.mpr ⟨missedHere, missedBehind⟩, noValue, ?_⟩
          rw [behind, map_snd_append]
        · refine .inr ⟨_, found, ended.append_left missedHere, foundName, ?_⟩
          rw [behind, List.append_assoc, map_snd_append]
      · obtain ⟨pattern, inside, rfl⟩ := List.mem_map.mp ended.mem
        have accepted : layer.patterns.any (isMatch package) = true :=
          List.any_eq_true.mpr ⟨pattern, inside, ended.matched⟩
        obtain ⟨value, tests⟩ := search_of_accepts isMatch debug package accepted layers
        exact .inr ⟨before, (layer, pattern), ended.append_right _, value, tests.trans here⟩

/-- The answers for patterns that are not tested play no part in a search. -/
theorem accepts_congr {other : Matcher} (name : String) {patterns : List String}
    (agree : ∀ pattern ∈ (accepts isMatch debug package name patterns).tests,
      other package pattern = isMatch package pattern) :
    accepts other debug package name patterns = accepts isMatch debug package name patterns := by
  induction patterns with
  | nil => rfl
  | cons first patterns ih =>
      cases tested : isMatch package first with
      | true =>
          rw [tests_accepts_of_match isMatch debug package tested] at agree
          have same := agree first List.mem_cons_self
          simp only [accepts, same, tested, if_true]
      | false =>
          rw [tests_accepts_of_no_match isMatch debug package tested] at agree
          have same := agree first List.mem_cons_self
          have behind := ih fun pattern member => agree pattern (List.mem_cons_of_mem first member)
          simp only [accepts, same, tested, Bool.false_eq_true, if_false, behind]

theorem search_congr {other : Matcher} {layers : List Layer}
    (agree : ∀ pattern ∈ (search isMatch debug package layers).tests,
      other package pattern = isMatch package pattern) :
    search other debug package layers = search isMatch debug package layers := by
  induction layers with
  | nil => rfl
  | cons layer layers ih =>
      by_cases accepted : layer.patterns.any (isMatch package) = true
      · rw [(search_of_accepts isMatch debug package accepted layers).2] at agree
        have here := accepts_congr isMatch debug package layer.name agree
        rw [search, search, here]
        apply Traced.bind_congr
        rw [value_accepts, if_pos accepted, if_pos accepted]
      · rw [(search_of_not_accepts isMatch debug package accepted layers).2] at agree
        have here := accepts_congr isMatch debug package layer.name fun pattern member =>
          agree pattern (List.mem_append_left _ member)
        have behind := ih fun pattern member => agree pattern (List.mem_append_right _ member)
        rw [search, search, here, behind]

theorem value_classify_eq_none_iff (layers : List Layer) :
    (classify layers isMatch debug package).value = none ↔
      ∀ layer ∈ layers, ∀ pattern ∈ layer.patterns, isMatch package pattern = false := by
  rw [value_classify]
  simp

theorem value_classify_append (first second : List Layer) :
    (classify (first ++ second) isMatch debug package).value =
      (classify first isMatch debug package).value.or
        (classify second isMatch debug package).value := by
  rw [value_classify, value_classify, value_classify, List.find?_append, Option.map_or]

theorem value_classify_singleton_perm (name : String) {patterns arranged : List String}
    (rearranged : patterns.Perm arranged) :
    (classify [⟨name, patterns⟩] isMatch debug package).value =
      (classify [⟨name, arranged⟩] isMatch debug package).value := by
  have same : patterns.any (isMatch package) = arranged.any (isMatch package) := rearranged.any_eq
  rw [value_classify, value_classify, List.find?_singleton, List.find?_singleton, same]
  split
  · rfl
  · rfl

end Search

/-- The first declared layer with a matching pattern wins, and no pattern behind its first match is
tested. -/
theorem classify_finds_first_match (isMatch : Matcher) (debug : Int) (package : String) :
    (∀ layers,
      ((∀ pair ∈ declared layers, isMatch package pair.2 = false) ∧
          (classify layers isMatch debug package).value = none ∧
          (classify layers isMatch debug package).tests = (declared layers).map Prod.snd) ∨
        ∃ before found, EndsAt isMatch package (declared layers) before found ∧
          (classify layers isMatch debug package).value = some found.1.name ∧
          (classify layers isMatch debug package).tests = (before ++ [found]).map Prod.snd) ∧
    (∀ layers, (classify layers isMatch debug package).value = none ↔
      ∀ layer ∈ layers, ∀ pattern ∈ layer.patterns, isMatch package pattern = false) ∧
    (∀ layers other,
      (∀ pattern ∈ (classify layers isMatch debug package).tests,
        other package pattern = isMatch package pattern) →
      classify layers other debug package = classify layers isMatch debug package) ∧
    (∀ first second, (classify (first ++ second) isMatch debug package).value =
      (classify first isMatch debug package).value.or
        (classify second isMatch debug package).value) ∧
    (∀ front name patterns arranged back, patterns.Perm arranged →
      (classify (front ++ ⟨name, patterns⟩ :: back) isMatch debug package).value =
        (classify (front ++ ⟨name, arranged⟩ :: back) isMatch debug package).value) := by
  refine ⟨?_, ?_, ?_, ?_, ?_⟩
  · exact search_cases isMatch debug package
  · exact value_classify_eq_none_iff isMatch debug package
  · intro layers other agree
    rw [classify, classify, search_congr isMatch debug package agree]
  · exact value_classify_append isMatch debug package
  · intro front name patterns arranged back rearranged
    have apart (listed : List String) : front ++ ⟨name, listed⟩ :: back =
        front ++ ([⟨name, listed⟩] ++ back) := rfl
    rw [apart, apart, value_classify_append, value_classify_append, value_classify_append,
      value_classify_append, value_classify_singleton_perm isMatch debug package name rearranged]

/-- A table with a repeated name and a layer without patterns, and its last patterns rearranged. -/
theorem classify_finds_first_match_under_repeated_name :
    let front : List Layer := [⟨"ui", []⟩, ⟨"db", ["x/*", "y"]⟩]
    let found := classify (front ++ [⟨"ui", ["q", "**/Z", "z"]⟩]) Glob.isMatch 3 "lib/z"
    ["q", "**/Z", "z"].Perm ["z", "**/Z", "q"] ∧ found.value = some "ui" ∧
      found.tests = ["x/*", "y", "q", "**/Z"] ∧
      (classify (front ++ [⟨"ui", ["z", "**/Z", "q"]⟩]) Glob.isMatch 3 "lib/z").value =
        some "ui" := by
  intro front found
  have rearranged : ["q", "**/Z", "z"].Perm ["z", "**/Z", "q"] := by decide
  have value : found.value = some "ui" := by decide +kernel
  have tests : found.tests = ["x/*", "y", "q", "**/Z"] := by decide +kernel
  obtain ⟨-, -, -, -, rearranges⟩ := classify_finds_first_match Glob.isMatch 3 "lib/z"
  have same := rearranges front "ui" _ _ [] rearranged
  exact ⟨rearranged, value, tests, same.symm.trans value⟩

end Layer
end LayerLint
