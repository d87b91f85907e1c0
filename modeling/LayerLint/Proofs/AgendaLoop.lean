import LayerLint.Proofs.NodeAddresses

/-!
# The loop over an agenda

A walk is a loop that takes one entry after the other off an agenda, visits the node of the entry, and puts
the children of the node where the entry was. The entries of an agenda stand for the nodes that are still to
be visited: their own nodes and all nodes below them, in document order. Each turn of the loop visits the
first of these nodes and leaves the others, so that the loop is over when they are used up. Their number is
bounded by the size of the tree from the start.
-/

namespace LayerLint

def Entry.isDump (entry : Entry) : Bool :=
  entry.severity == .trace .nodes

namespace Traced

variable {α β : Type}

/-- The entries of a record that show nodes. -/
def dumps (computation : Traced α) : List Entry :=
  computation.log.filter Entry.isDump

@[simp] theorem dumps_pure (value : α) : (pure value : Traced α).dumps = [] := rfl

@[simp] theorem dumps_bind (first : Traced α) (next : α → Traced β) :
    (first >>= next).dumps = first.dumps ++ (next first.value).dumps :=
  List.filter_append first.log (next first.value).log

@[simp] theorem dumps_map (function : α → β) (computation : Traced α) :
    (function <$> computation).dumps = computation.dumps := by
  rw [dumps, log_map, dumps]

@[simp] theorem dumps_test (pattern : String) : (test pattern).dumps = [] := rfl

theorem dumps_trace (debug : Int) {detail : Detail} (otherDetail : detail ≠ .nodes)
    (channel : Channel) (text : String) : (trace debug detail channel text).dumps = [] := by
  simp [dumps, trace, Entry.isDump, otherDetail]

end Traced

namespace Layer

@[simp] theorem dumps_accepts (isMatch : Matcher) (debug : Int) (package name : String)
    (patterns : List String) : (accepts isMatch debug package name patterns).dumps = [] := by
  induction patterns with
  | nil => rfl
  | cons pattern patterns ih =>
      by_cases matched : isMatch package pattern = true
      · simp [accepts, matched, Traced.dumps_trace]
      · simp [accepts, matched, Traced.dumps_trace, ih]

@[simp] theorem dumps_search (isMatch : Matcher) (debug : Int) (package : String)
    (layers : List Layer) : (search isMatch debug package layers).dumps = [] := by
  induction layers with
  | nil => simp [search, Traced.dumps_trace]
  | cons layer layers ih =>
      by_cases accepted : layer.patterns.any (isMatch package) = true
      · simp [search, accepted, Traced.dumps_trace]
      · simp [search, accepted, ih]

@[simp] theorem dumps_classify (layers : List Layer) (isMatch : Matcher) (debug : Int)
    (package : String) : (classify layers isMatch debug package).dumps = [] := by
  simp [classify, Traced.dumps_trace]

end Layer

/-- The entry that shows a visited node: the kinds of the nodes above it, its own kind, and its text. -/
def Tree.Visit.dump (visit : Visit) : Entry :=
  ⟨.trace .nodes, .walker, visit.path ++ ":" ++ visit.node.kind ++ " " ++ visit.node.text⟩

namespace Walker

theorem dumps_checkImport (walker : Walker) (own : String) (node : Tree) :
    (walker.checkImport own node).dumps = [] := by
  simp only [checkImport, Traced.dumps_bind, Layer.dumps_classify]
  cases (Layer.classify walker.policy.layers walker.isMatch walker.policy.debug
      (walker.targetOf node)).value with
  | none => simp [Traced.dumps_trace]
  | some target =>
      by_cases same : target = own
      · simp [same, Traced.dumps_trace]
      · by_cases listed : target ∈ (walker.policy.allowed? own).getD []
        · simp [same, listed, Traced.dumps_trace]
        · simp [same, listed, Traced.dumps_trace]

theorem dumps_dump (walker : Walker) (visit : Tree.Visit) :
    (walker.dump visit.path visit.node).dumps =
      if Detail.nodes.level ≤ walker.policy.debug then [visit.dump] else [] := by
  by_cases shown : Detail.nodes.level ≤ walker.policy.debug
  · simp [dump, Traced.dumps, Traced.trace, shown, Entry.isDump, Tree.Visit.dump]
  · simp [dump, Traced.dumps, Traced.trace, shown]

theorem dumps_inspect (own : String) (walker : Walker) (visit : Tree.Visit) :
    (inspect own walker visit).dumps =
      if Detail.nodes.level ≤ walker.policy.debug then [visit.dump] else [] := by
  by_cases imported : visit.isImport = true
  · have samePolicy : (walker.checkImport own visit.node).value.policy = walker.policy := by
      rw [value_checkImport]
      rfl
    simp [inspect, imported, dumps_checkImport, dumps_dump, samePolicy]
  · simp [inspect, imported, dumps_dump]

def call (walker : Walker) (entry : Tree.Visit) : Traced (Walker × Except WalkFault Advance) :=
  walker.visit (some entry.parent) entry.path entry.node

/-- A walk between two turns of its loop: the walker, the agenda, and the log so far. -/
structure Pass where
  walker : Walker
  agenda : List Tree.Visit
  log : List Entry

def Pass.start (walker : Walker) (root : Tree) : Pass :=
  ⟨walker, agendaOf "" root, []⟩

/-- A turn takes the first entry off the agenda and visits its node. If the walker goes on, the children of
the node take the place of the entry, and if it stops, nothing is left to do. -/
inductive Turn : Pass → Tree.Visit → Pass → Prop
  | descend {walker next : Walker} {entry : Tree.Visit} {agenda : List Tree.Visit} {log : List Entry}
      (visited : (walker.call entry).value = (next, .ok .descend)) :
      Turn ⟨walker, entry :: agenda, log⟩ entry
        ⟨next, agendaOf (entry.path ++ ":" ++ entry.node.kind) entry.node ++ agenda,
          log ++ (walker.call entry).log⟩
  | stop {walker next : Walker} {entry : Tree.Visit} {agenda : List Tree.Visit} {log : List Entry}
      (visited : (walker.call entry).value = (next, .ok .stop)) :
      Turn ⟨walker, entry :: agenda, log⟩ entry ⟨next, [], log ++ (walker.call entry).log⟩

/-- Consecutive turns, with the entries that they take off the agenda. -/
inductive Turns : Pass → List Tree.Visit → Pass → Prop
  | none {pass : Pass} : Turns pass [] pass
  | next {pass next last : Pass} {entry : Tree.Visit} {entries : List Tree.Visit}
      (first : Turn pass entry next) (rest : Turns next entries last) :
      Turns pass (entry :: entries) last

/-- How the loop comes to its end from here, and all that it will have written by then. -/
def Pass.outcome (pass : Pass) : (Walker × Except WalkFault Unit) × List Entry :=
  ((pass.walker.work pass.agenda).value, pass.log ++ (pass.walker.work pass.agenda).log)

/-- The nodes that are still to be visited. -/
def Pass.pending (pass : Pass) : List Tree.Visit :=
  pass.agenda.flatMap Tree.Visit.spread

section Turns

variable {pass next last : Pass} {entry : Tree.Visit} {entries : List Tree.Visit}

theorem Turn.outcome_eq (turn : Turn pass entry next) : pass.outcome = next.outcome := by
  cases turn with
  | descend visited =>
      unfold call at visited
      simp [Pass.outcome, work, visited, call]
  | stop visited =>
      unfold call at visited
      simp [Pass.outcome, work, visited, call]

theorem Turns.outcome_eq (turns : Turns pass entries last) : pass.outcome = last.outcome := by
  induction turns with
  | none => rfl
  | next first rest ih => exact first.outcome_eq.trans ih

theorem Pass.outcome_of_empty (walker : Walker) (log : List Entry) :
    (Pass.mk walker [] log).outcome = ((walker, .ok ()), log) := by
  simp [outcome, work]

/-- A walker whose file has a layer, in the middle of a walk. -/
structure IsWalking (walker : Walker) (policy : Policy) (own : String) : Prop where
  classified : walker.state = .classified
  layered : walker.layer = some own
  samePolicy : walker.policy = policy

variable {policy : Policy} {own : String}

theorem IsWalking.after_inspect {walker : Walker} (walking : walker.IsWalking policy own)
    (visit : Tree.Visit) : (inspect own walker visit).value.IsWalking policy own := by
  rw [value_inspect]
  exact ⟨walking.classified, walking.layered, walking.samePolicy⟩

/-- In the middle of a walk a turn is possible as long as there is an entry, and it inspects the node of the
first one. -/
theorem IsWalking.turn_iff (walking : pass.walker.IsWalking policy own) :
    Turn pass entry next ↔ ∃ agenda, pass.agenda = entry :: agenda ∧
      next = ⟨(inspect own pass.walker entry).value,
        agendaOf (entry.path ++ ":" ++ entry.node.kind) entry.node ++ agenda,
        pass.log ++ (inspect own pass.walker entry).log⟩ := by
  obtain ⟨walker, agenda, log⟩ := pass
  have called : walker.call entry = (do
      let next ← inspect own walker entry
      pure (next, .ok .descend)) :=
    visit_eq_inspect walker own entry walking.classified walking.layered
  have value : (walker.call entry).value = ((inspect own walker entry).value, .ok .descend) := by
    rw [called]
    rfl
  have written : (walker.call entry).log = (inspect own walker entry).log := by
    rw [called]
    exact List.append_nil _
  constructor
  · intro turn
    cases turn with
    | descend visited =>
        obtain ⟨rfl, -⟩ := Prod.mk.inj (visited.symm.trans value)
        exact ⟨_, rfl, by rw [written]⟩
    | stop visited =>
        -- Only a walker that is not in the middle of a walk stops.
        obtain ⟨-, stops⟩ := Prod.mk.inj (visited.symm.trans value)
        cases stops
  · rintro ⟨agenda, rfl, rfl⟩
    rw [← written]
    exact .descend value

theorem Turn.isWalking (turn : Turn pass entry next) (walking : pass.walker.IsWalking policy own) :
    next.walker.IsWalking policy own := by
  obtain ⟨agenda, -, rfl⟩ := walking.turn_iff.mp turn
  exact walking.after_inspect entry

theorem Turn.cons_pending (turn : Turn pass entry next)
    (walking : pass.walker.IsWalking policy own) : entry :: next.pending = pass.pending := by
  obtain ⟨agenda, first, rfl⟩ := walking.turn_iff.mp turn
  rw [Pass.pending, Pass.pending, first, Tree.flatMap_spread_cons]

theorem Turn.filter_isDump (turn : Turn pass entry next) (walking : pass.walker.IsWalking policy own)
    (shown : Detail.nodes.level ≤ policy.debug) :
    next.log.filter Entry.isDump = pass.log.filter Entry.isDump ++ [entry.dump] := by
  obtain ⟨agenda, -, rfl⟩ := walking.turn_iff.mp turn
  have written := dumps_inspect own pass.walker entry
  rw [walking.samePolicy, if_pos shown, Traced.dumps] at written
  rw [List.filter_append, written]

/-- Whatever turns were made, the entries that they took off and the nodes that are still to be visited are
the nodes that were to be visited at first. -/
theorem Turns.append_pending (turns : Turns pass entries last)
    (walking : pass.walker.IsWalking policy own) : entries ++ last.pending = pass.pending := by
  induction turns with
  | none => rfl
  | next first rest ih =>
      rw [List.cons_append, ih (first.isWalking walking), first.cons_pending walking]

theorem Turns.filter_isDump (turns : Turns pass entries last) (walking : pass.walker.IsWalking policy own)
    (shown : Detail.nodes.level ≤ policy.debug) :
    last.log.filter Entry.isDump =
      pass.log.filter Entry.isDump ++ entries.map Tree.Visit.dump := by
  induction turns with
  | none => simp
  | next first rest ih =>
      rw [ih (first.isWalking walking), first.filter_isDump walking shown]
      simp

theorem Pass.pending_eq_nil_iff : pass.pending = [] ↔ pass.agenda = [] := by
  rw [pending]
  cases pass.agenda with
  | nil => simp
  | cons entry agenda =>
      rw [Tree.flatMap_spread_cons]
      simp

/-- The turns go on until every node that was to be visited has been visited. -/
theorem exists_turns (pass : Pass) (walking : pass.walker.IsWalking policy own) :
    ∃ ended log, Turns pass pass.pending ⟨ended, [], log⟩ := by
  -- Every turn uses up one of the nodes that are still to be visited.
  generalize visits : pass.pending = entries
  induction entries generalizing pass with
  | nil =>
      obtain ⟨walker, agenda, log⟩ := pass
      obtain rfl : agenda = [] := Pass.pending_eq_nil_iff.mp visits
      exact ⟨walker, log, .none⟩
  | cons entry entries ih =>
      cases agenda : pass.agenda with
      | nil =>
          rw [Pass.pending_eq_nil_iff.mpr agenda] at visits
          cases visits
      | cons first rest =>
          have turn := walking.turn_iff.mpr ⟨rest, agenda, rfl⟩
          obtain ⟨rfl, others⟩ := List.cons.inj ((turn.cons_pending walking).trans visits)
          obtain ⟨ended, log, turns⟩ := ih _ (turn.isWalking walking) others
          exact ⟨ended, log, .next turn turns⟩

end Turns

/-- The loop of a walker whose file has a layer comes to its end with an empty agenda, after one turn for each
proper descendant of the root. Turns cannot be made in any other way, and none of them changes what the
traversal comes to. The addresses of the visited nodes are all those that lead below the root, in ascending
order: no node is visited twice, and each one is visited before the nodes below it and after those below its
elder siblings. The path of a visit names the kinds of the ancestors strictly below the root. From a debug
number of five on, the entries that show nodes show the visited ones in turn. -/
theorem traverse_visits_descendants_in_preorder (walker : Walker) (own : String) (root : Tree)
    (classified : walker.state = .classified) (layered : walker.layer = some own) :
    ∃ visits addresses ended,
      Turns (.start walker root) visits ⟨ended, [], (walker.traverse root).log⟩ ∧
      (walker.traverse root).value = (ended, .ok ()) ∧
      (∀ others pass, Turns (.start walker root) others pass →
        others <+: visits ∧ (pass.agenda = [] → others = visits) ∧
          pass.outcome = ((walker.traverse root).value, (walker.traverse root).log)) ∧
      addresses.Pairwise (· < ·) ∧
      (∀ address, address ∈ addresses ↔
        address ≠ [] ∧ (Tree.descend? none root address).isSome = true) ∧
      List.Forall₂ (Tree.Visit.IsAt root) addresses visits ∧
      (5 ≤ walker.policy.debug →
        (walker.traverse root).log.filter Entry.isDump = visits.map Tree.Visit.dump) := by
  have walking : (Pass.start walker root).walker.IsWalking walker.policy own :=
    ⟨classified, layered, rfl⟩
  have pending : (Pass.start walker root).pending = root.preorder :=
    (Tree.visits_eq_flatMap "" root).symm
  obtain ⟨ended, log, turns⟩ := exists_turns (.start walker root) walking
  rw [pending] at turns
  have outcome : (Pass.start walker root).outcome =
      ((walker.traverse root).value, (walker.traverse root).log) := rfl
  obtain ⟨value, rfl⟩ :=
    Prod.mk.inj (outcome.symm.trans (turns.outcome_eq.trans (Pass.outcome_of_empty ended log)))
  refine ⟨root.preorder, root.addresses, ended, turns, value, ?_, root.pairwise_lt_addresses,
    fun _ => Tree.mem_addresses_iff, root.forall₂_isAt_preorder, turns.filter_isDump walking⟩
  intro others pass made
  have left := made.append_pending walking
  rw [pending] at left
  refine ⟨⟨pass.pending, left⟩, fun finished => ?_, made.outcome_eq.symm.trans outcome⟩
  rw [← left, Pass.pending_eq_nil_iff.mpr finished, List.append_nil]

/-- A tree in which a block with two equal children stands twice, with an import in between. -/
theorem traverse_visits_equal_blocks :
    let policy : Policy := { baseDir := "/p", layers := [⟨"upper", ["a/*"]⟩], debug := 5 }
    let walker : Walker :=
      { policy, file := "/p/a/x.ts", state := .classified, package := "a/x", layer := some "upper" }
    let leaf : Tree := .node { kind := "identifier", content := Text.Utf8.encode "x" } []
    let block : Tree := .node { kind := "block" } [leaf, leaf]
    let clause : Tree :=
      .node { kind := "import_require_clause" }
        [.node { kind := "string", content := Text.Utf8.encode "'b'" } []]
    let root : Tree := .node { kind := "program" } [block, clause, block]
    walker.state = .classified ∧ walker.layer = some "upper" ∧
      ∃ visits addresses ended,
        Turns (.start walker root) visits ⟨ended, [], (walker.traverse root).log⟩ ∧
        List.Forall₂ (Tree.Visit.IsAt root) addresses visits ∧
        [] ∉ addresses ∧ [0, 1] ∈ addresses ∧ [2, 1] ∈ addresses ∧ [2, 2] ∉ addresses ∧
        visits.map (fun visit => visit.dump.text) =
          [":block ", ":block:identifier x", ":block:identifier x", ":import_require_clause ",
            ":import_require_clause:string 'b'", ":block ", ":block:identifier x",
            ":block:identifier x"] := by
  intro policy walker leaf block clause root
  obtain ⟨visits, addresses, ended, turns, -, -, -, listed, isAt, dumps⟩ :=
    traverse_visits_descendants_in_preorder walker "upper" root rfl rfl
  refine ⟨rfl, rfl, visits, addresses, ended, turns, isAt, ?_, ?_, ?_, ?_, ?_⟩
  · simp [listed]
  · rw [listed]
    decide +kernel
  · rw [listed]
    decide +kernel
  · rw [listed]
    decide +kernel
  · have texts := congrArg (List.map Entry.text) (dumps (by decide))
    rw [List.map_map] at texts
    refine Eq.trans texts.symm ?_
    decide +kernel

end Walker
end LayerLint
