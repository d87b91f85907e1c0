import LayerLint.Json.Reader

/-!
# JSON that is nested too deep

Reading JSON breaks off at a number with too many digits. It also breaks off where more lists and tables are
open at once than the reader has levels for, if it gets that far; as long as it does not, the bound makes no
difference.
-/

namespace LayerLint

namespace Json

variable {cause : Breakdown}

theorem begin_eq_breakdown {stack : List Frame} {token : Token}
    (broken : State.begin stack token = .error (.breakdown cause)) :
    ∃ count, cause = .tooManyDigits count := by
  cases token with
  | oversized count =>
      cases broken
      exact ⟨count, rfl⟩
  | _ => simp [State.begin] at broken

theorem key_ne_breakdown (entries : List (Scalar × Value)) (stack : List Frame) (token : Token) :
    State.key entries stack token ≠ .error (.breakdown cause) := by
  unfold State.key
  split
  · split <;> simp
  · simp

theorem step_eq_breakdown {state : State} {token : Token}
    (broken : state.step token = .error (.breakdown cause)) :
    ∃ count, cause = .tooManyDigits count := by
  unfold State.step at broken
  split at broken
  all_goals
    first
    | exact begin_eq_breakdown broken
    | exact absurd broken (key_ne_breakdown _ _ _)
    | simp at broken

theorem run_eq_breakdown {state : State} {tokens : List Token}
    (broken : state.run tokens = .error (.breakdown cause)) :
    ∃ count, cause = .tooManyDigits count := by
  induction tokens generalizing state with
  | nil => simp [State.run] at broken
  | cons token tokens ih =>
      rw [State.run] at broken
      cases next : state.step token with
      | error fault =>
          rw [next] at broken
          cases broken
          exact step_eq_breakdown next
      | ok state =>
          rw [next] at broken
          exact ih broken

/-- Reading JSON breaks off only at a number with too many digits. -/
theorem parse_eq_breakdown {text : List Char} (broken : parse text = .error (.breakdown cause)) :
    ∃ count, cause = .tooManyDigits count := by
  unfold parse at broken
  cases done : (State.wantValue []).run (tokens text) with
  | error fault =>
      rw [done] at broken
      cases broken
      exact run_eq_breakdown done
  | ok state =>
      rw [done] at broken
      cases state <;> exact nomatch broken

/-- What is nested too deep when a word opens it. -/
inductive Opens : Token → Nesting → Prop
  | list : Opens .openList .jsonList
  | table : Opens .openTable .jsonTable

/-- The words can be read from a state on up to one that opens one list or table too many. -/
inductive Exceeds (levels : Nat) : State → List Token → Nesting → Prop
  | now {state next : State} {token : Token} {tokens : List Token} {nesting : Nesting}
      (opens : Opens token nesting) (stepped : state.step token = .ok next) (deep : levels < next.depth) :
      Exceeds levels state (token :: tokens) nesting
  | later {state next : State} {token : Token} {tokens : List Token} {nesting : Nesting}
      (stepped : state.step token = .ok next) (shallow : next.depth ≤ levels)
      (onward : Exceeds levels next tokens nesting) : Exceeds levels state (token :: tokens) nesting

/-- A text opens one list or table too many before anything else is wrong with it. -/
def NestsBeyond (levels : Nat) (text : List Char) (nesting : Nesting) : Prop :=
  Exceeds levels (.wantValue []) (tokens text) nesting

section Nesting

variable {levels : Nat} {state next : State} {token : Token} {nesting : Nesting} {text : List Char}

theorem depth_give_le (value : Value) (stack : List Frame) :
    (State.give value stack).depth ≤ stack.length := by
  cases stack with
  | nil => exact Nat.le_refl 0
  | cons frame stack => cases frame <;> exact Nat.le_refl _

theorem depth_begin_le {stack : List Frame} (begun : State.begin stack token = .ok next) :
    next.depth ≤ stack.length ∨ ∃ nesting, Opens token nesting := by
  cases token with
  | scalar value =>
      cases begun
      exact .inl (depth_give_le _ stack)
  | openList => exact .inr ⟨_, .list⟩
  | openTable => exact .inr ⟨_, .table⟩
  | _ => exact nomatch begun

theorem depth_key {entries : List (Scalar × Value)} {stack : List Frame}
    (read : State.key entries stack token = .ok next) : next.depth = stack.length + 1 := by
  unfold State.key at read
  split at read
  · split at read
    · cases read
      rfl
    · exact nomatch read
  · exact nomatch read

/-- Only a word that opens a list or a table adds to those that are open. -/
theorem depth_step_le (stepped : state.step token = .ok next) :
    next.depth ≤ state.depth ∨ ∃ nesting, Opens token nesting := by
  have given (value : Value) (stack : List Frame) : (State.give value stack).depth ≤ stack.length + 1 :=
    Nat.le_succ_of_le (depth_give_le value stack)
  unfold State.step at stepped
  split at stepped
  next stack => exact depth_begin_le stepped
  next stack =>
    cases stepped
    exact .inl (given _ stack)
  next stack _ => exact depth_begin_le stepped
  next stack =>
    cases stepped
    exact .inl (given _ stack)
  next stack _ => exact .inl (Nat.le_of_eq (depth_key stepped))
  next entries stack => exact .inl (Nat.le_of_eq (depth_key stepped))
  next entries key stack =>
    cases stepped
    exact .inl (Nat.le_refl _)
  next items stack =>
    cases stepped
    exact .inl (Nat.le_refl _)
  next items stack =>
    cases stepped
    exact .inl (given _ stack)
  next entries key stack =>
    cases stepped
    exact .inl (Nat.le_refl _)
  next entries key stack =>
    cases stepped
    exact .inl (given _ stack)
  next => exact nomatch stepped

theorem Opens.nesting_eq (opens : Opens token nesting) : token.nesting = nesting := by
  cases opens <;> rfl

theorem runWithin_of_exceeds {tokens : List Token} (exceeds : Exceeds levels state tokens nesting) :
    state.runWithin levels tokens = .error (.breakdown (.tooDeep nesting)) := by
  induction exceeds with
  | now opens stepped deep =>
      rw [State.runWithin, stepped, Except.bind, if_pos deep, opens.nesting_eq]
  | later stepped shallow onward ih =>
      rw [State.runWithin, stepped, Except.bind, if_neg (Nat.not_lt_of_le shallow), ih]

/-- Words that open no list or table too many are read as without a bound. -/
theorem runWithin_of_not_exceeds {tokens : List Token} (shallow : state.depth ≤ levels)
    (inReach : ∀ nesting, ¬ Exceeds levels state tokens nesting) :
    state.runWithin levels tokens = state.run tokens := by
  induction tokens generalizing state with
  | nil => rw [State.runWithin, State.run]
  | cons token tokens ih =>
      rw [State.runWithin, State.run]
      cases stepped : state.step token with
      | error fault => rfl
      | ok next =>
          have stays : next.depth ≤ levels := by
            obtain kept | ⟨nesting, opens⟩ := depth_step_le stepped
            · exact Nat.le_trans kept shallow
            · exact Nat.le_of_not_lt fun deep => inReach nesting (.now opens stepped deep)
          rw [Except.bind, Except.bind, if_neg (Nat.not_lt_of_le stays)]
          exact ih stays fun nesting onward => inReach nesting (.later stepped stays onward)

theorem parseWithin_of_nestsBeyond (beyond : NestsBeyond levels text nesting) :
    parseWithin levels text = .error (.breakdown (.tooDeep nesting)) := by
  rw [parseWithin, runWithin_of_exceeds beyond]
  rfl

/-- A text that opens no list or table too many is read as without a bound. -/
theorem parseWithin_of_not_nestsBeyond (inReach : ∀ nesting, ¬ NestsBeyond levels text nesting) :
    parseWithin levels text = parse text := by
  rw [parseWithin, parse, runWithin_of_not_exceeds (Nat.zero_le levels) inReach]

theorem parseWithin_eq_ok_iff {value : Value} :
    parseWithin levels text = .ok value ↔
      parse text = .ok value ∧ ∀ nesting, ¬ NestsBeyond levels text nesting := by
  by_cases beyond : ∃ nesting, NestsBeyond levels text nesting
  · obtain ⟨nesting, beyond⟩ := beyond
    rw [parseWithin_of_nestsBeyond beyond]
    exact iff_of_false (fun read => nomatch read) fun read => read.2 nesting beyond
  · have inReach := not_exists.mp beyond
    rw [parseWithin_of_not_nestsBeyond inReach, and_iff_left inReach]

/-- Reading JSON with a bound breaks off only at a number with too many digits, or at one list or table too
many. -/
theorem parseWithin_eq_breakdown_iff {cause : Breakdown} :
    parseWithin levels text = .error (.breakdown cause) ↔
      (∃ nesting, NestsBeyond levels text nesting ∧ cause = .tooDeep nesting) ∨
      ∃ count, parse text = .error (.breakdown (.tooManyDigits count)) ∧
        (∀ nesting, ¬ NestsBeyond levels text nesting) ∧ cause = .tooManyDigits count := by
  constructor
  · intro broken
    by_cases beyond : ∃ nesting, NestsBeyond levels text nesting
    · obtain ⟨nesting, beyond⟩ := beyond
      rw [parseWithin_of_nestsBeyond beyond] at broken
      cases broken
      exact .inl ⟨nesting, beyond, rfl⟩
    · have inReach := not_exists.mp beyond
      rw [parseWithin_of_not_nestsBeyond inReach] at broken
      obtain ⟨count, rfl⟩ := parse_eq_breakdown broken
      exact .inr ⟨count, broken, inReach, rfl⟩
  · rintro (⟨nesting, beyond, rfl⟩ | ⟨count, broken, inReach, rfl⟩)
    · exact parseWithin_of_nestsBeyond beyond
    · rw [parseWithin_of_not_nestsBeyond inReach, broken]

end Nesting

end Json
end LayerLint
