import Mathlib.Data.List.Forall2

/-!
# Outcomes of attempts

An attempt ends with a value or with a fault. This file says when an attempt made of two others, or of one
for every item of a list, ends in which way.
-/

namespace LayerLint

section Bind

variable {ε α β : Type} {first : Except ε α} {next : α → Except ε β}

theorem bind_eq_ok_iff {result : β} :
    first >>= next = .ok result ↔ ∃ value, first = .ok value ∧ next value = .ok result := by
  cases first <;> simp [bind, Except.bind]

theorem bind_eq_error_iff {fault : ε} :
    first >>= next = .error fault ↔
      first = .error fault ∨ ∃ value, first = .ok value ∧ next value = .error fault := by
  cases first <;> simp [bind, Except.bind]

/-- An outcome that has one fault only ends with it exactly if it has no value. -/
theorem eq_error_iff_of_only {outcome : Except ε α} {only fault : ε}
    (isOnly : ∀ {fault}, outcome = .error fault → fault = only) :
    outcome = .error fault ↔ (∀ value, outcome ≠ .ok value) ∧ fault = only := by
  cases outcome with
  | ok value => simp
  | error other =>
      have same := isOnly rfl
      simp [same, eq_comm]

theorem eq_ok_of_toOption {outcome : Except ε α} {value : α} (reached : outcome.toOption = some value) :
    outcome = .ok value := by
  cases outcome with
  | error fault => exact nomatch reached
  | ok other =>
      cases reached
      rfl

end Bind

/-- A walk along a list reads the items one after the other, up to the first one with a fault. -/
structure IsWalk {ε α β : Type} (read : Nat → α → Except ε β)
    (walk : Nat → List α → Except ε (List β)) : Prop where
  nil : ∀ index, walk index [] = .ok []
  cons : ∀ index item items, walk index (item :: items) = (do
    let found ← read index item
    let rest ← walk (index + 1) items
    pure (found :: rest))

namespace IsWalk

variable {ε α β : Type} {read : Nat → α → Except ε β} {walk : Nat → List α → Except ε (List β)}
  {Good : α → β → Prop} {items : List α}

theorem eq_ok_iff (isWalk : IsWalk read walk)
    (good : ∀ {index item found}, read index item = .ok found ↔ Good item found) (index : Nat)
    {all : List β} : walk index items = .ok all ↔ List.Forall₂ Good items all := by
  induction items generalizing index all with
  | nil =>
      rw [isWalk.nil]
      cases all <;> simp
  | cons item items ih =>
      rw [isWalk.cons, bind_eq_ok_iff]
      constructor
      · rintro ⟨found, isFound, done⟩
        obtain ⟨rest, others, done⟩ := bind_eq_ok_iff.mp done
        cases done
        exact .cons (good.mp isFound) ((ih _).mp others)
      · intro agree
        cases agree with
        | cons isGood others =>
            exact ⟨_, good.mpr isGood, bind_eq_ok_iff.mpr ⟨_, (ih _).mpr others, rfl⟩⟩

theorem eq_error_iff (isWalk : IsWalk read walk)
    (good : ∀ {index item found}, read index item = .ok found ↔ Good item found) (index : Nat) {fault : ε} :
    walk index items = .error fault ↔
      ∃ before item after, items = before ++ item :: after ∧
        (∀ earlier ∈ before, ∃ found, Good earlier found) ∧
        read (index + before.length) item = .error fault := by
  induction items generalizing index with
  | nil => simp [isWalk.nil]
  | cons item items ih =>
      rw [isWalk.cons, bind_eq_error_iff]
      constructor
      · rintro (failed | ⟨found, isFound, failed⟩)
        · exact ⟨[], item, items, rfl, by simp, failed⟩
        · obtain failed | ⟨rest, -, failed⟩ := bind_eq_error_iff.mp failed
          · obtain ⟨before, bad, after, rfl, sound, failed⟩ := (ih _).mp failed
            refine ⟨item :: before, bad, after, rfl, ?_, ?_⟩
            · exact List.forall_mem_cons.mpr ⟨⟨found, good.mp isFound⟩, sound⟩
            · rwa [List.length_cons, ← Nat.add_assoc, Nat.add_right_comm]
          · exact nomatch failed
      · rintro ⟨before, bad, after, same, sound, failed⟩
        cases before with
        | nil =>
            cases same
            exact .inl failed
        | cons first before =>
            cases same
            obtain ⟨⟨found, isGood⟩, sound⟩ := List.forall_mem_cons.mp sound
            rw [List.length_cons, ← Nat.add_assoc, Nat.add_right_comm] at failed
            have rest := (ih _).mpr ⟨before, bad, after, rfl, sound, failed⟩
            exact .inr ⟨found, good.mpr isGood, bind_eq_error_iff.mpr (.inl rest)⟩

end IsWalk

end LayerLint
