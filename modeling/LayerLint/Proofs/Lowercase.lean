import LayerLint.Text.Lowercase
import Mathlib

/-!
# Endings in whatever case

Lower-casing may depend on the surroundings of a letter and may lengthen a text. None of this concerns
the characters that the extensions of source files consist of: only one character or two become each of
them, the letter itself and its capital. So a text ends in an extension after lower-casing exactly when
it does after the letters from A to Z alone were lowered.
-/

namespace LayerLint
namespace Text

/-- The characters of the extensions of source files. -/
def extensionChars : List Char :=
  ['.', 'c', 'd', 'j', 'm', 's', 't', 'x']

theorem lowerCode_of_high_runs {code : Nat} (notAscii : 0x80 ≤ code) {runs : List CaseRun}
    (high : ∀ run ∈ runs, run.last < 0x80 ∨ 0x80 ≤ run.lowered ∨
      (run.first = run.last ∧ run.lowered = 0x6B)) :
    0x80 ≤ lowerCode runs code ∨ lowerCode runs code = 0x6B := by
  induction runs with
  | nil => exact .inl notAscii
  | cons run rest ih =>
      rw [lowerCode]
      split
      next inRun =>
        rcases high run List.mem_cons_self with low | lowered | ⟨alone, kelvin⟩
        · omega
        · exact .inl (by omega)
        · exact .inr (by omega)
      next => exact ih fun other member => high other (List.mem_cons_of_mem run member)

/-- Beyond ASCII only the Kelvin sign has an ASCII lower-case form. -/
theorem lowerCode_of_not_ascii {code : Nat} (notAscii : 0x80 ≤ code) :
    0x80 ≤ lowerCode lowerRuns code ∨ lowerCode lowerRuns code = 0x6B :=
  lowerCode_of_high_runs notAscii (by decide +kernel)

theorem ofNat_ne_of_high {code : Nat} (high : 0x80 ≤ code ∨ code = 0x6B) {c : Char}
    (ascii : c.toNat < 0x80) (notKelvin : c ≠ 'k') (notNull : c ≠ Char.ofNat 0) :
    Char.ofNat code ≠ c := by
  rintro rfl
  rcases high with high | kelvin
  · by_cases valid : code.isValidChar
    · rw [Char.ofNat, dif_pos valid] at ascii
      exact absurd (show code < 0x80 from ascii) (by omega)
    · apply notNull
      rw [Char.ofNat, dif_neg valid]
      rfl
  · rw [kelvin] at notKelvin
    exact notKelvin rfl

theorem ofNat_not_extensionChar {code : Nat} (high : 0x80 ≤ code ∨ code = 0x6B) :
    Char.ofNat code ∉ extensionChars := by
  intro member
  have low : ∀ c ∈ extensionChars, c.toNat < 0x80 ∧ c ≠ 'k' ∧ c ≠ Char.ofNat 0 := by
    simp [extensionChars]
  obtain ⟨ascii, notKelvin, notNull⟩ := low _ member
  exact ofNat_ne_of_high high ascii notKelvin notNull rfl

/-- A character with such a lower-case form is that character itself or its capital. -/
theorem lowerChar_of_mem {before after : List Char} {c d : Char}
    (plain : c ∈ extensionChars) (member : c ∈ lowerChar before d after) :
    lowerChar before d after = [d.toLower] ∧ d.toLower = c := by
  unfold lowerChar at member ⊢
  split at member
  next sigma =>
    exfalso
    have lowered : c = lowerSigma before after := List.mem_singleton.mp member
    rw [lowered, lowerSigma] at plain
    split at plain
    · exact absurd plain (by decide)
    · exact absurd plain (by decide)
  next notSigma =>
    split at member
    next dotted =>
      exfalso
      rcases List.mem_cons.mp member with rfl | member
      · exact absurd plain (by decide)
      · rw [List.mem_singleton] at member
        subst member
        exact absurd plain (by decide)
    next notDotted =>
      split at member
      next ascii =>
        rw [if_neg notSigma, if_neg notDotted, if_pos ascii]
        exact ⟨rfl, (List.mem_singleton.mp member).symm⟩
      next notAscii =>
        exfalso
        rw [List.mem_singleton] at member
        rw [member] at plain
        exact ofNat_not_extensionChar (lowerCode_of_not_ascii (by omega)) plain

theorem ascii_of_toLower {c : Char} (plain : c.toLower ∈ extensionChars) : c.toNat < 0x80 := by
  have ascii : ∀ d ∈ extensionChars, d.toNat < 0x80 := by simp [extensionChars]
  by_cases capital : c.isUpper
  · simp only [Char.isUpper, decide_eq_true_eq] at capital
    have bound : c.toNat ≤ 'Z'.toNat := capital.2
    exact Nat.lt_of_le_of_lt bound (by decide)
  · rw [Char.toLower_eq_of_not_isUpper capital] at plain
    exact ascii c plain

theorem eq_of_toLower_eq {c d : Char} (lowered : c.toLower = d) (notSmall : ¬ d.isLower) :
    c = d := by
  have notCapital : ¬ c.isUpper := by
    intro capital
    apply notSmall
    rw [← lowered, Char.isLower_toLower_eq_isAlpha, Char.isAlpha, capital, Bool.true_or]
  rw [← lowered, Char.toLower_eq_of_not_isUpper notCapital]

theorem lowerChar_of_toLower {c : Char} (plain : c.toLower ∈ extensionChars)
    (before after : List Char) : lowerChar before c after = [c.toLower] := by
  have ascii := ascii_of_toLower plain
  have notSigma : c ≠ 'Σ' := fun same => absurd (same ▸ ascii) (by decide)
  have notDotted : c ≠ 'İ' := fun same => absurd (same ▸ ascii) (by decide)
  rw [lowerChar, if_neg notSigma, if_neg notDotted, if_pos ascii]

theorem lowerChar_ne_nil (before : List Char) (c : Char) (after : List Char) :
    lowerChar before c after ≠ [] := by
  unfold lowerChar
  repeat' split
  all_goals exact List.cons_ne_nil _ _

theorem lowerAfter_of_toLower {text : List Char}
    (plain : ∀ c ∈ text.map Char.toLower, c ∈ extensionChars) (before : List Char) :
    lowerAfter before text = text.map Char.toLower := by
  induction text generalizing before with
  | nil => rfl
  | cons c after ih =>
      rw [List.map_cons] at plain ⊢
      rw [lowerAfter, lowerChar_of_toLower (plain _ List.mem_cons_self), List.singleton_append,
        ih fun d member => plain d (List.mem_cons_of_mem _ member)]

/-- A text is lowered letter by letter when its lower-case form has such characters only. -/
theorem lowerAfter_of_plain {text before : List Char}
    (plain : ∀ c ∈ lowerAfter before text, c ∈ extensionChars) :
    lowerAfter before text = text.map Char.toLower := by
  induction text generalizing before with
  | nil => rfl
  | cons d after ih =>
      rw [lowerAfter] at plain ⊢
      obtain ⟨c, rest, shape⟩ := List.exists_cons_of_ne_nil (lowerChar_ne_nil before d after)
      have inFront : c ∈ lowerChar before d after := shape ▸ List.mem_cons_self
      have single := (lowerChar_of_mem (plain c (List.mem_append_left _ inFront)) inFront).1
      rw [single, List.map_cons, List.singleton_append,
        ih fun e member => plain e (List.mem_append_right _ member)]

theorem isSuffix_lowerAfter_iff {ending : List Char}
    (plain : ∀ c ∈ ending, c ∈ extensionChars) (before text : List Char) :
    ending <:+ lowerAfter before text ↔ ending <:+ text.map Char.toLower := by
  induction text generalizing before with
  | nil => rfl
  | cons d after ih =>
      rw [List.map_cons, lowerAfter]
      constructor
      · rintro ⟨front, shape⟩
        rcases List.append_eq_append_iff.mp shape with ⟨start, lowered, whole⟩ | ⟨middle, -, rest⟩
        · cases start with
          | nil =>
              have ends : ending <:+ lowerAfter (d :: before) after := by simp [whole]
              exact ((ih (d :: before)).mp ends).trans (List.suffix_cons _ _)
          | cons c start =>
              -- The ending reaches into the first letter, so it is the whole text in lower case.
              have inFront : c ∈ lowerChar before d after := by simp [lowered]
              have single :=
                (lowerChar_of_mem (plain c (by simp [whole])) inFront).1
              have startNil : start = [] := by
                rw [single] at lowered
                have lengths := congrArg List.length lowered
                simp only [List.length_append, List.length_cons, List.length_nil] at lengths
                exact List.eq_nil_of_length_eq_zero (by omega)
              have afterPlain : ∀ e ∈ lowerAfter (d :: before) after, e ∈ extensionChars :=
                fun e member => plain e (by rw [whole]; exact List.mem_append_right _ member)
              have letter : c = d.toLower := List.mem_singleton.mp (single ▸ inFront)
              have same : ending = d.toLower :: after.map Char.toLower := by
                rw [whole, startNil, letter, lowerAfter_of_plain afterPlain, List.singleton_append]
              exact ⟨[], same⟩
        · have ends : ending <:+ lowerAfter (d :: before) after := ⟨middle, rest.symm⟩
          exact ((ih (d :: before)).mp ends).trans (List.suffix_cons _ _)
      · intro ends
        rcases List.suffix_cons_iff.mp ends with whole | ends
        · rw [whole, ← List.map_cons] at plain
          have same : ending = lowerChar before d after ++ lowerAfter (d :: before) after := by
            rw [whole, ← List.map_cons, ← lowerAfter_of_toLower plain before, lowerAfter]
          exact ⟨[], same⟩
        · exact ((ih (d :: before)).mpr ends).trans (List.suffix_append _ _)

/-- A text ends in an extension in whatever case exactly when it does after each letter from A to Z was
lowered. -/
theorem isSuffix_lowerChars_iff {ending : List Char}
    (plain : ∀ c ∈ ending, c ∈ extensionChars) (text : List Char) :
    ending <:+ lowerChars text ↔ ending <:+ text.map Char.toLower :=
  isSuffix_lowerAfter_iff plain [] text

end Text
end LayerLint
