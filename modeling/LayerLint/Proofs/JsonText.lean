import LayerLint.Json.Printer
import LayerLint.Json.Reader
import LayerLint.Proofs.NumberText

/-!
# Reading what was written

Lists, tables, texts and numbers that were written as JSON are read as they were. The text of a part
is cut into the same words wherever it stands, as long as no number goes on behind it, and the machine
that reads the words hands the part to the list or the table around it. A number of double precision
is read as some number of double precision.
-/

namespace LayerLint

open Number (isDigitOf digitValue? whole? ofDigits)

section Escapes

end Escapes

namespace Table

variable {κ α : Type} {same : κ → κ → Bool}

end Table

namespace Json

section Literals

end Literals

section Words

/-- A text is made of words with white space between them. -/
inductive Spells : List Char → List Token → Prop
  | nil : Spells [] []
  | blank {c : Char} {rest : List Char} {words : List Token} (isBlank : c = ' ' ∨ c = '\n')
      (others : Spells rest words) : Spells (c :: rest) words
  | mark {c : Char} {token : Token} {rest : List Char} {words : List Token}
      (marks : mark? c = some token) (others : Spells rest words) : Spells (c :: rest) (token :: words)
  | scalar {c : Char} {text rest : List Char} {token : Token} {words : List Token}
      (isSolid : ¬ (c = ' ' ∨ c = '\t' ∨ c = '\n' ∨ c = '\r')) (unmarked : mark? c = none)
      (cut : cutScalar? (c :: (text ++ rest)) = some (token, rest)) (others : Spells rest words) :
      Spells (c :: (text ++ rest)) (token :: words)

theorem exists_limit {c : Char} {rest : List Char} {limit : Nat}
    (enough : (c :: rest).length ≤ limit) : ∃ less, limit = less + 1 ∧ rest.length ≤ less := by
  rw [List.length_cons] at enough
  exact ⟨limit - 1, by omega, by omega⟩

theorem scan_of_spells {text : List Char} {words : List Token} (spells : Spells text words)
    {limit : Nat} (enough : text.length ≤ limit) : scan limit text = words := by
  induction spells generalizing limit with
  | nil => cases limit <;> rfl
  | blank isBlank others ih =>
      obtain ⟨limit, rfl, shorter⟩ := exists_limit enough
      rw [scan, if_pos (by tauto)]
      exact ih shorter
  | @mark c token rest words marks others ih =>
      obtain ⟨limit, rfl, shorter⟩ := exists_limit enough
      have isSolid : ¬ (c = ' ' ∨ c = '\t' ∨ c = '\n' ∨ c = '\r') := by
        rintro (rfl | rfl | rfl | rfl) <;> exact absurd marks (by simp [mark?])
      rw [scan, if_neg isSolid, marks]
      exact congrArg (token :: ·) (ih shorter)
  | @scalar c text rest token words isSolid unmarked cut others ih =>
      obtain ⟨limit, rfl, shorter⟩ := exists_limit enough
      rw [List.length_append] at shorter
      rw [scan, if_neg isSolid, unmarked]
      simp only [cut]
      exact congrArg (token :: ·) (ih (by omega))

/-- A text is cut into the same words wherever it stands, if no number goes on behind it. -/
def Adds (text : List Char) (words : List Token) : Prop :=
  ∀ rest more, Number.EndsNumber rest → Spells rest more → Spells (text ++ rest) (words ++ more)

end Words

section Machine

/-- Words that are read as a value wherever one is expected. -/
def Builds (words : List Token) (value : Value) : Prop :=
  ∀ stack more, (State.wantValue stack).run (words ++ more) = (State.give value stack).run more

end Machine

section Ascii

/-- All characters of a text are ASCII characters. -/
def IsAscii (text : List Char) : Prop :=
  ∀ c ∈ text, c.toNat < 0x80

variable {first second : List Char}

end Ascii

/-- A plain text that is read as a value wherever one is expected. -/
structure Denotes (text : String) (value : Value) : Prop where
  isAscii : IsAscii text.toList
  exists_words : ∃ words, Adds text.toList words ∧ Builds words value

theorem Denotes.parse {text : String} {value : Value} (denotes : Denotes text value) :
    parse text.toList = .ok value := by
  obtain ⟨words, adds, builds⟩ := denotes.exists_words
  have spells := adds [] [] (by simp [Number.EndsNumber]) .nil
  rw [List.append_nil, List.append_nil] at spells
  have read := builds [] []
  rw [List.append_nil] at read
  rw [Json.parse, tokens, scan_of_spells spells le_rfl, read]
  rfl

section ReadsAs

end ReadsAs

end Json
end LayerLint
