import LayerLint.Json.Comments
import LayerLint.Number.Reader
import LayerLint.Value

/-!
# Tokens of JSON

The words of a JSON text: brackets, commas, colons, string literals, numbers and names. Besides the
three usual names there are `NaN`, `Infinity` and `-Infinity`.
-/

namespace LayerLint
namespace Json

/-- A word of a JSON text. -/
inductive Token
  | openList
  | closeList
  | openTable
  | closeTable
  | comma
  | colon
  | scalar (value : Scalar)
  /-- A whole number with more digits than can be read. -/
  | oversized (count : Nat)
  /-- Something that is no word. -/
  | invalid
  deriving DecidableEq

/-- The number that four hexadecimal digits at the front of a text stand for, and the rest. -/
def cutCode? : List Char → Option (Nat × List Char)
  | a :: b :: c :: d :: rest => (Number.whole? 16 [a, b, c, d]).map fun code => (code, rest)
  | _ => none

/-- The code point of a pair of surrogates. -/
def joinSurrogates (high low : Nat) : Nat :=
  0x10000 + (high - 0xD800) * 0x400 + (low - 0xDC00)

/-- The second half of a pair of surrogates at the front of a text, and the rest. -/
def cutLow? : List Char → Option (Nat × List Char)
  | '\\' :: 'u' :: rest => do
      let (low, behind) ← cutCode? rest
      if 0xDC00 ≤ low ∧ low < 0xE000 then some (low, behind) else none
  | _ => none

/-- The code point of a numeric escape behind its letter, and the rest. Half of a pair of surrogates
stays by itself. -/
def cutNumeric? (text : List Char) : Option (Nat × List Char) := do
  let (code, rest) ← cutCode? text
  if 0xD800 ≤ code ∧ code < 0xDC00 then
    match cutLow? rest with
    | some (low, behind) => some (joinSurrogates code low, behind)
    | none => some (code, rest)
  else some (code, rest)

/-- The character of a one-letter escape. -/
def escaped? (c : Char) : Option Char :=
  if c = quote ∨ c = '\\' ∨ c = '/' then some c
  else if c = 'b' then some '\x08'
  else if c = 'f' then some '\x0c'
  else if c = 'n' then some '\n'
  else if c = 'r' then some '\r'
  else if c = 't' then some '\t'
  else none

theorem cutCode?_length {text rest : List Char} {code : Nat} (cut : cutCode? text = some (code, rest)) :
    rest.length < text.length := by
  unfold cutCode? at cut
  split at cut
  · obtain ⟨_, _, shape⟩ := Option.map_eq_some_iff.mp cut
    simp only [Prod.mk.injEq] at shape
    simp only [← shape.2, List.length_cons]
    omega
  · simp at cut

theorem cutLow?_length {text rest : List Char} {code : Nat} (cut : cutLow? text = some (code, rest)) :
    rest.length < text.length := by
  unfold cutLow? at cut
  split at cut
  · next tail =>
      cases found : cutCode? tail with
      | none => simp [found] at cut
      | some parts =>
          have bound := cutCode?_length found
          simp only [found, Option.bind_eq_bind, Option.bind_some] at cut
          split at cut
          · simp only [Option.some.injEq, Prod.mk.injEq] at cut
            simp only [← cut.2, List.length_cons]
            omega
          · simp at cut
  · simp at cut

theorem cutNumeric?_length {text rest : List Char} {code : Nat}
    (cut : cutNumeric? text = some (code, rest)) : rest.length < text.length := by
  unfold cutNumeric? at cut
  cases found : cutCode? text with
  | none => simp [found] at cut
  | some parts =>
      obtain ⟨first, tail⟩ := parts
      have bound := cutCode?_length found
      simp only [found, Option.bind_eq_bind, Option.bind_some] at cut
      split at cut
      · split at cut
        · next low behind second =>
            have boundLow := cutLow?_length second
            simp only [Option.some.injEq, Prod.mk.injEq] at cut
            rw [← cut.2]
            omega
        · simp only [Option.some.injEq, Prod.mk.injEq] at cut
          rw [← cut.2]
          exact bound
      · simp only [Option.some.injEq, Prod.mk.injEq] at cut
        rw [← cut.2]
        exact bound

/-- The code points of a string literal behind its opening quote, and the rest behind its closing one.
Control characters have to be escaped. -/
def cutText? : List Char → Option (List Nat × List Char)
  | [] => none
  | '\\' :: 'u' :: rest =>
      match found : cutNumeric? rest with
      | none => none
      | some (code, behind) =>
          have := cutNumeric?_length found
          (cutText? behind).map fun parts => (code :: parts.1, parts.2)
  | '\\' :: c :: rest =>
      match escaped? c with
      | none => none
      | some plain => (cutText? rest).map fun parts => (plain.toNat :: parts.1, parts.2)
  | c :: rest =>
      if c = quote then some ([], rest)
      else if c = '\\' ∨ c.toNat < 0x20 then none
      else (cutText? rest).map fun parts => (c.toNat :: parts.1, parts.2)
termination_by text => text.length
decreasing_by
  all_goals simp only [List.length_cons]
  all_goals omega

/-- Cut the digits at the front of a text. -/
def cutDigits (text : List Char) : List Char × List Char :=
  (text.takeWhile (Number.isDigitOf 10), text.dropWhile (Number.isDigitOf 10))

/-- The whole part at the front of a number: a zero alone, or digits that do not start with one. -/
def cutWhole (text : List Char) : List Char × List Char :=
  match text with
  | '0' :: rest => (['0'], rest)
  | _ => cutDigits text

/-- The fraction of a number: a point and digits. -/
def cutFraction (text : List Char) : List Char × List Char :=
  match text with
  | '.' :: rest =>
      match cutDigits rest with
      | ([], _) => ([], text)
      | (digits, behind) => ('.' :: digits, behind)
  | _ => ([], text)

/-- The exponent of a number: its letter, an optional sign and digits. -/
def cutExponent (text : List Char) : List Char × List Char :=
  match text with
  | mark :: rest =>
      if mark = 'e' ∨ mark = 'E' then
        let (sign, more) := match rest with
          | '-' :: more => (['-'], more)
          | '+' :: more => (['+'], more)
          | _ => ([], rest)
        match cutDigits more with
        | ([], _) => ([], text)
        | (digits, behind) => (mark :: (sign ++ digits), behind)
      else ([], text)
  | [] => ([], text)

/-- The number without a sign at the front of a text, and the rest. -/
def cutNumber? (negative : Bool) (text : List Char) : Option (Token × List Char) :=
  match cutWhole text with
  | ([], _) => none
  | (digits, rest) =>
      let (fraction, rest) := cutFraction rest
      let (exponent, rest) := cutExponent rest
      if fraction.isEmpty && exponent.isEmpty then
        if Number.maxDigits < digits.length then some (.oversized digits.length, rest)
        else some (.scalar (.int (Number.signed negative (Number.ofDigits 10 digits))), rest)
      else
        (Number.decimal? negative (digits ++ fraction ++ exponent)).map fun value =>
          (.scalar (.float value), rest)

/-- The names of a JSON text with the scalars that they stand for. -/
def names : List (List Char × Scalar) :=
  [(['n', 'u', 'l', 'l'], .null), (['t', 'r', 'u', 'e'], .bool true),
    (['f', 'a', 'l', 's', 'e'], .bool false), (['N', 'a', 'N'], .float .nan),
    (['I', 'n', 'f', 'i', 'n', 'i', 't', 'y'], .float (.infinite false)),
    (['-', 'I', 'n', 'f', 'i', 'n', 'i', 't', 'y'], .float (.infinite true))]

/-- The name at the front of a text, and the rest. -/
def cutName? (text : List Char) : Option (Token × List Char) :=
  (names.find? fun entry => entry.1.isPrefixOf text).map fun entry =>
    (.scalar entry.2, text.drop entry.1.length)

/-- The scalar at the front of a text, and the rest. -/
def cutScalar? (text : List Char) : Option (Token × List Char) :=
  match text with
  | c :: rest =>
      if c = quote then
        (cutText? rest).map fun parts => (.scalar (.ofCodes parts.1), parts.2)
      else
        match cutName? text with
        | some found => some found
        | none => if c = '-' then cutNumber? true rest else cutNumber? false text
  | [] => none

/-- The bracket or mark that a character stands for. -/
def mark? (c : Char) : Option Token :=
  if c = '[' then some .openList
  else if c = ']' then some .closeList
  else if c = '\x7b' then some .openTable
  else if c = '\x7d' then some .closeTable
  else if c = ',' then some .comma
  else if c = ':' then some .colon
  else none

/-- The words of a text up to the first thing that is no word. A word of any kind takes at least one
character, so as many steps as there are characters are enough. -/
def scan : Nat → List Char → List Token
  | _, [] => []
  | 0, _ :: _ => [.invalid]
  | limit + 1, c :: rest =>
      if c = ' ' ∨ c = '\t' ∨ c = '\n' ∨ c = '\r' then scan limit rest
      else
        match mark? c with
        | some token => token :: scan limit rest
        | none =>
            match cutScalar? (c :: rest) with
            | some (token, behind) => token :: scan limit behind
            | none => [.invalid]

/-- The words of a JSON text. -/
def tokens (text : List Char) : List Token :=
  scan text.length text

end Json
end LayerLint
