/-!
# Wildcards within one segment

A wildcard pattern is a list of items: a star for any text, a question mark for any character, a set
of characters in brackets, and any other character for itself. A bracket that is never closed stands
for itself.

The members of a set are given one by one or as ranges. A set that starts with an exclamation mark
holds the characters that are not among its members. A range whose ends are in the wrong order is
empty and is left out together with its ends.
-/

namespace LayerLint
namespace Glob

/-- One item of a wildcard pattern. -/
inductive Item
  | literal (c : Char)
  | anyChar
  | anyText
  | oneOf (members : List (Char × Char))
  | noneOf (members : List (Char × Char))
  deriving DecidableEq

/-- Whether a character lies in one of the inclusive ranges. -/
def inRanges (members : List (Char × Char)) (c : Char) : Bool :=
  members.any fun range => range.1 ≤ c && c ≤ range.2

/-- Whether an item that stands for one character accepts a character. -/
def Item.accepts : Item → Char → Bool
  | .literal expected, c => expected == c
  | .anyChar, _ => true
  | .anyText, _ => false
  | .oneOf members, c => inRanges members c
  | .noneOf members, c => !inRanges members c

/-- Whether a test accepts a list, or what is left of it behind some of its items. -/
def acceptsRest {α : Type} (test : List α → Bool) : List α → Bool
  | [] => test []
  | item :: items => test (item :: items) || acceptsRest test items

/-- Whether a list of items matches a whole text. -/
def matchItems : List Item → List Char → Bool
  | [], text => text.isEmpty
  | .anyText :: items, text => acceptsRest (matchItems items) text
  | item :: items, text =>
      match text with
      | [] => false
      | c :: rest => item.accepts c && matchItems items rest

/-- The inside of a bracket and the text behind it. A closing bracket at the very front, also behind
an exclamation mark, is a member and closes nothing. -/
def cutBracket? (text : List Char) : Option (List Char × List Char) :=
  let lead := match text with
    | '!' :: ']' :: _ => 2
    | '!' :: _ => 1
    | ']' :: _ => 1
    | _ => 0
  let inner := (text.drop lead).takeWhile (· != ']')
  match (text.drop lead).dropWhile (· != ']') with
  | [] => none
  | _ :: rest => some (text.take lead ++ inner, rest)

/-- Cut the inside of a bracket at the hyphens that stand between the two ends of a range. The first
`guarded` characters are not such hyphens. -/
def cutRanges (guarded : Nat) (chunk : List Char) : List Char → List (List Char)
  | [] => [chunk]
  | c :: text =>
      if c = '-' ∧ guarded = 0 then chunk :: cutRanges 2 [] text
      else cutRanges (guarded - 1) (chunk ++ [c]) text

/-- A hyphen at the very end belongs to the chunk before it. -/
def closeChunks : List (List Char) → List (List Char)
  | [] => []
  | [chunk, []] => [chunk ++ ['-']]
  | chunk :: rest => chunk :: closeChunks rest

/-- Leave out the ranges whose ends are in the wrong order, from the last one to the first. -/
def dropEmptyRanges : List (List Char) → List (List Char)
  | [] => []
  | chunk :: rest =>
      match dropEmptyRanges rest with
      | [] => [chunk]
      | next :: more =>
          match chunk.getLast?, next.head? with
          | some low, some high =>
              if high < low then (chunk.dropLast ++ next.tail) :: more else chunk :: next :: more
          | _, _ => chunk :: next :: more

/-- The ranges between neighbouring chunks. -/
def rangesOf : List (List Char) → List (Char × Char)
  | [] => []
  | [_] => []
  | chunk :: next :: rest =>
      match chunk.getLast?, next.head? with
      | some low, some high => (low, high) :: rangesOf (next :: rest)
      | _, _ => rangesOf (next :: rest)

/-- The members of a set given by its chunks. A hyphen at the very front stands for itself. -/
def membersOf (chunks : List (List Char)) : List (Char × Char) :=
  let front := match chunks with
    | [] :: _ :: _ => [('-', '-')]
    | _ => []
  front ++ (chunks.flatMap fun chunk => chunk.map fun c => (c, c)) ++ rangesOf chunks

/-- The item that the inside of a bracket stands for. -/
def setItem (inner : List Char) : Item :=
  let guarded := if inner.head? = some '!' then 2 else 1
  match dropEmptyRanges (closeChunks (cutRanges guarded [] inner)) with
  | ('!' :: chunk) :: rest => .noneOf (membersOf (chunk :: rest))
  | chunks => .oneOf (membersOf chunks)

theorem cutBracket?_length {text inner rest : List Char}
    (closed : cutBracket? text = some (inner, rest)) : rest.length < text.length := by
  have shorter (lead : Nat) (c : Char)
      (shape : (text.drop lead).dropWhile (· != ']') = c :: rest) : rest.length < text.length := by
    have bound := (List.dropWhile_sublist (· != ']') (l := text.drop lead)).length_le
    rw [shape] at bound
    simp only [List.length_cons, List.length_drop] at bound
    omega
  unfold cutBracket? at closed
  simp only at closed
  split at closed
  · simp at closed
  · next shape =>
      simp only [Option.some.injEq, Prod.mk.injEq] at closed
      exact shorter _ _ (closed.2 ▸ shape)

/-- The items of a wildcard pattern. -/
def itemsOf : List Char → List Item
  | [] => []
  | '*' :: rest => .anyText :: itemsOf rest
  | '?' :: rest => .anyChar :: itemsOf rest
  | c :: rest =>
      if c = '[' then
        match closed : cutBracket? rest with
        | none => .literal '[' :: itemsOf rest
        | some (inner, behind) =>
            have := cutBracket?_length closed
            setItem inner :: itemsOf behind
      else .literal c :: itemsOf rest
termination_by text => text.length
decreasing_by
  all_goals simp only [List.length_cons]
  all_goals omega

/-- Whether a wildcard pattern matches a whole segment. -/
def matchSegment (pattern segment : List Char) : Bool :=
  matchItems (itemsOf pattern) segment

end Glob
end LayerLint
