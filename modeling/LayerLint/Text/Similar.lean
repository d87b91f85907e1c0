/-!
# Similar words

How alike two words are is measured by the characters that they have in common in the same order: the
longest common block, and the same again on each side of it. The degree is the share of these
characters in the characters of both words.
-/

namespace LayerLint
namespace Text

/-- The number of characters that two texts begin with in common. -/
def commonStart : List Char → List Char → Nat
  | first :: firsts, second :: seconds =>
      if first = second then commonStart firsts seconds + 1 else 0
  | _, _ => 0

/-- A block that two texts have in common: where it begins in each of them, and its length. -/
structure Block where
  inFirst : Nat
  inSecond : Nat
  length : Nat
  deriving DecidableEq

/-- The longer of two blocks, and the first of two that are equally long. -/
def Block.longer (first second : Block) : Block :=
  if first.length < second.length then second else first

/-- The longest block that two texts have in common; of several ones the block that comes first in the
first text, and then in the second. -/
def longestBlock (first second : List Char) : Block :=
  let starts := (List.range first.length).flatMap fun i =>
    (List.range second.length).map fun j =>
      Block.mk i j (commonStart (first.drop i) (second.drop j))
  starts.foldl Block.longer ⟨0, 0, 0⟩

/-- The number of characters in common blocks. A block has at least one character, so the length of the
first text bounds the depth of the search. -/
def inCommon : Nat → List Char → List Char → Nat
  | 0, _, _ => 0
  | depth + 1, first, second =>
      let block := longestBlock first second
      if block.length = 0 then 0
      else
        inCommon depth (first.take block.inFirst) (second.take block.inSecond) + block.length +
          inCommon depth (first.drop (block.inFirst + block.length))
            (second.drop (block.inSecond + block.length))

/-- How alike two words are: the characters in common, out of the characters of both. -/
structure Likeness where
  shared : Nat
  total : Nat
  deriving DecidableEq

/-- How alike two words are. -/
def likeness (first second : String) : Likeness :=
  { shared := 2 * inCommon first.length first.toList second.toList
    total := first.length + second.length }

/-- Words are close when at least six tenths of their characters are in common. -/
def Likeness.isClose (degree : Likeness) : Bool :=
  6 * degree.total ≤ 10 * degree.shared

/-- Whether a word with its likeness comes before another one: the closer one, and of equally close
ones the one that is later in the alphabet. -/
def comesFirst (first second : String × Likeness) : Bool :=
  let left := first.2.shared * second.2.total
  let right := second.2.shared * first.2.total
  right < left || (left == right && decide (second.1 ≤ first.1))

/-- The words, at most three of them, that are closest to a word, in the order of the alphabet. -/
def closest (words : List String) (word : String) : List String :=
  let rated := (words.map fun other => (other, likeness other word)).filter fun entry =>
    entry.2.isClose
  ((rated.mergeSort comesFirst).take 3 |>.map Prod.fst).mergeSort fun first second =>
    decide (first ≤ second)

end Text
end LayerLint
