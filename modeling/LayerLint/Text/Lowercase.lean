import LayerLint.Text.Casing

/-!
# Lower-casing

Lower-casing of whole texts. One letter depends on its surroundings: a capital sigma at the end of a
word becomes the final form, any other one the usual form. One letter becomes two characters: the
capital I with a dot.
-/

namespace LayerLint
namespace Text

/-- The first character that is not skipped in the search for a cased neighbour has case. -/
def casedNeighbour : List Char → Bool
  | [] => false
  | c :: rest => if isCaseIgnorable c then casedNeighbour rest else isCased c

/-- The lower-case form of a capital sigma between the text before it, nearest character first, and
the text after it. -/
def lowerSigma (before after : List Char) : Char :=
  if casedNeighbour before && !casedNeighbour after then 'ς' else 'σ'

/-- The lower-case form of a character between its two sides. -/
def lowerChar (before : List Char) (c : Char) (after : List Char) : List Char :=
  if c = 'Σ' then [lowerSigma before after]
  else if c = 'İ' then ['i', '\u0307']
  else if c.toNat < 0x80 then [c.toLower]
  else [Char.ofNat (lowerCode lowerRuns c.toNat)]

/-- Lower-casing of a text whose reversed beginning has been passed. -/
def lowerAfter (before : List Char) : List Char → List Char
  | [] => []
  | c :: after => lowerChar before c after ++ lowerAfter (c :: before) after

/-- The lower-case form of a text. -/
def lowerChars (text : List Char) : List Char :=
  lowerAfter [] text

/-- The lower-case form of a string. -/
def lower (text : String) : String :=
  String.ofList (lowerChars text.toList)

end Text
end LayerLint
