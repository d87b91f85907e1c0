import LayerLint.Text.CharRange

/-!
# White space

The characters that count as white space around a base directory and after a trailing comma: the
white space of the Unicode standard and the four information separators.
-/

namespace LayerLint
namespace Text

/-- The code points of white space. -/
def blankRanges : CharRanges :=
  [(0x0009, 0x000D), (0x001C, 0x0020), (0x0085, 0x0085), (0x00A0, 0x00A0), (0x1680, 0x1680),
    (0x2000, 0x200A), (0x2028, 0x2029), (0x202F, 0x202F), (0x205F, 0x205F), (0x3000, 0x3000)]

/-- Whether a character is white space. -/
def isBlank (c : Char) : Bool :=
  blankRanges.has c.toNat

end Text
end LayerLint
