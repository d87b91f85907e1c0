/-!
# Bytes and characters

Reading of UTF-8. A byte sequence is cut into pieces: each piece is one encoded character, or one
maximal beginning of an encoding that the following byte breaks off. A lenient reader shows a broken
piece as the replacement character, a strict one refuses the bytes.
-/

namespace LayerLint
namespace Text
namespace Utf8

/-- A character or a broken piece, with the number of bytes that it takes up. -/
structure Piece where
  char? : Option Char
  width : Nat
  deriving DecidableEq, Inhabited

/-- Whether a byte lies between two bounds. -/
def within (low high : Nat) (byte : UInt8) : Bool :=
  low ≤ byte.toNat && byte.toNat ≤ high

/-- The bits that a byte adds to a code point. -/
def payload (byte : UInt8) : Nat :=
  byte.toNat % 64

/-- The number of bytes of an encoding and the bounds of its second byte, read off the first byte. -/
def leadOf (byte : UInt8) : Option (Nat × Nat × Nat) :=
  let code := byte.toNat
  if code < 0x80 then some (1, 0x80, 0xBF)
  else if code < 0xC2 then none
  else if code < 0xE0 then some (2, 0x80, 0xBF)
  else if code = 0xE0 then some (3, 0xA0, 0xBF)
  else if code = 0xED then some (3, 0x80, 0x9F)
  else if code < 0xF0 then some (3, 0x80, 0xBF)
  else if code = 0xF0 then some (4, 0x90, 0xBF)
  else if code < 0xF4 then some (4, 0x80, 0xBF)
  else if code = 0xF4 then some (4, 0x80, 0x8F)
  else none

/-- The bytes that continue an encoding: at most `count` of them, the first between the given bounds
and the others between the usual ones. -/
def continuation : Nat → Nat → Nat → List UInt8 → List UInt8
  | 0, _, _, _ => []
  | _ + 1, _, _, [] => []
  | count + 1, low, high, byte :: rest =>
      if within low high byte then byte :: continuation count 0x80 0xBF rest else []

/-- The code point of an encoding with the given first byte and number of bytes. -/
def codePoint (lead : UInt8) (size : Nat) (rest : List UInt8) : Nat :=
  let bits := if size = 1 then lead.toNat
    else if size = 2 then lead.toNat % 32
    else if size = 3 then lead.toNat % 16
    else lead.toNat % 8
  rest.foldl (fun code byte => code * 64 + payload byte) bits

/-- The piece at the front of a non-empty byte sequence. -/
def firstPiece (lead : UInt8) (rest : List UInt8) : Piece :=
  match leadOf lead with
  | none => ⟨none, 1⟩
  | some (size, low, high) =>
      let more := continuation (size - 1) low high rest
      if more.length + 1 = size then ⟨some (Char.ofNat (codePoint lead size more)), size⟩
      else ⟨none, more.length + 1⟩

/-- The pieces of a byte sequence, in order. -/
def pieces : List UInt8 → List Piece
  | [] => []
  | lead :: rest =>
      let piece := firstPiece lead rest
      piece :: pieces (rest.drop (piece.width - 1))
termination_by bytes => bytes.length
decreasing_by
  simp only [List.length_drop, List.length_cons]
  omega

/-- The text of a byte sequence, with the replacement character for each broken piece. -/
def decodeLenient (bytes : List UInt8) : List Char :=
  (pieces bytes).map fun piece => piece.char?.getD '�'

/-- The text of a byte sequence that has no broken piece. -/
def decode? (bytes : List UInt8) : Option (List Char) :=
  (pieces bytes).mapM fun piece => piece.char?

/-- Whether a code point is a character. Half of a surrogate pair is none and cannot be encoded. -/
def isCharacter (code : Nat) : Bool :=
  code.isValidChar

/-- The bytes of a text. -/
def encode (text : String) : List UInt8 :=
  text.toUTF8.toList

end Utf8
end Text
end LayerLint
