import LayerLint.Number.Reader
import LayerLint.Text.Utf8
import LayerLint.Yaml.Block

/-!
# Tags and directives in YAML texts

A tag in a text is an exclamation mark with a name, which may have a handle in front: a short name for
the beginning of longer ones. Directives stand before a document; they state the version of the format
or what a handle stands for.
-/

namespace LayerLint
namespace Yaml

/-- Whether a character may be part of the name of an anchor, a handle or a directive. -/
def isNameChar (c : Char) : Bool :=
  c.isAlphanum || c == '-' || c == '_'

/-- Whether a text is at its end, at a space or at the end of a line. -/
def atWordEnd (text : List Char) : Bool :=
  text.head?.all fun c => c == ' ' || isBreak c

/-- The byte of an escape at the front of a text, and the rest. -/
def cutByte? : List Char → Option (UInt8 × List Char)
  | '%' :: high :: low :: rest =>
      (Number.whole? 16 [high, low]).map fun byte => (UInt8.ofNat byte, rest)
  | _ => none

/-- The bytes of the escapes at the front of a text, and the rest. Every percent sign has to begin an
escape. -/
def cutBytes? : Nat → List Char → Option (List UInt8 × List Char)
  | 0, text => some ([], text)
  | count + 1, text =>
      if text.head? == some '%' then do
        let (byte, rest) ← cutByte? text
        let (bytes, rest) ← cutBytes? count rest
        some (byte :: bytes, rest)
      else some ([], text)

/-- Whether a character may stand in the name of a tag as it is. -/
def isTagChar (c : Char) : Bool :=
  isNameChar c || ";/?:@&=+$,.!~*\x27()[]".toList.contains c

/-- The name of a tag at the front of a text, and the rest. -/
def cutTagName : Nat → List Char → Option (List Char × List Char)
  | 0, _ => none
  | count + 1, text =>
      match text with
      | [] => some ([], [])
      | c :: rest =>
          if c == '%' then do
            let (bytes, rest) ← cutBytes? text.length text
            let decoded ← Text.Utf8.decode? bytes
            let (name, rest) ← cutTagName count rest
            some (decoded ++ name, rest)
          else if isTagChar c then do
            let (name, rest) ← cutTagName count rest
            some (c :: name, rest)
          else some ([], text)

/-- The name of a tag at the front of a text, which is not empty, and the rest. -/
def cutTagName? (text : List Char) : Option (List Char × List Char) := do
  let (name, rest) ← cutTagName (text.length + 1) text
  if rest.length == text.length then none else some (name, rest)

/-- The handle at the front of a text, and the rest. -/
def cutHandle? (text : List Char) : Option (List Char × List Char) :=
  match text with
  | '!' :: rest =>
      if rest.head? == some ' ' then some (['!'], rest)
      else
        let name := rest.takeWhile isNameChar
        match rest.drop name.length with
        | '!' :: behind => some ('!' :: (name ++ ['!']), behind)
        | _ => none
  | _ => none

/-- A tag at the front of a text, and the rest. -/
def cutTag? (text : List Char) : Option (Token × List Char) := do
  let (token, rest) ← match text.drop 1 with
    | '<' :: inner => do
        let (name, rest) ← cutTagName? inner
        match rest with
        | '>' :: behind => some (Token.tag none name, behind)
        | _ => none
    | behind =>
        if atGap behind then some (Token.tag none ['!'], behind)
        else if (behind.takeWhile fun c => !(c == ' ' || isBreak c)).contains '!' then do
          let (handle, rest) ← cutHandle? text
          let (name, rest) ← cutTagName? rest
          some (Token.tag (some handle) name, rest)
        else do
          let (name, rest) ← cutTagName? behind
          some (Token.tag (some ['!']) name, rest)
  if atWordEnd rest then some (token, rest) else none

/-- A text without the spaces at its front. -/
def trimSpaces (text : List Char) : List Char :=
  text.dropWhile (· == ' ')

/-- The version of the format at the front of a text, and the rest. -/
def cutVersion? (text : List Char) : Option (Token × List Char) := do
  let digits := text.takeWhile (Number.isDigitOf 10)
  let major ← Number.whole? 10 digits
  match text.drop digits.length with
  | '.' :: rest =>
      let minor := rest.takeWhile (Number.isDigitOf 10)
      let behind := rest.drop minor.length
      if minor.isEmpty || !atWordEnd behind then none else some (.version major, behind)
  | _ => none

/-- What a handle stands for, at the front of a text, and the rest. -/
def cutHandleRule? (text : List Char) : Option (Token × List Char) := do
  let (handle, rest) ← cutHandle? text
  if rest.head? != some ' ' then none
  let (start, rest) ← cutTagName? (trimSpaces rest)
  if atWordEnd rest then some (.handle handle start, rest) else none

/-- The directive behind a percent sign at the front of a text, and the rest of its line. -/
def cutDirective? (text : List Char) : Option (Token × List Char) :=
  let name := text.takeWhile isNameChar
  let behind := text.drop name.length
  if name.isEmpty || !atWordEnd behind then none
  else if name == "YAML".toList then cutVersion? (trimSpaces behind)
  else if name == "TAG".toList then cutHandleRule? (trimSpaces behind)
  else some (.directive, behind.dropWhile fun c => !isBreak c)

end Yaml
end LayerLint
