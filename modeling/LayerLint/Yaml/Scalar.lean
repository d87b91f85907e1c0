import LayerLint.Number.Reader
import LayerLint.Yaml.Token

/-!
# Scalars in YAML texts

A scalar is read from its first character on. It may run over several lines, which are folded: a line
end between words is a space, and empty lines are line ends. The number that bounds the recursion is
the number of characters that are left.
-/

namespace LayerLint
namespace Yaml

/-- Whether a character structures what stands in brackets. -/
def isBracketSign (c : Char) : Bool :=
  c == ',' || c == '[' || c == ']' || c == '\x7b' || c == '\x7d'

/-- Whether a plain word ends in front of a character with the given text behind it: at a gap, in front
of the colon of a key, and inside brackets also at the signs that structure them. -/
def endsWord (inBrackets : Bool) (c : Char) (rest : List Char) : Bool :=
  isGap c ||
  (c == ':' && (atGap rest || (inBrackets && rest.head?.any isBracketSign))) ||
  (inBrackets && (isBracketSign c || c == '?'))

/-- The length of a plain word. -/
def wordLength (inBrackets : Bool) : List Char → Nat
  | [] => 0
  | c :: rest => if endsWord inBrackets c rest then 0 else wordLength inBrackets rest + 1

/-- What separates two words of a plain scalar. -/
structure Gap where
  text : List Char
  cursor : Cursor
  /-- Whether the gap contains the end of a line. -/
  broken : Bool

/-- Pass over empty lines and indentation. The outcome has no text in front of a document mark. -/
def passLines : Nat → List Char → Cursor → Option (List Char) × Cursor
  | 0, breaks, cursor => (some breaks.reverse, cursor)
  | count + 1, breaks, cursor =>
      match cursor.peek? with
      | none => (some breaks.reverse, cursor)
      | some c =>
          if c == ' ' then passLines count breaks cursor.next
          else if isBreak c then
            if atDocumentMark cursor.next.rest then (none, cursor.next)
            else passLines count (breakText c :: breaks) cursor.next
          else (some breaks.reverse, cursor)

/-- The gap at the cursor. -/
def gapAt (cursor : Cursor) : Gap :=
  let spaces := cursor.rest.takeWhile (· == ' ')
  let behind := cursor.skip spaces.length
  match behind.peek? with
  | none => ⟨spaces, behind, false⟩
  | some c =>
      if isBreak c then
        if atDocumentMark behind.next.rest then ⟨[], behind.next, true⟩
        else
          match passLines behind.next.rest.length [] behind.next with
          | (some breaks, cursor) => ⟨foldText c breaks, cursor, true⟩
          | (none, cursor) => ⟨[], cursor, true⟩
      else ⟨spaces, behind, false⟩

/-- A plain scalar: its text, the cursor behind it, and whether the cursor is on a new line. -/
structure PlainRun where
  text : List Char
  cursor : Cursor
  broken : Bool

/-- Read on in a plain scalar. Outside brackets its lines are indented by at least `indent`. -/
def plainRun (inBrackets : Bool) (indent : Nat) :
    Nat → List Char → List Char → Bool → Cursor → PlainRun
  | 0, text, _, broken, cursor => ⟨text, cursor, broken⟩
  | count + 1, text, spaces, broken, cursor =>
      let length := if cursor.isAt '#' then 0 else wordLength inBrackets cursor.rest
      if length == 0 then ⟨text, cursor, broken⟩
      else
        let text := text ++ spaces ++ cursor.rest.take length
        let gap := gapAt (cursor.skip length)
        if gap.text.isEmpty || gap.cursor.isAt '#' ||
            (!inBrackets && gap.cursor.column < indent) then
          ⟨text, gap.cursor, gap.broken⟩
        else plainRun inBrackets indent count text gap.text gap.broken gap.cursor

/-- The character that a one-letter escape stands for. -/
def escaped? (c : Char) : Option Char :=
  [('0', '\x00'), ('a', '\x07'), ('b', '\x08'), ('t', '\t'), ('\t', '\t'), ('n', '\n'), ('v', '\x0b'),
    ('f', '\x0c'), ('r', '\r'), ('e', '\x1b'), (' ', ' '), ('\x22', '\x22'), ('\\', '\\'), ('/', '/'),
    ('N', '\x85'), ('_', '\xa0'), ('L', '\u2028'), ('P', '\u2029')].lookup c

/-- The number of digits of an escape that gives a code point. -/
def codeLength? (c : Char) : Option Nat :=
  [('x', 2), ('u', 4), ('U', 8)].lookup c

/-- The code point that an escape asks for. Half a pair of surrogates will do. -/
def codeOf (code : Nat) : Attempt Nat :=
  if code < 0x110000 then .ok code
  else if code < 0x80000000 then .error (.breakdown .codeTooLarge)
  else .error (.breakdown .codeTooWide)

/-- Pass over the line ends and the indentation behind a line end inside quotes. A document mark may
not stand there. -/
def quotedBreaks : Nat → List Char → Cursor → Attempt (List Char × Cursor)
  | 0, _, _ => refuse
  | count + 1, breaks, cursor =>
      if atDocumentMark cursor.rest then refuse
      else
        let behind := cursor.skipWhile fun c => c == ' ' || c == '\t'
        match behind.peek? with
        | none => refuse
        | some c =>
            if isBreak c then quotedBreaks count (breakText c :: breaks) behind.next
            else .ok (breaks.reverse, behind)

/-- Put characters behind a text whose last code point comes first. -/
def push (characters : List Char) (text : List Nat) : List Nat :=
  characters.reverse.map Char.toNat ++ text

/-- Read on in a quoted scalar. The text so far has its last code point first. -/
def quotedRun (double : Bool) : Nat → List Nat → Cursor → Attempt (List Nat × Cursor)
  | 0, _, _ => refuse
  | count + 1, text, cursor =>
      match cursor.rest with
      | [] => refuse
      | c :: rest =>
          if c == ' ' || c == '\t' then
            let spaces := cursor.rest.takeWhile fun d => d == ' ' || d == '\t'
            let behind := cursor.skip spaces.length
            if behind.isAtBreak then quotedRun double count text behind
            else quotedRun double count (push spaces text) behind
          else if isBreak c then do
            let (breaks, behind) ← quotedBreaks (rest.length + 1) [] cursor.next
            quotedRun double count (push (foldText c breaks) text) behind
          else if double then
            if c == '\x22' then .ok (text.reverse, cursor.next)
            else if c == '\\' then
              match rest with
              | [] => refuse
              | d :: digits =>
                  match escaped? d, codeLength? d with
                  | some character, _ =>
                      quotedRun double count (character.toNat :: text) (cursor.skip 2)
                  | none, some length =>
                      match Number.whole? 16 (digits.take length) with
                      | some code =>
                          if digits.length < length then refuse
                          else do
                            let code ← codeOf code
                            quotedRun double count (code :: text) (cursor.skip (2 + length))
                      | none => refuse
                  | none, none =>
                      if isBreak d then do
                        let (breaks, behind) ← quotedBreaks (rest.length + 1) [] (cursor.skip 2)
                        quotedRun double count (push breaks text) behind
                      else refuse
            else quotedRun double count (c.toNat :: text) cursor.next
          else if c == '\x27' then
            if rest.head? == some '\x27' then quotedRun double count (c.toNat :: text) (cursor.skip 2)
            else .ok (text.reverse, cursor.next)
          else quotedRun double count (c.toNat :: text) cursor.next

end Yaml
end LayerLint
