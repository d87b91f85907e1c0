import LayerLint.Yaml.Lexer
import LayerLint.Yaml.Node

/-!
# Reading of YAML

Tokens are read into nodes by recursive descent. An anchor names the node behind it, and an alias
stands for the node that was named before; inside a list or table, an alias of that list or table
stands for it by its mark, which is the number of tokens from its beginning on. A missing key, value
or item is an empty plain scalar. A text holds one document at most. Lists and tables are nested only up to
a given number of levels. The number that bounds the recursion is four times the number of tokens and some
more.
-/

namespace LayerLint
namespace Yaml

/-- What a name stands for. -/
inductive Named
  /-- A list or table that is still being read. -/
  | unfinished (mark : Nat) (isList : Bool)
  | finished (node : Node)

/-- The nodes that were named so far. -/
abbrev Anchors := List (List Char × Named)

/-- What the handles of tags stand for. -/
abbrev Handles := List (List Char × List Char)

/-- A node with the named nodes and the tokens behind it. -/
structure Reading (α : Type) where
  result : α
  anchors : Anchors
  rest : List Token

namespace Anchors

/-- Whether a mark belongs to a list or table that is still being read. -/
def isUnfinished (anchors : Anchors) (mark : Nat) : Bool :=
  anchors.any fun entry =>
    match (anchors.lookup entry.1) with
    | some (.unfinished other _) => other == mark
    | _ => false

/-- The finished list or table with a mark. -/
def ofMark? (anchors : Anchors) (mark : Nat) : Option Node :=
  anchors.findSome? fun entry =>
    match entry.2 with
    | .finished (.list other tag items) =>
        if other = mark then some (.list other tag items) else none
    | .finished (.table other tag entries) =>
        if other = mark then some (.table other tag entries) else none
    | _ => none

/-- A node as it stands outside the lists and tables that are finished by now. The number bounds how
often one such list or table leads to another one. -/
def outside (anchors : Anchors) : Nat → Node → Node
  | 0, node => node
  | count + 1, node =>
      node.close (fun mark =>
        if anchors.isUnfinished mark then none
        else (anchors.ofMark? mark).map (anchors.outside count)) []

/-- The node that an alias stands for. -/
def find? (anchors : Anchors) (name : List Char) : Option Node :=
  match anchors.lookup name with
  | some (.unfinished mark isList) => some (.again mark isList)
  | some (.finished node) => some (anchors.outside anchors.length node)
  | none => none

/-- Give a name to a node, if there is a name. -/
def add (anchors : Anchors) (name : Option (List Char)) (named : Named) : Anchors :=
  match name with
  | some name => (name, named) :: anchors
  | none => anchors

end Anchors

/-- Whether the next token is one of the given ones. -/
def nextIn (tokens : List Token) (expected : List Token) : Bool :=
  tokens.head?.any expected.contains

/-- What stands in front of the content of a node: a name, and the name of a tag. -/
structure Properties where
  name : Option (List Char) := none
  tag : Option (List Char) := none

/-- The name of a tag in full. -/
def tagName? (handles : Handles) (handle : Option (List Char)) (rest : List Char) :
    Option (List Char) :=
  match handle with
  | none => some rest
  | some handle => (handles.lookup handle).map (· ++ rest)

/-- Cut an anchor and a tag, in any order, off the front of some tokens. -/
def cutProperties? (handles : Handles) : List Token → Option (Properties × List Token)
  | .anchor name :: .tag handle tail :: rest =>
      (tagName? handles handle tail).map fun tag => (⟨some name, some tag⟩, rest)
  | .tag handle tail :: .anchor name :: rest =>
      (tagName? handles handle tail).map fun tag => (⟨some name, some tag⟩, rest)
  | .anchor name :: rest => some (⟨some name, none⟩, rest)
  | .tag handle tail :: rest =>
      (tagName? handles handle tail).map fun tag => (⟨none, some tag⟩, rest)
  | tokens => some ({}, tokens)

/-- The tag of a quoted scalar. -/
def quotedTag (name : Option (List Char)) (codes : List Nat) : Tag :=
  match name with
  | none => .text
  | some _ => .orSpelling name (codes.map Char.ofNat)

/-- The beginning of a list or table: its mark and its tag. -/
structure Head where
  mark : Nat
  tag : Tag

/-- Where a node stands. -/
inductive Position
  /-- Inside brackets. -/
  | bracketed
  /-- In a block. -/
  | block
  /-- In a block, where the items of a list need not be indented. -/
  | entry
  deriving DecidableEq

/-- What holds where a node stands: the meaning of handles, and how many lists and tables can still be
nested. -/
structure Scope where
  handles : Handles
  levels : Nat

/-- The scope inside a list or table. -/
def Scope.inside (scope : Scope) : Attempt Scope :=
  match scope.levels with
  | 0 => .error (.breakdown (.tooDeep .yamlNode))
  | levels + 1 => .ok { scope with levels }

mutual

/-- Read a node. A name may be given only once. -/
def readNode (scope : Scope) (position : Position) :
    Nat → Anchors → List Token → Attempt (Reading Node)
  | 0, _, _ => refuse
  | _ + 1, anchors, .alias name :: rest =>
      (orRefuse (anchors.find? name)).map fun node => ⟨node, anchors, rest⟩
  | fuel + 1, anchors, tokens => do
      let (properties, tokens) ← orRefuse (cutProperties? scope.handles tokens)
      if properties.name.any fun name => (anchors.lookup name).isSome then refuse
      else
        let reading ← readContent scope position properties fuel anchors tokens
        pure { reading with
          anchors := reading.anchors.add properties.name (.finished reading.result) }

/-- Read the content of a node, which may be missing behind an anchor or a tag. -/
def readContent (scope : Scope) (position : Position) (properties : Properties) :
    Nat → Anchors → List Token → Attempt (Reading Node)
  | 0, _, _ => refuse
  | fuel + 1, anchors, tokens =>
      let mark := tokens.length
      let asList := anchors.add properties.name (.unfinished mark true)
      let asTable := anchors.add properties.name (.unfinished mark false)
      let listHead : Head := ⟨mark, .orElse properties.tag .list⟩
      let tableHead : Head := ⟨mark, .orElse properties.tag .table⟩
      let missing : Attempt (Reading Node) :=
        if properties.name.isSome || properties.tag.isSome then
          .ok ⟨.scalar (.orSpelling properties.tag []) [], anchors, tokens⟩
        else refuse
      match tokens with
      | .plain text :: rest =>
          .ok ⟨.scalar (.orSpelling properties.tag text) (text.map Char.toNat), anchors, rest⟩
      | .quoted codes :: rest =>
          .ok ⟨.scalar (quotedTag properties.tag codes) codes, anchors, rest⟩
      | .openList :: rest => do
          let scope ← scope.inside
          readListItems scope fuel listHead true [] asList rest
      | .openTable :: rest => do
          let scope ← scope.inside
          readTableEntries scope fuel tableHead true [] asTable rest
      | .item :: _ =>
          if position = .entry then do
            let scope ← scope.inside
            readLooseItems scope fuel listHead [] asList tokens
          else missing
      | .blockList :: rest =>
          if position = .bracketed then missing
          else do
            let scope ← scope.inside
            readBlockItems scope fuel listHead [] asList rest
      | .blockTable :: rest =>
          if position = .bracketed then missing
          else do
            let scope ← scope.inside
            readBlockEntries scope fuel tableHead [] asTable rest
      | _ => missing

/-- Read a node unless one of the given tokens comes next; the node is empty then. -/
def readNodeUnless (scope : Scope) (stops : List Token) (position : Position) :
    Nat → Anchors → List Token → Attempt (Reading Node)
  | 0, _, _ => refuse
  | fuel + 1, anchors, tokens =>
      if nextIn tokens stops then .ok ⟨.empty, anchors, tokens⟩
      else readNode scope position fuel anchors tokens

/-- Read a value if its mark comes next. -/
def readValueBehind (scope : Scope) (stops : List Token) (position : Position) :
    Nat → Anchors → List Token → Attempt (Reading Node)
  | 0, _, _ => refuse
  | fuel + 1, anchors, .value :: rest => readNodeUnless scope stops position fuel anchors rest
  | _ + 1, anchors, tokens => .ok ⟨.empty, anchors, tokens⟩

/-- Read the items of a block list up to its end. -/
def readBlockItems (scope : Scope) :
    Nat → Head → List Node → Anchors → List Token → Attempt (Reading Node)
  | 0, _, _, _, _ => refuse
  | fuel + 1, head, items, anchors, .item :: rest => do
      let reading ← readNodeUnless scope [.item, .blockEnd] .block fuel anchors rest
      readBlockItems scope fuel head (reading.result :: items) reading.anchors reading.rest
  | _ + 1, head, items, anchors, .blockEnd :: rest =>
      .ok ⟨.list head.mark head.tag items.reverse, anchors, rest⟩
  | _, _, _, _, _ => refuse

/-- Read the items of a list that is not indented. -/
def readLooseItems (scope : Scope) :
    Nat → Head → List Node → Anchors → List Token → Attempt (Reading Node)
  | 0, _, _, _, _ => refuse
  | fuel + 1, head, items, anchors, .item :: rest => do
      let reading ← readNodeUnless scope [.item, .key, .value, .blockEnd] .block fuel anchors rest
      readLooseItems scope fuel head (reading.result :: items) reading.anchors reading.rest
  | _ + 1, head, items, anchors, tokens => .ok ⟨.list head.mark head.tag items.reverse, anchors, tokens⟩

/-- Read the entries of a block table up to its end. -/
def readBlockEntries (scope : Scope) :
    Nat → Head → List (Node × Node) → Anchors → List Token → Attempt (Reading Node)
  | 0, _, _, _, _ => refuse
  | fuel + 1, head, entries, anchors, .key :: rest => do
      let key ← readNodeUnless scope [.key, .value, .blockEnd] .entry fuel anchors rest
      let value ← readValueBehind scope [.key, .value, .blockEnd] .entry fuel key.anchors key.rest
      readBlockEntries scope fuel head ((key.result, value.result) :: entries) value.anchors
        value.rest
  | _ + 1, head, entries, anchors, .blockEnd :: rest =>
      .ok ⟨.table head.mark head.tag entries.reverse, anchors, rest⟩
  | _, _, _, _, _ => refuse

/-- Read the items of a list up to its closing bracket. An entry by itself is a table. The flag tells
whether an item may come next. -/
def readListItems (scope : Scope) :
    Nat → Head → Bool → List Node → Anchors → List Token → Attempt (Reading Node)
  | 0, _, _, _, _, _ => refuse
  | _ + 1, head, _, items, anchors, .closeList :: rest =>
      .ok ⟨.list head.mark head.tag items.reverse, anchors, rest⟩
  | fuel + 1, head, true, items, anchors, .key :: rest => do
      let inner ← scope.inside
      let key ← readNodeUnless inner [.value, .comma, .closeList] .bracketed fuel anchors rest
      let value ← readValueBehind inner [.comma, .closeList] .bracketed fuel key.anchors key.rest
      let entry := Node.table (rest.length + 1) .table [(key.result, value.result)]
      readListItems scope fuel head false (entry :: items) value.anchors value.rest
  | fuel + 1, head, true, items, anchors, tokens => do
      let reading ← readNode scope .bracketed fuel anchors tokens
      readListItems scope fuel head false (reading.result :: items) reading.anchors reading.rest
  | fuel + 1, head, false, items, anchors, .comma :: rest =>
      readListItems scope fuel head true items anchors rest
  | _ + 1, _, false, _, _, _ => refuse

/-- Read the entries of a table up to its closing bracket. A key by itself has an empty value. The flag
tells whether an entry may come next. -/
def readTableEntries (scope : Scope) :
    Nat → Head → Bool → List (Node × Node) → Anchors → List Token → Attempt (Reading Node)
  | 0, _, _, _, _, _ => refuse
  | _ + 1, head, _, entries, anchors, .closeTable :: rest =>
      .ok ⟨.table head.mark head.tag entries.reverse, anchors, rest⟩
  | fuel + 1, head, true, entries, anchors, .key :: rest => do
      let key ← readNodeUnless scope [.value, .comma, .closeTable] .bracketed fuel anchors rest
      let value ← readValueBehind scope [.comma, .closeTable] .bracketed fuel key.anchors key.rest
      readTableEntries scope fuel head false ((key.result, value.result) :: entries) value.anchors
        value.rest
  | fuel + 1, head, true, entries, anchors, tokens => do
      let reading ← readNode scope .bracketed fuel anchors tokens
      readTableEntries scope fuel head false ((reading.result, .empty) :: entries) reading.anchors
        reading.rest
  | fuel + 1, head, false, entries, anchors, .comma :: rest =>
      readTableEntries scope fuel head true entries anchors rest
  | _ + 1, _, false, _, _, _ => refuse

end

/-- The handles that every document has, unless it gives them another meaning. -/
def usualHandles : Handles :=
  [(['!'], ['!']), (['!', '!'], Tag.usualStart)]

/-- Read the directives in front of a document. The version may be stated once and has to begin with
one, and a handle may be given a meaning once. -/
def directives? (versioned : Bool) (handles : Handles) : List Token → Option (Handles × List Token)
  | .version major :: rest => if versioned || major != 1 then none else directives? true handles rest
  | .handle name start :: rest =>
      if (handles.lookup name).isSome then none
      else directives? versioned ((name, start) :: handles) rest
  | .directive :: rest => directives? versioned handles rest
  | tokens => some (handles ++ usualHandles, tokens)

/-- Whether a token is a directive. -/
def isDirective : Token → Bool
  | .version _ => true
  | .handle _ _ => true
  | .directive => true
  | _ => false

/-- Whether a document ends in front of some tokens without any content. -/
def atDocumentEnd (tokens : List Token) : Bool :=
  tokens.head?.all fun token =>
    isDirective token || token == .documentStart || token == .documentEnd

/-- Read the content of a document, which may be missing. -/
def readDocumentContent (scope : Scope) (tokens : List Token) : Attempt (Reading Node) :=
  if atDocumentEnd tokens then .ok ⟨.empty, [], tokens⟩
  else readNode scope .block (4 * tokens.length + 4) [] tokens

/-- Read a document with its directives and its mark. A document without a mark has no directives, and
it is not missing unless the text is. -/
def readMarked (levels : Nat) (tokens : List Token) : Attempt (Reading Node) :=
  match tokens with
  | [] => .ok ⟨.empty, [], []⟩
  | first :: _ =>
      if isDirective first || first == .documentStart then
        match directives? false [] tokens with
        | some (handles, .documentStart :: rest) => readDocumentContent ⟨handles, levels⟩ rest
        | _ => refuse
      else readNode ⟨usualHandles, levels⟩ .block (4 * tokens.length + 4) [] tokens

/-- Read the only document of some tokens. -/
def readDocument (levels : Nat) (tokens : List Token) : Attempt Node := do
  let reading ← readMarked levels tokens
  if (reading.rest.dropWhile (· == .documentEnd)).isEmpty then pure reading.result else refuse

/-- The value of a YAML text in which lists and tables are nested at most so deep. -/
def parse (levels : Nat) (text : List Char) : Attempt Value := do
  let tokens ← tokens text
  let node ← readDocument levels tokens
  node.toValue

end Yaml
end LayerLint
