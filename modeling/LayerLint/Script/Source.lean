import LayerLint.Script.Rules.Statements

/-!
# The syntax tree of a script source

The root of the tree is the program. Below it stand the comments and the statements in document order,
and below a statement the import and export statements in it, each with the string that names its
module. A program without statements and comments is an empty span at the end of the file.
-/

namespace LayerLint
namespace Script

/-- Read the statement at a cursor, as a node with the import and export statements in it. -/
def statementAt? (dialect : Dialect) (depth : Nat) (cursor : Cursor) : Option (Tree × Cursor) :=
  match Form.read (Rules.formOf dialect) depth (.node "statement" (.phrase .statement)) ⟨cursor, []⟩ with
  | some ⟨behind, [node]⟩ => some (node, behind)
  | _ => none

/-- Read the part of a program at a cursor that stands in front of a glyph: a comment, a statement, or
where no statement begins a single glyph. -/
def partAt (dialect : Dialect) (depth : Nat) (cursor : Cursor) : Tree × Cursor :=
  let span := fun (kind : String) (behind : Cursor) =>
    (Tree.node (Form.labelOf kind cursor.place behind.place) [], behind)
  match cursor.comment? with
  | some behind => span "comment" behind
  | none =>
      match statementAt? dialect depth cursor with
      | some (node, behind) =>
          if cursor.place.offset < behind.place.offset then (node, behind)
          else span "unread" cursor.step
      | none => span "unread" cursor.step

/-- The parts of a program. The first argument bounds their number. -/
def parts (dialect : Dialect) (depth : Nat) : Nat → Cursor → List Tree
  | 0, _ => []
  | count + 1, cursor =>
      let here := cursor.skip isSpace
      if here.rest.isEmpty then []
      else
        let (node, behind) := partAt dialect depth here
        node :: parts dialect depth count behind

/-- The line that names the interpreter of a script, at the beginning of the source. -/
def hashBang? (cursor : Cursor) : Option (Tree × Cursor) :=
  let here := cursor.skip isSpace
  (here.strip? ['#', '!']).map fun inside =>
    let behind := inside.skip (· != '\n')
    (.node (Form.labelOf "hash_bang_line" here.place behind.place) [], behind)

/-- The syntax tree of a source. -/
def tree (dialect : Dialect) (source : List UInt8) : Tree :=
  let start := Cursor.ofBytes source
  let depth := 256 * (source.length + 4)
  let count := source.length + 1
  let children := match hashBang? start with
    | some (node, behind) => node :: parts dialect depth count behind
    | none => parts dialect depth count start
  let stop := (start.skip fun _ => true).place
  match children with
  | [] => .node (Form.labelOf "program" stop stop) []
  | child :: _ =>
      .node { child.label with kind := "program", stop := stop.offset, content := source } children

end Script
end LayerLint
