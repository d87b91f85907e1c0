import LayerLint.Script.Rules.Classes

/-!
# The forms of statements

Statements that name a module become nodes of the syntax tree. The end of a line ends a statement
wherever a semicolon may stand; blocks and classes end with it too if they can.
-/

namespace LayerLint
namespace Script
namespace Rules

open Form

/-- An expression in round brackets. -/
def condition : Form :=
  round (.phrase (.expression .inside))

/-- Statements in braces. -/
def block (ending : Ending) : Form :=
  all [braces (.many (.phrase .statement)), opt (statementEnd ending)]

/-- A word that begins a declaration. If the declaration stands on its own, the end of its line makes
the word an expression. -/
def declaringWord (onItsOwn : Bool) (text : String) : Form :=
  leadingWord (if onItsOwn then .computed else .closed) text

/-- Declared variables with their types and values, and the end of the statement. -/
def declarators : Form :=
  let behind := fun (ending : Ending) =>
    any [all [sign ",", .phrase .declarators], semicolon ending]
  all [any [name, .phrase .objectLiteral, .phrase .arrayLiteral], opt (sign "!"),
    opt (ofType .declared),
    any [all [sign "=", .phrase (.assignment .openEnded), behind .computed], behind .declared]]

/-- A declaration of variables. -/
def variableDeclaration (onItsOwn : Bool) : Form :=
  all
    [any [word "var", all [word "const", .notAhead (word "enum")],
      all [declaringWord onItsOwn "let", .ahead (any [name, sign "\x7b", sign "["])]],
    .phrase .declarators]

/-- A declaration of a function, with or without its body. -/
def function (onItsOwn : Bool) : Form :=
  all [opt (declaringWord onItsOwn "async"), word "function", opt (sign "*"), name,
    .phrase (.signature .declared), any [.phrase (.block .computed), semicolon .declared]]

/-- A declaration of a class. -/
def classDeclaration : Form :=
  all [.many (.phrase .decorator),
    any [all [word "abstract", word "class", className, .phrase .classTail],
      all [word "class", className, .phrase .classTail, opt (statementEnd .computed)]]]

/-- A declaration of an interface. -/
def interface : Form :=
  all [word "interface", name, opt (.phrase .typeParameters),
    .many (all [word "extends", commas closedType]), .phrase .objectType]

/-- A declaration of an enumeration. -/
def enumeration : Form :=
  all [opt (word "const"), word "enum", name,
    braces (looseCommas (all [.phrase .propertyName, opt (all [sign "=", closedAssignment])]))]

/-- A declaration of a type. -/
def typeAlias (onItsOwn : Bool) : Form :=
  all [declaringWord onItsOwn "type", name, opt (.phrase .typeParameters), sign "=",
    .phrase (.type .declared), semicolon .declared]

/-- A declaration of a namespace. One that stands on its own is an expression too, and the end of a
line ends it even in front of its body. -/
def namespaceBlock (onItsOwn : Bool) : Form :=
  all [declaringWord onItsOwn "namespace", entityName,
    if onItsOwn then any [statementEnd .computed, .phrase (.block .computed)]
    else opt (.phrase (.block .declared))]

/-- A declaration of a module. -/
def moduleBlock (onItsOwn : Bool) : Form :=
  all [declaringWord onItsOwn "module", any [string, entityName], opt (.phrase (.block .declared))]

/-- A declaration of something that is defined elsewhere. -/
def ambient (onItsOwn : Bool) : Form :=
  all [declaringWord onItsOwn "declare",
    any [all [word "global", .phrase (.block .declared)], .phrase (.declaration false)]]

/-- Another name for a member of a namespace. -/
def importAlias : Form :=
  all [word "import", any [all [word "type", name, sign "="], all [name, sign "="]], entityName,
    semicolon .declared]

/-- A declaration. -/
def declaration (onItsOwn : Bool) : Form :=
  any [variableDeclaration onItsOwn, function onItsOwn, classDeclaration, typeAlias onItsOwn,
    interface, enumeration, namespaceBlock onItsOwn, moduleBlock onItsOwn, ambient onItsOwn,
    importAlias]

/-- The string that names a module, what the import asks of it, and the end of the statement. -/
def moduleSource : Form :=
  all [.source string,
    opt (all [.notAhead (statementEnd .declared), wordOf ["with", "assert"], .phrase .objectLiteral]),
    semicolon .declared]

/-- The module behind the word from. -/
def fromModule : Form :=
  all [word "from", moduleSource]

/-- Names in braces. -/
def nameList : Form :=
  braces (looseCommas (any [anyWord, string]))

/-- All names of a module under one name. -/
def wildcard : Form :=
  all [sign "*", word "as", any [anyWord, string]]

/-- The names that an import brings in. -/
def importClause : Form :=
  any [wildcard, nameList, all [name, opt (all [sign ",", any [wildcard, nameList]])]]

/-- A module that is required under a name. -/
def requireClause : Form :=
  .node "import_require_clause" (all [name, sign "=", word "require", round (.source string)])

/-- An import statement. -/
def importStatement : Form :=
  let bindings := any [all [importClause, fromModule], all [requireClause, semicolon .declared]]
  .node "import_statement" (all [word "import",
    any [moduleSource, all [wordOf ["type", "typeof"], bindings], bindings]])

/-- What stands behind names in braces that are exported. -/
def exportListTail : Form :=
  any [statementEnd .declared, fromModule, sign ";"]

/-- What an export statement exports. -/
def exported : Form :=
  let names := any [all [wildcard, fromModule], all [sign "*", fromModule],
    all [nameList, exportListTail]]
  any
    [names, all [word "type", names],
    all [word "default",
      any [function true, classDeclaration, interface,
        all [.phrase (.assignment .openEnded), semicolon .computed]]],
    all [sign "=", .phrase (.expression .openEnded), semicolon .computed],
    all [word "as", word "namespace", name, semicolon .declared],
    .phrase (.declaration false)]

/-- An export statement. -/
def exportStatement : Form :=
  .node "export_statement" (all [.many (.phrase .decorator), word "export", exported])

/-- The head of a loop over counters or over the parts of a value. -/
def loopHead : Form :=
  let variableWord := wordOf ["var", "let", "const"]
  let parts := all [wordOf ["of", "in"], .phrase (.expression .inside)]
  let counter := all [any [name, .phrase .objectLiteral, .phrase .arrayLiteral],
    opt (ofType .closed), opt (all [sign "=", .phrase (.assignment .loopHead)])]
  any
    [all [variableWord, .phrase .leftHand, parts],
    all [.phrase .leftHand, parts],
    all [opt (any [all [variableWord, commas counter], .phrase (.expression .loopHead)]), sign ";",
      opt (.phrase (.expression .inside)), sign ";", opt (.phrase (.expression .inside))]]

/-- A clause of a choice between cases. -/
def caseClause : Form :=
  let value := any [all [.phrase (.expression .inside), .ahead (sign ":")],
    .phrase (.expression .beforeColon)]
  all [any [all [word "case", value], word "default"], sign ":", .many (.phrase .statement)]

/-- What handles the failures of a block. -/
def handler : Form :=
  all [word "catch",
    opt (round (all [any [name, .phrase .objectLiteral, .phrase .arrayLiteral],
      opt (ofType .closed)])), .phrase (.block .declared)]

/-- A word that may carry a value or a label, and the end of the statement. -/
def jump (text : String) (carried : Form) (ending : Ending) : Form :=
  all [word text, any [semicolon .declared, all [carried, semicolon ending]]]

/-- Statements that are made of other statements. -/
def compound : Form :=
  any
    [all [sign "\x7b", sign "\x7d", opt (statementEnd .computed)], .phrase (.block .declared),
    all [word "if", condition, .phrase .statement, opt (all [word "else", .phrase .statement])],
    all [word "for", opt (word "await"), round loopHead, .phrase .statement],
    all [wordOf ["while", "with"], condition, .phrase .statement],
    all [word "do", .phrase .statement, word "while", condition, opt (semicolon .declared)],
    all [word "try", .phrase (.block .declared), opt handler,
      opt (all [word "finally", .phrase (.block .declared)])],
    all [word "switch", condition, braces (.many caseClause)],
    all [name, sign ":", .phrase .statement]]

/-- Statements that leave a block. -/
def leaving : Form :=
  any
    [jump "return" (.phrase (.expression .openEnded)) .computed,
    all [word "throw", .phrase (.expression .openEnded), semicolon .computed],
    jump "break" name .declared, jump "continue" name .declared,
    all [word "debugger", semicolon .declared]]

/-- A statement. -/
def statement : Form :=
  any
    [sign ";", compound, leaving, importStatement,
    all [word "export", statementEnd .computed], exportStatement,
    .phrase (.declaration true),
    all [.phrase (.expression .openEnded), semicolon .computed]]

/-- The form of every phrase. -/
def formOf (dialect : Dialect) : Phrase → Form
  | .statement => statement
  | .block ending => block ending
  | .declaration onItsOwn => declaration onItsOwn
  | .declarators => declarators
  | .expression context => expression context
  | .assignment context => assignment context
  | .operand context => operand dialect context
  | .leftHand => leftHand
  | .arrowTail context => arrowTail context
  | .arrowBody context => arrowBody context
  | .cover => cover
  | .parameters => parameters
  | .objectLiteral => objectLiteral
  | .arrayLiteral => arrayLiteral
  | .template => template
  | .functionTail => functionTail
  | .classTail => classTail
  | .member => member
  | .decorator => decorator
  | .propertyName => propertyName
  | .element => element
  | .markupHole => markupHole
  | .type ending => type ending
  | .union ending => union ending
  | .typeOperand ending => typeOperand ending
  | .returnType ending => returnType ending
  | .signature ending => signature ending
  | .typeArguments => typeArguments
  | .typeParameters => typeParameters
  | .objectType => objectType
  | .typeMember => typeMember

end Rules
end Script
end LayerLint
