import LayerLint.Script.Rules.Types

/-!
# The forms of expressions

Operators are not ranked: an expression is a sequence of operands with operators between them. The
brackets of a function's parameters are read like those around an expression, and whether they were
parameters shows behind them.
-/

namespace LayerLint
namespace Script
namespace Rules

open Form

/-- An expression without commas inside brackets. -/
def closedAssignment : Form :=
  .phrase (.assignment .inside)

/-- Operators between two operands. -/
def binarySigns : List String :=
  ["=", "+=", "-=", "*=", "/=", "%=", "**=", "<<=", ">>=", ">>>=", "&=", "|=", "^=", "&&=", "||=", "??=",
    "+", "-", "*", "/", "%", "**", "<", ">", "<=", ">=", "==", "!=", "===", "!==", "&&", "||", "??", "&",
    "|", "^", "<<", ">>", ">>>"]

/-- What may begin an operand but is no operator between two operands. -/
def operandAhead : Form :=
  .ahead (any [all [.notAhead (wordOf ["in", "instanceof", "as", "satisfies"]), anyWord],
    .terminal .number, string, signOf ["\x7b", "[", "!", "~", "@", "++", "--"]])

/-- Type arguments of an expression: a call follows, or the end of the statement, or nothing that could
be the right side of a comparison. -/
def expressionTypeArguments (ending : Ending) : Form :=
  all [.phrase .typeArguments,
    any [.ahead (sign "("), .ahead (mark "\x60"),
      all [.notAhead (any [mark "<", mark ">", mark "+", mark "-"]),
        any [.ahead (statementEnd ending), .notAhead operandAhead]]]]

/-- What may stand behind an operand and belongs to it. -/
def access : Form :=
  any
    [all [sign ".", anyWord],
    all [sign "?.",
      any [.phrase .cover, square (.phrase (.expression .inside)),
        all [.phrase .typeArguments, .phrase .cover], anyWord, .phrase .template]],
    .phrase .cover, square (.phrase (.expression .inside)), .phrase .template, sign "!"]

/-- What may carry on an expression. -/
def continuation (context : Context) : Form :=
  any
    [access, expressionTypeArguments context.ending, signOf ["++", "--"],
    all [wordOf ["as", "satisfies"], any [word "const", .phrase (.type context.ending)]],
    all [word "instanceof", .phrase (.operand context)],
    if context.withoutIn then .notAhead nothing else all [word "in", .phrase (.operand context)],
    all [sign "?", .notAhead (signOf [":", ")", ",", "="]), .phrase (.assignment .beforeColon), sign ":",
      .phrase (.assignment context)],
    all [signOf binarySigns, .phrase (.operand context)]]

/-- An expression without commas. -/
def assignment (context : Context) : Form :=
  all [.phrase (.operand context),
    .many (all [.notAhead (statementEnd context.ending), continuation context])]

/-- An expression. -/
def expression (context : Context) : Form :=
  commas (.phrase (.assignment context))

/-- An expression that can be assigned to or called. -/
def leftHand : Form :=
  all [.phrase (.operand .inside), .many (any [access, .phrase .typeArguments])]

/-- A return type whose last part is a type in round brackets, with the arrow behind it. -/
def bracketedReturn : Form :=
  all [.many (all [.phrase (.typeOperand .closed), signOf ["|", "&"]]), bracketedType .closed, sign "=>"]

/-- What stands behind the parameters of an arrow function. A return type counts only if the arrow
follows, and where a colon has to follow only if the function leaves one. -/
def arrowTail (context : Context) : Form :=
  any
    [all [sign "=>", .phrase (.arrowBody context)],
    all [sign ":", .phrase (.returnType .closed), sign "=>", .phrase (.arrowBody context),
      if context.colonFollows then .ahead (sign ":") else nothing],
    if context.colonFollows then .notAhead nothing
    else all [sign ":", bracketedReturn, .phrase (.arrowBody context)]]

/-- The body of an arrow function. -/
def arrowBody (context : Context) : Form :=
  any [.phrase (.block .computed), .phrase (.assignment context)]

/-- Round brackets around expressions, arguments or the parameters of an arrow function. -/
def cover : Form :=
  round (looseCommas
    (all [opt (sign "..."), closedAssignment, opt (sign "?"), opt (ofType .closed),
      opt (all [sign "=", closedAssignment])]))

/-- A parameter of a function. -/
def parameter : Form :=
  all [.many (.phrase .decorator),
    .many (all [wordOf ["public", "private", "protected", "override", "readonly"],
      .ahead (any [name, sign "\x7b", sign "["])]),
    opt (sign "..."), any [name, .phrase .objectLiteral, .phrase .arrayLiteral], opt (sign "?"),
    opt (ofType .closed), opt (all [sign "=", closedAssignment])]

/-- The parameters of a function. -/
def parameters : Form :=
  round (looseCommas parameter)

/-- The name of a property. -/
def propertyName : Form :=
  any [anyWord, string, .terminal .number, square closedAssignment]

/-- A property of an object, or a part of a pattern for objects. -/
def property : Form :=
  any
    [all [sign "...", closedAssignment],
    all [modifiers ["get", "set", "async", "static"], opt (sign "*"), .phrase .propertyName,
      any [all [.phrase (.signature .closed), .phrase (.block .computed)],
        all [sign ":", closedAssignment], all [sign "=", closedAssignment], nothing]]]

/-- An object, or a pattern for objects. -/
def objectLiteral : Form :=
  braces (looseCommas property)

/-- A list, or a pattern for lists. -/
def arrayLiteral : Form :=
  square (looseCommas (all [opt (sign "..."), closedAssignment]))

/-- A template. -/
def template : Form :=
  all [mark "\x60",
    .many (any [.terminal .templateText,
      all [.terminal (.bare "$\x7b"), .phrase (.expression .inside), sign "\x7d"]]),
    .terminal (.bare "\x60")]

/-- What stands behind the word function. -/
def functionTail : Form :=
  all [opt (sign "*"), opt name, .phrase (.signature .closed), .phrase (.block .computed)]

/-- The name of a class. -/
def className : Form :=
  all [.notAhead (word "implements"), name]

/-- Expressions that begin with the word async. -/
def asyncOperand (context : Context) : Form :=
  all [leadingWord context.ending "async",
    any [all [word "function", .phrase .functionTail],
      all [name, .phrase (.arrowTail context)],
      all [.phrase .cover, opt (.phrase (.arrowTail context))],
      all [.phrase .typeParameters, .phrase .cover, .phrase (.arrowTail context)]]]

/-- Operands without an operator in front of them. -/
def simpleOperand (dialect : Dialect) (context : Context) : Form :=
  any
    [all [.phrase .cover, opt (.phrase (.arrowTail context))],
    asyncOperand context,
    all [name, opt (all [sign "=>", .phrase (.arrowBody context)])],
    .phrase .objectLiteral, .phrase .arrayLiteral, .phrase .template, string, .terminal .number,
    .terminal .regex,
    all [word "function", .phrase .functionTail],
    all [.many (.phrase .decorator), word "class", opt className, .phrase .classTail],
    all [word "import", any [.phrase .cover, all [sign ".", anyWord]]],
    all [word "new", sign ".", anyWord],
    all [word "new", .ahead (statementEnd context.ending)],
    if dialect == .markup then .phrase .element else .notAhead nothing,
    all [.ahead (mark "#"), anyWord]]

/-- An operand with the operators in front of it. Words that may be names of their own are operators
only if an operand follows. -/
def operand (dialect : Dialect) (context : Context) : Form :=
  any
    [all [any [signOf ["!", "~", "+", "-", "++", "--"], wordOf ["typeof", "void", "delete"]],
      .phrase (.operand context)],
    all [word "await", .phrase (.operand context)],
    all [leadingWord context.ending "yield", opt (sign "*"), .phrase (.assignment context)],
    all [leadingWord context.ending "new", .notAhead (sign "."), .phrase (.operand context)],
    simpleOperand dialect context,
    if dialect == .plain then
      all [any [.phrase .typeParameters, all [mark "<", any [word "const", closedType], mark ">"]],
        .phrase (.operand context)]
    else all [.phrase .typeParameters, .phrase (.operand context)]]

end Rules
end Script
end LayerLint
