import LayerLint.Script.Form

/-!
# The forms of types

Types, type arguments and parameters, the members of object types, and the return types of functions.
Inside the brackets of a type a line end has no meaning.
-/

namespace LayerLint
namespace Script
namespace Rules

open Form

/-- A type inside brackets. -/
def closedType : Form :=
  .phrase (.type .closed)

/-- A type behind a colon. -/
def ofType (ending : Ending) : Form :=
  all [sign ":", .phrase (.type ending)]

/-- A name with further names behind points. -/
def entityName : Form :=
  all [name, .many (all [sign ".", anyWord])]

/-- One entry of a bracketed list of types: it may be spread, optional, or a name with a type. -/
def typeEntry : Form :=
  all [opt (sign "..."), closedType, opt (sign "?"), opt (ofType .closed)]

/-- Brackets behind a type, for lists of it or for one of its members. -/
def typeSuffix (ending : Ending) : Form :=
  .many (all [.notAhead (statementEnd ending), square (opt closedType)])

/-- A type in round brackets. -/
def bracketedType (ending : Ending) : Form :=
  all [round closedType, typeSuffix ending]

/-- The types of functions. -/
def functionType (ending : Ending) : Form :=
  all [opt (word "abstract"), opt (word "new"), opt (.phrase .typeParameters), .phrase .parameters,
    sign "=>", .phrase (.returnType ending)]

/-- The type of a module that is imported on demand. -/
def importType : Form :=
  all [word "import", round (looseCommas (.phrase (.assignment .inside))),
    .many (all [sign ".", anyWord]), opt (.phrase .typeArguments)]

/-- The type of a value. -/
def typeQuery : Form :=
  all [word "typeof",
    any [importType, all [name, .many (all [sign ".", anyWord]), opt (.phrase .typeArguments)]]]

/-- The texts of templates with types in them. -/
def templateType : Form :=
  all [mark "\x60",
    .many (any [.terminal .templateText,
      all [.terminal (.bare "$\x7b"), closedType, sign "\x7d"]]),
    .terminal (.bare "\x60")]

/-- Types that are no operators applied to other types. -/
def simpleType : Form :=
  any [.phrase .objectType, square (looseCommas typeEntry), templateType, string,
    all [opt (sign "-"), .terminal .number], typeQuery, importType, word "void",
    all [entityName, opt (.phrase .typeArguments)]]

/-- A type with the words that apply to it and the brackets behind it. The keys of a bracketed type are
no function from it. -/
def typeOperand (ending : Ending) : Form :=
  any
    [all [word "keyof", .notAhead (statementEnd ending), bracketedType ending],
    all [wordOf ["keyof", "unique", "readonly", "infer"], .notAhead (statementEnd ending),
      .phrase (.typeOperand ending)],
    functionType ending, bracketedType ending,
    all [simpleType, typeSuffix ending]]

/-- Types joined by bars and ampersands. -/
def union (ending : Ending) : Form :=
  all [opt (signOf ["|", "&"]), .phrase (.typeOperand ending),
    .many (all [signOf ["|", "&"], .phrase (.typeOperand ending)])]

/-- The bound of a type. -/
def bound (ending : Ending) : Form :=
  all [.notAhead (statementEnd ending), word "extends", .phrase (.union .closed)]

/-- Any type: a union, or a choice between two types. -/
def type (ending : Ending) : Form :=
  all [.phrase (.union ending),
    opt (all [bound ending, .many (bound .closed),
      opt (all [sign "?", closedType, sign ":", .phrase (.type ending)])])]

/-- The type that a function returns, which may be a statement about an argument. -/
def returnType (ending : Ending) : Form :=
  any
    [all [word "asserts", name, .notAhead (statementEnd ending), word "is", .phrase (.type ending)],
    all [name, .notAhead (statementEnd ending), word "is", .phrase (.type ending)],
    all [word "asserts", .notAhead (statementEnd ending), .notAhead (word "is"), name],
    .phrase (.type ending)]

/-- Type parameters, parameters and return type of a function. -/
def signature (ending : Ending) : Form :=
  all [opt (.phrase .typeParameters), .phrase .parameters,
    opt (all [sign ":", .phrase (.returnType ending)])]

/-- Types in angles. -/
def typeArguments : Form :=
  all [mark "<", looseCommas closedType, mark ">"]

/-- A type parameter with its bound and its default. -/
def typeParameter : Form :=
  all [.many (all [wordOf ["const", "in", "out"], .ahead name]), name,
    opt (all [word "extends", closedType]), opt (all [sign "=", closedType])]

/-- Type parameters in angles. -/
def typeParameters : Form :=
  all [mark "<", looseCommas typeParameter, mark ">"]

/-- A name with a type in square brackets, as the key of any number of members. -/
def indexKey : Form :=
  square (all [anyWord, sign ":", closedType])

/-- The key of members that are made for every member of a type. -/
def mappedKey : Form :=
  square (all [anyWord, word "in", closedType, opt (all [word "as", closedType])])

/-- A sign that adds or takes away a mark. -/
def change : Form :=
  opt (signOf ["+", "-"])

/-- What may stand at the beginning of the name of a member. -/
def nameAhead : Form :=
  .ahead (any [anyWord, string, .terminal .number, sign "[", sign "*"])

/-- Words in front of the name of a member. -/
def modifiers (words : List String) : Form :=
  .many (all [wordOf words, nameAhead])

/-- A member of an object type. -/
def typeMember : Form :=
  any
    [all [opt (all [change, word "readonly"]), mappedKey, opt (all [change, sign "?"]),
      opt (ofType .declared)],
    all [modifiers ["readonly", "static"], indexKey, opt (sign "?"), opt (ofType .declared)],
    .phrase (.signature .declared),
    all [opt (word "abstract"), word "new", opt (sign "?"), .phrase (.signature .declared)],
    all [sign "...", anyWord],
    all [modifiers ["readonly", "get", "set", "static", "public", "private", "protected"],
      .phrase .propertyName, opt (sign "?"),
      any [.phrase (.signature .declared), opt (ofType .declared)]]]

/-- An object type. -/
def objectType : Form :=
  braces (.many (any
    [signOf [",", ";"],
    all [.phrase .typeMember, any [sign ",", semicolon .declared]]]))

end Rules
end Script
end LayerLint
