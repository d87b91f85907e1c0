import LayerLint.Script.Rules.Expressions

/-!
# The forms of classes and markup elements
-/

namespace LayerLint
namespace Script
namespace Rules

open Form

/-- The classes that a class is made from. -/
def heritage : Form :=
  any [all [word "extends", commas (.phrase .leftHand)], all [word "implements", commas closedType]]

/-- What stands behind the name of a class. -/
def classTail : Form :=
  all [opt (.phrase .typeParameters), .many heritage, braces (.many (.phrase .member))]

/-- Words in front of the name of a class member. -/
def memberWords : List String :=
  ["static", "public", "private", "protected", "readonly", "abstract", "override", "declare", "async",
    "get", "set", "accessor"]

/-- The end of a class member without a body. -/
def memberEnd (ending : Ending) : Form :=
  any [sign ",", semicolon ending]

/-- A class member behind its name: a method with or without its body, or a field. -/
def memberTail : Form :=
  any
    [all [.phrase (.signature .declared), any [.phrase (.block .declared), memberEnd .declared]],
    all [opt (ofType .declared),
      any [all [sign "=", .phrase (.assignment .openEnded), memberEnd .computed],
        memberEnd .declared]]]

/-- A member of a class. -/
def member : Form :=
  any
    [sign ";",
    all [word "static", .phrase (.block .declared)],
    all [.many (.phrase .decorator), modifiers memberWords, opt (sign "*"),
      any [all [indexKey, opt (sign "?"), opt (ofType .declared), memberEnd .declared],
        all [.phrase .propertyName, opt (signOf ["?", "!"]), memberTail]]]]

/-- A decorator: a name with members and calls, or an expression in round brackets. -/
def decorator : Form :=
  all [sign "@",
    any [.phrase .cover,
      all [name, .many (any [all [sign ".", anyWord], .phrase .cover,
        all [.phrase .typeArguments, .phrase .cover]])]]]

/-- An expression in a markup element. -/
def markupHole : Form :=
  braces (opt (all [opt (sign "..."), .phrase (.expression .inside)]))

/-- An attribute of a markup element. -/
def markupAttribute : Form :=
  any
    [.phrase .markupHole,
    all [.terminal .markupName,
      opt (all [mark "=", any [.terminal .markupString, .phrase .markupHole, .phrase .element]])]]

/-- What stands between the tags of a markup element, and its last tag. -/
def markupBody (closing : Form) : Form :=
  all [mark ">", .many (any [.terminal .markupText, .phrase .markupHole, .phrase .element]),
    mark "<", mark "/", closing, mark ">"]

/-- A markup element. -/
def element : Form :=
  all [mark "<",
    any [markupBody nothing,
      all [.terminal .markupName, opt (.phrase .typeArguments), .many markupAttribute,
        any [all [mark "/", mark ">"], markupBody (.terminal .markupName)]]]]

end Rules
end Script
end LayerLint
