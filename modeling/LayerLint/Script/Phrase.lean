import LayerLint.Script.LineEnd

/-!
# The phrases of script sources

The grammar of script sources gives a form to every kind of phrase. Where the end of a line or the
surroundings bear on the form of a phrase, the phrase carries them along.
-/

namespace LayerLint
namespace Script

/-- A plain script, or one whose expressions may be markup elements. -/
inductive Dialect
  | plain
  | markup
  deriving DecidableEq, Inhabited

/-- Where an expression stands. -/
structure Context where
  /-- How the end of a line bears on the expression. -/
  ending : Ending := .closed
  /-- Whether the word in does not belong to the expression, as in the head of a loop. -/
  withoutIn : Bool := false
  /-- Whether a colon has to follow the expression, as between the parts of a choice. -/
  colonFollows : Bool := false
  deriving DecidableEq, Inhabited

namespace Context

/-- An expression inside brackets. -/
def inside : Context :=
  {}

/-- An expression that a line end may end. -/
def openEnded : Context :=
  { ending := .computed }

/-- An expression in the head of a loop. -/
def loopHead : Context :=
  { withoutIn := true }

/-- An expression in front of a colon. -/
def beforeColon : Context :=
  { colonFollows := true }

end Context

/-- The kinds of phrases. -/
inductive Phrase
  | statement
  | block (ending : Ending)
  /-- A declaration. One that stands on its own may begin with words that could also be names. -/
  | declaration (onItsOwn : Bool)
  | declarators
  | expression (context : Context)
  | assignment (context : Context)
  | operand (context : Context)
  | leftHand
  | arrowTail (context : Context)
  | arrowBody (context : Context)
  | cover
  | parameters
  | objectLiteral
  | arrayLiteral
  | template
  | functionTail
  | classTail
  | member
  | decorator
  | propertyName
  | element
  | markupHole
  | type (ending : Ending)
  | union (ending : Ending)
  | typeOperand (ending : Ending)
  | returnType (ending : Ending)
  | signature (ending : Ending)
  | typeArguments
  | typeParameters
  | objectType
  | typeMember
  deriving DecidableEq, Inhabited

end Script
end LayerLint
