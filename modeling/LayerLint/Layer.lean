import LayerLint.Traced

/-!
# Layers

A layer is a name with the patterns that select its packages. Layers are tried in the order in which
they are declared, and the first one with a matching pattern wins.
-/

namespace LayerLint

/-- Whether a candidate matches a pattern; the candidate comes first. -/
abbrev Matcher := String → String → Bool

/-- A named layer with the patterns that select its packages. -/
structure Layer where
  name : String
  patterns : List String
  deriving DecidableEq

namespace Layer

/-- Test a package against the patterns of one layer, up to the first match. -/
def accepts (isMatch : Matcher) (debug : Int) (package name : String) :
    List String → Traced Bool
  | [] => pure false
  | pattern :: patterns => do
      Traced.trace debug .patterns .layers (".... testing " ++ pattern ++ " (" ++ name ++ ")")
      Traced.test pattern
      if isMatch package pattern then
        Traced.trace debug .globs .layers (".... " ++ package ++ " matched " ++ pattern)
        pure true
      else accepts isMatch debug package name patterns

/-- The name of the first layer with a matching pattern. -/
def search (isMatch : Matcher) (debug : Int) (package : String) :
    List Layer → Traced (Option String)
  | [] => do
      Traced.trace debug .resolution .layers ".... got nothing"
      pure none
  | layer :: layers => do
      if (← accepts isMatch debug package layer.name layer.patterns) then
        Traced.trace debug .resolution .layers (".... got " ++ layer.name)
        pure (some layer.name)
      else search isMatch debug package layers

/-- Classify a package: the name of the first layer with a matching pattern. -/
def classify (layers : List Layer) (isMatch : Matcher) (debug : Int) (package : String) :
    Traced (Option String) := do
  Traced.trace debug .resolution .layers ("resolving " ++ package ++ " against layers")
  search isMatch debug package layers

/-- Whether a package matches one of the patterns; the rest is not tested after a match. -/
def isExcluded (isMatch : Matcher) (package : String) : List String → Traced Bool
  | [] => pure false
  | pattern :: patterns => do
      Traced.test pattern
      if isMatch package pattern then pure true else isExcluded isMatch package patterns

end Layer
end LayerLint
