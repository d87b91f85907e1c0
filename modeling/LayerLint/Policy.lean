import LayerLint.Layer
import LayerLint.Table

/-!
# Policies

A policy declares the layers of a project and which layers each of them may import from. A layer
without an entry in the rules may import from itself only. Packages that match an excluded pattern
are not checked.
-/

namespace LayerLint

/-- The rules of a policy: layers with the layers that they may import from. -/
abbrev Rules := List (String × List String)

/-- Rules from entries written one after the other. -/
def Rules.ofEntries (entries : List (String × List String)) : Rules :=
  Table.ofEntries (· == ·) entries

/-- A policy, as every file of a run is checked against it. -/
structure Policy where
  baseDir : String
  layers : List Layer := []
  rules : Rules := []
  excluded : List String := []
  debug : Int := 0
  deriving DecidableEq

namespace Policy

/-- The names of the layers, in the order of declaration. -/
def layerNames (policy : Policy) : List String :=
  policy.layers.map Layer.name

/-- The layers that a layer may import from, if the rules have an entry for it. -/
def allowed? (policy : Policy) (layer : String) : Option (List String) :=
  policy.rules.lookup layer

end Policy
end LayerLint
