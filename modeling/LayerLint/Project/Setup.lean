import LayerLint.Policy.File
import LayerLint.Policy.Validation

/-!
# Set-up of a run

Before any file is checked, the policy of the project is loaded and validated. A run may name the
policy file and may set the debug number of the policy.
-/

namespace LayerLint
namespace Project

/-- Why a run stops. -/
inductive SetupFault
  | policyNotFound (path : String)
  | invalidPolicy (fault : ConfigFault)
  | breakdown (cause : Breakdown)

/-- The message for a run that stops. -/
def SetupFault.message : SetupFault → String
  | .policyNotFound path => "Policy file not found: " ++ path
  | .invalidPolicy fault => "Invalid policy configuration: " ++ fault.message
  | .breakdown cause => cause.message

/-- A policy that was found valid, with the warnings about it. -/
structure Checked where
  policy : Policy
  warnings : List String

/-- The path of the policy file of a run, if there is one. -/
def policyPath (disk : Disk) (root : DiskPath) (config : Option DiskPath) :
    Except SetupFault (Option DiskPath) :=
  match config with
  | none => (Policy.findFile disk root).mapError .breakdown
  | some path => do
      if ← (disk.askFile path).mapError .breakdown then pure (some path)
      else throw (.policyNotFound path.render)

/-- Load and validate the policy in a file. -/
def check (disk : Disk) (path : DiskPath) (debug : Option Int) :
    Traced (Except SetupFault Checked) := do
  match ← Policy.load disk path with
  | .error (.breakdown cause) => pure (.error (.breakdown cause))
  | .error (.config fault) => pure (.error (.invalidPolicy fault))
  | .ok loaded =>
      let policy := { loaded with debug := debug.getD loaded.debug }
      match ← policy.validate with
      | .error fault => pure (.error (.invalidPolicy fault))
      | .ok warnings => pure (.ok ⟨policy, warnings⟩)

/-- Load and validate the policy of a run, if there is one. -/
def setUp (disk : Disk) (root : DiskPath) (config : Option DiskPath) (debug : Option Int) :
    Traced (Except SetupFault (Option Checked)) :=
  match policyPath disk root config with
  | .error fault => pure (.error fault)
  | .ok none => pure (.ok none)
  | .ok (some path) => do
      let checked ← check disk path debug
      pure (checked.map some)

end Project
end LayerLint
