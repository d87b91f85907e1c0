import LayerLint.Policy
import LayerLint.Policy.BaseUrl
import LayerLint.Policy.Document

/-!
# Policies from documents

A policy document becomes a policy when its base directory is known. The document's own base
directory counts from the directory of the document; without one the compiler options beside the
document are asked. The base directory is always absolute and has its links followed. What is read is a
draft with the code points of all texts, and files are checked against a policy with texts.
-/

namespace LayerLint
namespace Policy

/-- A policy as it is read. Its texts are given by code points, which need not be characters. -/
structure Draft where
  baseDir : String
  layers : List (List Nat × List (List Nat)) := []
  rules : List (List Nat × List (List Nat)) := []
  excluded : List (List Nat) := []
  debug : Int := 0
  deriving DecidableEq

namespace Draft

/-- The draft of a document with a base directory. -/
def ofDocument (document : Document) (baseDir : String) : Draft :=
  { baseDir := NormalPath.normalize baseDir
    layers := document.layers
    rules := document.rules
    excluded := document.excluded
    debug := document.debug }

/-- The policy of a draft. A code point that is no character stands there as it is written. -/
def toPolicy (draft : Draft) : Policy :=
  { baseDir := draft.baseDir
    layers := draft.layers.map fun entry => ⟨Text.ofCodes entry.1, entry.2.map Text.ofCodes⟩
    rules := draft.rules.map fun entry => (Text.ofCodes entry.1, entry.2.map Text.ofCodes)
    excluded := draft.excluded.map Text.ofCodes
    debug := draft.debug }

end Draft

/-- Why there is no policy: its configuration is at fault, or the run breaks off. -/
inductive Fault
  | config (fault : ConfigFault)
  | breakdown (cause : Breakdown)

/-- The fault that a fault in the shape of a document comes to, if messages can show so many levels of a
value. -/
def Fault.ofShape (levels : Nat) (fault : ShapeFault) : Fault :=
  match fault.obstacle? levels with
  | none => .config (.shape fault)
  | some cause => .breakdown cause

/-- The base directory of a document that lies in the given directory, if that is known. -/
def findBaseDir (disk : Disk) (directory : Option DiskPath) (document : Document) :
    Traced (Except Breakdown (Option DiskPath)) :=
  match document.baseDir, directory with
  | some codes, some directory => pure ((DirectoryName.resolve disk directory codes).map some)
  | some codes, none => pure ((DirectoryName.resolve disk (.ofString ".") codes).map some)
  | none, some directory => BaseUrl.find disk directory
  | none, none => pure (.ok none)

/-- Read a value as the policy document of a directory. -/
def ofValue (disk : Disk) (directory : Option DiskPath) (value : Value) :
    Traced (Except Fault Draft) :=
  match Document.ofValue value with
  | .error fault => pure (.error (.ofShape (disk.limits.levels .shownValue) fault))
  | .ok document => do
      match ← findBaseDir disk directory document with
      | .ok (some path) => pure (.ok (.ofDocument document path.render))
      | .ok none => pure (.error (.config .missingBaseDir))
      | .error cause => pure (.error (.breakdown cause))

end Policy
end LayerLint
