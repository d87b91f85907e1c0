import LayerLint.Policy.Reading
import LayerLint.Yaml.Reader

/-!
# Policy files

A policy is kept in a YAML file in the directory of the project. Relative directories in the policy
count from the directory of the file, links in which are followed.
-/

namespace LayerLint
namespace Policy

/-- The names of policy files; the first one that exists counts. -/
def fileNames : List String := ["fences.yml", ".fences.yml"]

/-- The first of some paths that leads to a file. -/
def firstFile (disk : Disk) : List DiskPath → Except Breakdown (Option DiskPath)
  | [] => .ok none
  | path :: paths => do
      if ← disk.askFile path then pure (some path) else firstFile disk paths

/-- The policy file of a directory. -/
def findFile (disk : Disk) (root : DiskPath) : Except Breakdown (Option DiskPath) :=
  firstFile disk (fileNames.map fun name => root.join (.ofString name))

/-- The document in the bytes of a policy file with the given name, in which so many lists and tables can be
nested. -/
def parseFile (levels : Nat) (name : String) (content : List UInt8) : Except Fault Value :=
  match Text.Utf8.decode? content with
  | none => .error (.breakdown .undecodable)
  | some text =>
      match Yaml.parse levels (Text.unifyNewlines text) with
      | .ok value => .ok value
      | .error .malformed => .error (.config (.shape (.malformed name)))
      | .error (.breakdown cause) => .error (.breakdown cause)

/-- The document in a policy file, and the directory of the file. -/
def readFile (disk : Disk) (path : DiskPath) : Except Fault (Value × DiskPath) :=
  match disk.read path with
  | .error .nullInPath => .error (.breakdown .nullInPath)
  | .error fault => .error (.config (.shape (.unreadable path.render fault)))
  | .ok content => do
      let value ← parseFile (disk.limits.levels .yamlNode) path.name content
      let directory ← (disk.resolve path.parent).mapError .breakdown
      pure (value, directory)

/-- The draft in a policy file. -/
def loadDraft (disk : Disk) (path : DiskPath) : Traced (Except Fault Draft) :=
  match readFile disk path with
  | .error fault => pure (.error fault)
  | .ok (value, directory) => ofValue disk (some directory) value

/-- Load a policy file. -/
def load (disk : Disk) (path : DiskPath) : Traced (Except Fault Policy) := do
  let draft ← loadDraft disk path
  pure (draft.map Draft.toPolicy)

end Policy
end LayerLint
