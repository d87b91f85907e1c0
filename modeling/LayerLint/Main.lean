import LayerLint.Command.Run

/-!
# The command line

The program reads the files that a command line is about into a disk, carries the command line out on
that disk, and writes what comes of it.
-/

namespace LayerLint

/-- The absolute form of a path without links, if the path leads anywhere. -/
def realPath? (path : String) : IO (Option String) := do
  try
    return some (← IO.FS.realPath path).toString
  catch _ =>
    return none

/-- The names in a directory, or nothing for a file. -/
def namesIn? (path : String) : IO (Option (List String)) := do
  try
    let directory ← IO.FS.realPath path
    if ← directory.isDir then
      return some ((← directory.readDir).toList.map fun entry => entry.fileName)
    else return none
  catch _ =>
    return none

/-- Read a file. -/
def readFile (path : String) : IO DiskNode := do
  try
    return .file (← IO.FS.readBinFile path).toList true
  catch _ =>
    return .file [] false

mutual

/-- Read what a path without links leads to. -/
partial def readNode (path : String) : IO DiskNode := do
  match ← namesIn? path with
  | none => readFile path
  | some names => return .directory (← names.filterMapM (readName? path))

/-- Read the file, the link or the directory of a name in a directory. A link that leads nowhere is
left out, and directories that no search enters are left empty. -/
partial def readName? (directory name : String) : IO (Option (String × DiskNode)) := do
  let path := (DiskPath.ofString (directory ++ "/" ++ name)).render
  match ← realPath? path with
  | none => return none
  | some target =>
      if target != path then return some (name, .link target)
      else if Project.isSkipped name && (← namesIn? path).isSome then return some (name, .directory [])
      else return some (name, ← readNode path)

end

/-- The targets of the links below a node. -/
partial def linkTargets : DiskNode → List String
  | .file _ _ => []
  | .link target => [target]
  | .directory entries => entries.flatMap fun entry => linkTargets entry.2

/-- Add what a path leads to, and what the links below it lead to, to a disk. -/
partial def mount (disk : Disk) (path : String) : IO Disk := do
  match ← realPath? path with
  | none => return disk
  | some target =>
      let node ← readNode target
      let disk := { disk with top := node.place (DiskPath.ofString target).names disk.top }
      ((linkTargets node).filter fun link => !disk.has (.ofString link)).foldlM mount disk

/-- The paths that the words of a command line may stand for. -/
def pathsIn (words : List String) : List String :=
  words.flatMap fun word =>
    let (name, value) := Command.cutValue word.toList
    (String.ofList name :: (value.map String.ofList).toList).filter fun path => path != ""

/-- Add what a path leads to unless the disk has it. A file comes with its directory. -/
def mountPath (disk : Disk) (path : String) : IO Disk := do
  if disk.has (.ofString path) then return disk
  match ← realPath? path with
  | none => return disk
  | some target =>
      if (← namesIn? target).isSome then mount disk target
      else mount disk (DiskPath.ofString target).parent.render

/-- Carry out a command line on the files of this computer. -/
def runWords (words : List String) : IO UInt32 := do
  let workingDir := (← IO.FS.realPath (← IO.currentDir)).toString
  let empty : Disk :=
    { top := .directory [], workingDir := (DiskPath.ofString workingDir).names }
  let disk ← mount empty workingDir
  let disk ← (pathsIn words).foldlM mountPath disk
  let disk ← match Command.baseDir? disk words with
    | some baseDir => mountPath disk baseDir
    | none => pure disk
  let outcome := Command.run disk words
  IO.print outcome.stdout
  IO.eprint outcome.stderr
  return outcome.exit.toUInt32

end LayerLint

/-- The entry of the program. -/
def main (words : List String) : IO UInt32 :=
  LayerLint.runWords words
