import LayerLint.Breakdown
import LayerLint.DiskPath
import LayerLint.Table

/-!
# Disks

A disk is a tree of directories with files and symbolic links, together with a working directory, the
rights of the user and the bounds of the system. Two ways of following a path are needed. Opening a file
is strict: every name on the way has to exist, no name may be too long, the directories have to be open to
the user, and only so many links are followed. Making a path absolute is lenient: links that can be seen
are followed, and all other names are kept. A link that leads back to itself is kept too, with what comes
behind it; a path that cannot be opened because of such a link is refused.
-/

namespace LayerLint

/-- What a name in a directory stands for. A file may refuse to be read, whatever the rights of the user
are. -/
inductive DiskNode
  | file (content : List UInt8) (readable : Bool)
  | link (target : String)
  | directory (entries : List (String × DiskNode))
  deriving Inhabited

namespace DiskNode

/-- The node behind a list of names, without following links. -/
def find? : DiskNode → List String → Option DiskNode
  | node, [] => some node
  | .directory entries, name :: names => (entries.lookup name).bind fun node => node.find? names
  | _, _ :: _ => none

/-- Put a node behind a list of names. Directories on the way are made, and anything else in the way
is replaced. -/
def place (node : DiskNode) : List String → DiskNode → DiskNode
  | [], _ => node
  | name :: names, old =>
      let entries := match old with
        | .directory entries => entries
        | _ => []
      let inner := place node names ((entries.lookup name).getD (.directory []))
      .directory (Table.put (· == ·) name inner entries)

/-- Remove what stands behind a list of names. -/
def remove : List String → DiskNode → DiskNode
  | [], node => node
  | [name], .directory entries => .directory (entries.filter fun entry => entry.1 != name)
  | name :: names, .directory entries =>
      .directory (entries.map fun entry =>
        if entry.1 == name then (entry.1, remove names entry.2) else entry)
  | _, node => node

end DiskNode

/-- What the user may do with a file or a directory. -/
structure Rights where
  /-- Whether the content of a file may be read, and the names in a directory be listed. -/
  reads : Bool := true
  /-- Whether the names in a directory may be followed. -/
  enters : Bool := true
  deriving DecidableEq, Inhabited

/-- The bounds of the system, and how deep the program can follow what is nested. -/
structure Limits where
  /-- The number of bytes of a name. -/
  nameBytes : Nat := 255
  /-- The number of bytes of the text of a path. -/
  pathBytes : Nat := 4095
  /-- The number of levels of a kind of nesting. -/
  levels : Nesting → Nat := fun _ => 900
  deriving Inhabited

/-- A tree of files with a working directory, which is named from the root, the rights of the user to what
stands behind names from the root, and the bounds of the system. -/
structure Disk where
  top : DiskNode
  workingDir : List String
  rights : List String → Rights := fun _ => {}
  limits : Limits := {}
  deriving Inhabited

namespace Disk

/-- How many links are followed when a file is opened. -/
def maxLinks : Nat := 40

/-- The node behind names counted from the root, without following links. -/
def find? (disk : Disk) (names : List String) : Option DiskNode :=
  disk.top.find? names

/-- Whether a name is short enough for a directory. -/
def allowsName (disk : Disk) (name : String) : Bool :=
  name.utf8ByteSize ≤ disk.limits.nameBytes

/-- Whether the text of a path is short enough for the system. -/
def allowsText (disk : Disk) (text : String) : Bool :=
  text.utf8ByteSize ≤ disk.limits.pathBytes

/-! ## Making paths absolute -/

/-- A place on the way to a path: names behind the root, or behind so many double dots that lead up from
the working directory. The innermost name comes first. -/
structure Place where
  ups : Option Nat
  names : List String
  deriving DecidableEq

namespace Place

/-- The root. -/
def top : Place := ⟨none, []⟩

/-- The place above. There is nothing above the root. -/
def up (place : Place) : Place :=
  match place.names with
  | [] => { place with ups := place.ups.map (· + 1) }
  | _ :: names => { place with names }

/-- A name at a place. -/
def down (place : Place) (name : String) : Place :=
  { place with names := name :: place.names }

/-- The path of a place. -/
def path (place : Place) : DiskPath :=
  match place.ups with
  | none => .absolute place.names.reverse
  | some count => ⟨.relative, List.replicate count ".." ++ place.names.reverse⟩

end Place

/-- The names from the root to a place. -/
def namesTo (disk : Disk) (place : Place) : List String :=
  match place.ups with
  | none => place.names.reverse
  | some count => disk.workingDir.take (disk.workingDir.length - count) ++ place.names.reverse

/-- Whether all directories on a way may be entered and all names on it are short enough. Where the way
begins is given by names from the root, the innermost one first. -/
def isOpen (disk : Disk) (here : List String) : List String → Bool
  | [] => true
  | name :: names =>
      (disk.rights here.reverse).enters && disk.allowsName name &&
        disk.isOpen (if name = ".." then here.tail else name :: here) names

/-- Where the way to a path begins: names from the root, the innermost one first. -/
def start (disk : Disk) (path : DiskPath) : List String :=
  if path.isAbsolute then [] else disk.workingDir.reverse

/-- What can be seen at a place, without following a link there. -/
def peek? (disk : Disk) (place : Place) : Option DiskNode :=
  if disk.allowsText place.path.render && disk.isOpen (disk.start place.path) place.path.names then
    disk.find? (disk.namesTo place)
  else none

/-- Names in which a double dot takes back the name before it. -/
def collapse (names : List String) : List String :=
  (names.foldl (fun here name => if name = ".." then here.tail else name :: here) []).reverse

/-- Where the links lead that were met so far. A link that is still being followed leads nowhere yet. -/
abbrev Ends := List (Place × Option Place)

/-- How a way ends. -/
inductive Arrival
  /-- At a place. -/
  | arrived (place : Place) (ends : Ends)
  /-- At a link that was met on its own way; it is given by names from the root, with all names behind
  it. -/
  | looping (names : List String)
  /-- Too deep inside of links. -/
  | tooDeep

/-- Follow names from a place. Links are entered, each of them once, and where they lead is remembered.
Other names are kept, whether they exist or not. -/
def followWith (disk : Disk) (enter : Ends → Place → List String → Arrival) (ends : Ends)
    (here : Place) : List String → Arrival
  | [] => .arrived here ends
  | name :: names =>
      if name = ".." then disk.followWith enter ends here.up names
      else
        let next := here.down name
        match disk.peek? next with
        | some (.link target) =>
            match ends.lookup next with
            | some (some place) => disk.followWith enter ends place names
            | some none => .looping (disk.namesTo next ++ names)
            | none =>
                let path := DiskPath.ofString target
                match enter ((next, none) :: ends) (if path.isAbsolute then .top else here)
                  path.names with
                | .arrived place ends => disk.followWith enter ((next, some place) :: ends) place names
                | .looping front => .looping (front ++ names)
                | .tooDeep => .tooDeep
        | _ => disk.followWith enter ends next names

/-- Follow names from a place through links that are nested at most so deep. -/
def follow (disk : Disk) : Nat → Ends → Place → List String → Arrival
  | 0 => disk.followWith fun _ _ _ => .tooDeep
  | levels + 1 => disk.followWith (disk.follow levels)

/-- The place where the way to a path begins. -/
def startPlace (path : DiskPath) : Place :=
  if path.isAbsolute then .top else ⟨some 0, []⟩

/-- A path with its links followed as far as possible. -/
def settle (disk : Disk) (path : DiskPath) : Except Breakdown DiskPath :=
  match disk.follow (disk.limits.levels .link) [] (startPlace path) path.names with
  | .arrived place _ => .ok (.absolute (disk.namesTo place))
  | .looping names => .ok (.absolute (collapse names))
  | .tooDeep => .error (.tooDeep .link)

/-! ## Opening files -/

/-- Whether the names, innermost first, lead to a directory. -/
def isDirectoryHere (disk : Disk) (here : List String) : Bool :=
  match disk.find? here.reverse with
  | some (.directory _) => true
  | _ => false

/-- The names that a link stands for on a strict way. A single dot at the end asks for a directory. -/
def linkNames (target : String) : List String :=
  DiskPath.namesOf target ++ if DiskPath.endsAsDirectory target then ["."] else []

/-- Follow names strictly up to the first link, which is entered: everything on the way has to be a
directory that may be entered, no name may be too long, and the last name has to exist. -/
def locateWith (disk : Disk) (enter : List String → List String → Except ReadFault (List String))
    (here : List String) : List String → Except ReadFault (List String)
  | [] => .ok here.reverse
  | name :: names =>
      if !disk.isDirectoryHere here then .error .notDirectory
      else if !(disk.rights here.reverse).enters then .error .denied
      else if name = "." then disk.locateWith enter here names
      else if name = ".." then disk.locateWith enter here.tail names
      else if !disk.allowsName name then .error .nameTooLong
      else
        match disk.find? (name :: here).reverse with
        | none => .error .missing
        | some (.link target) =>
            let isAbsolute := (DiskPath.ofString target).isAbsolute
            enter (if isAbsolute then [] else here) (linkNames target ++ names)
        | some _ => disk.locateWith enter (name :: here) names

/-- Follow names strictly through at most so many links. -/
def locate (disk : Disk) : Nat → List String → List String → Except ReadFault (List String)
  | 0 => disk.locateWith fun _ _ => .error .tooManyLinks
  | links + 1 => disk.locateWith (disk.locate links)

/-- The names from the root to what a path leads to, links followed. The text is the one by which the
system is asked. -/
def reach (disk : Disk) (text : String) (path : DiskPath) : Except ReadFault (List String) :=
  if disk.allowsText text then disk.locate maxLinks (disk.start path) path.names
  else .error .nameTooLong

/-- The node that a path leads to, links followed. -/
def lookup (disk : Disk) (path : DiskPath) : Except ReadFault DiskNode := do
  let names ← disk.reach path.render path
  match disk.find? names with
  | some node => pure node
  | none => throw .missing

/-- What a path leads to, links followed, if it leads anywhere. A path that holds the character that ends
paths does not. -/
def target? (disk : Disk) (path : DiskPath) : Option DiskNode :=
  if path.hasNull then none else (disk.lookup path).toOption

/-- Whether a path leads to a file. -/
def isFile (disk : Disk) (path : DiskPath) : Bool :=
  match disk.target? path with
  | some (.file _ _) => true
  | _ => false

/-- Whether a path leads to a directory. -/
def isDirectory (disk : Disk) (path : DiskPath) : Bool :=
  match disk.target? path with
  | some (.directory _) => true
  | _ => false

/-- Whether a path leads to anything. -/
def has (disk : Disk) (path : DiskPath) : Bool :=
  (disk.target? path).isSome

/-- Why the system does not say what a path leads to, if it does not. That a path leads nowhere is an
answer, but a directory that may not be entered or a name that is too long is none. -/
def refusal? (disk : Disk) (path : DiskPath) : Option ReadFault :=
  if path.hasNull then none
  else
    match disk.lookup path with
    | .error .denied => some .denied
    | .error .nameTooLong => some .nameTooLong
    | _ => none

/-- The answer to a question about what a path leads to. -/
def answer (disk : Disk) (path : DiskPath) (is : Bool) : Except Breakdown Bool :=
  match disk.refusal? path with
  | some fault => .error (.refused fault path.render)
  | none => .ok is

/-- Ask whether a path leads to a file. -/
def askFile (disk : Disk) (path : DiskPath) : Except Breakdown Bool :=
  disk.answer path (disk.isFile path)

/-- Ask whether a path leads to a directory. -/
def askDirectory (disk : Disk) (path : DiskPath) : Except Breakdown Bool :=
  disk.answer path (disk.isDirectory path)

/-- The absolute form of a path with its links followed. -/
def resolve (disk : Disk) (path : DiskPath) : Except Breakdown DiskPath := do
  if path.hasNull then throw .nullInPath
  let settled ← disk.settle path
  match disk.lookup settled with
  | .error .tooManyLinks => throw (.linkLoop settled.render)
  | _ => pure settled

/-- The bytes of the file that a path leads to. -/
def read (disk : Disk) (path : DiskPath) : Except ReadFault (List UInt8) := do
  if path.hasNull then throw .nullInPath
  let names ← disk.reach path.render path
  match disk.find? names with
  | some (.file content readable) =>
      if readable && (disk.rights names).reads then pure content else throw .denied
  | some (.directory _) => throw .isDirectory
  | _ => throw .missing

end Disk
end LayerLint
