import LayerLint.Disk
import LayerLint.Value

/-!
# Names of directories

A directory is named by code points, seen from the directory of the file that names it. Half of a
surrogate pair is no character, and most halves cannot stand in the name of a file: the name that holds
one cannot even be looked up.
-/

namespace LayerLint
namespace DirectoryName

/-- Whether a code point is half of a surrogate pair. -/
def isHalf (code : Nat) : Bool :=
  0xD800 ≤ code && code < 0xE000

/-- Whether a code point cannot stand in the name of a file. The halves that stand for bytes which are
no text can. -/
def isUnwritable (code : Nat) : Bool :=
  isHalf code && !(0xDC80 ≤ code && code < 0xDD00)

/-- The path that code points name, seen from a directory. Halves that stand for bytes become the
replacement character. -/
def path (directory : DiskPath) (codes : List Nat) : DiskPath :=
  directory.join (.ofString (String.ofList (codes.map fun code =>
    if code.isValidChar then Char.ofNat code else '\ufffd')))

/-- The number of characters in front of a name behind a path. -/
def front (path : DiskPath) : Nat :=
  if path.names.isEmpty then path.root.slashes.length else path.render.length + 1

/-- The number of characters in front of the names in a directory, in the text by which the system is asked
for them. -/
def reach (disk : Disk) (directory : DiskPath) : Except Breakdown Nat :=
  match disk.follow (disk.limits.levels .link) [] (Disk.startPlace directory) directory.names with
  | .arrived place _ => .ok (front place.path)
  | .looping names => .ok (front (.absolute (Disk.collapse names)))
  | .tooDeep => .error (.tooDeep .link)

/-- The directory that code points name, made absolute with its links followed. -/
def resolve (disk : Disk) (directory : DiskPath) (codes : List Nat) : Except Breakdown DiskPath :=
  match codes.findIdx? isUnwritable with
  | none => disk.resolve (path directory codes)
  | some place =>
      let inName := ((codes.take place).reverse.takeWhile (· != '/'.toNat)).length
      let around := path directory (codes.take (place - inName))
      if around.hasNull then .error .nullInPath
      else
        (reach disk around).bind fun before =>
          .error (.unwritable (before + inName) ((codes.drop place).takeWhile isHalf))

end DirectoryName
end LayerLint
