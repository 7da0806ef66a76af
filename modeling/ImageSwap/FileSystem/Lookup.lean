import ImageSwap.Errno
import ImageSwap.FileSystem.Basic
import ImageSwap.Text.Split

/-!
# Looking up paths

A path is followed name by name from the root or from the working directory. A link is replaced by
its target, at most forty times in one lookup; every name but the last must lead to a directory,
and so must a path that ends in a slash.
-/

namespace ImageSwap

namespace Path

/-- The byte between the names of a path. -/
def slash : UInt8 := 0x2f

/-- The name of the directory itself. -/
def dot : Bytes := [0x2e]

/-- The name of the directory above. -/
def dotDot : Bytes := [0x2e, 0x2e]

/-- Whether a path starts at the root. -/
def isAbsolute (path : Bytes) : Bool := path.head? == some slash

/-- The names that a path gives in order. A path that ends in a slash names the directory itself
last. -/
def names (path : Bytes) : List Bytes :=
  let named := (Text.split slash path).filter (· ≠ [])
  if path.getLast? = some slash then named ++ [dot] else named

/-- A name inside a directory, with one slash between unless the directory ends in one. -/
def join (directory name : Bytes) : Bytes :=
  if directory.getLast? = some slash then directory ++ name
  else directory ++ slash :: name

/-- A byte string short enough to be a path ends before this many bytes. -/
def lengthLimit : Nat := 4096

/-- The number of bytes that one name may have. -/
def nameLimit : Nat := 255

/-- The number of links that one lookup follows. -/
def linkLimit : Nat := 40

end Path

namespace FileSystem

/-- The location and the entry that names lead to from a location, with `links` links still to
follow. -/
def walk (fs : FileSystem) (links : Nat) (place : Location) (names : List Bytes) :
    Except Errno (Location × Entry) :=
  match names with
  | [] =>
    match fs.entry? place with
    | some entry => .ok (place, entry)
    | none => .error .enoent
  | name :: rest =>
    if fs.entry? place ≠ some .directory then .error .enotdir
    else if name = Path.dot then fs.walk links place rest
    else if name = Path.dotDot then fs.walk links place.dropLast rest
    else if Path.nameLimit < name.length then .error .enametoolong
    else
      let child := place ++ [name]
      match fs.entry? child with
      | none => .error .enoent
      | some (.symlink target) =>
        match links with
        | 0 => .error .eloop
        | links + 1 =>
          let start := if Path.isAbsolute target then [] else place
          fs.walk links start (Path.names target ++ rest)
      | some _ => fs.walk links child rest
termination_by (links, names.length)

/-- The location and the entry that a path leads to. -/
def lookup (fs : FileSystem) (path : Bytes) : Except Errno (Location × Entry) :=
  if path = [] then .error .enoent
  else if Path.lengthLimit ≤ path.length then .error .enametoolong
  else
    let start := if Path.isAbsolute path then [] else fs.workingDirectory
    fs.walk Path.linkLimit start (Path.names path)

/-- The entry that a path leads to. A path that holds a NUL leads nowhere. -/
def stat? (fs : FileSystem) (path : Bytes) : Option Entry :=
  if path.contains 0 then none
  else match fs.lookup path with
    | .ok (_, entry) => some entry
    | .error _ => none

end FileSystem

end ImageSwap
