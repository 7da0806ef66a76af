import ImageSwap.FileSystem.Lookup

/-!
# Changing a file system

Adding an entry makes the directories that its path needs, changing a mode follows links, and
removing takes an entry away with all that lies below it.
-/

namespace ImageSwap.FileSystem

/-- The file system with the directories that names lead through from a location, and the location
where the last of them ends. -/
def makeDirectories (fs : FileSystem) (place : Location) : List Bytes → FileSystem × Location
  | [] => (fs, place)
  | name :: rest =>
    match fs.walk Path.linkLimit place [name] with
    | .ok (found, _) => fs.makeDirectories found rest
    | .error _ =>
      let made := place ++ [name]
      (fs.insert made .directory).makeDirectories made rest

/-- The location from which a path starts. -/
private def start (fs : FileSystem) (path : Bytes) : Location :=
  if Path.isAbsolute path then [] else fs.workingDirectory

/-- The names of a path without a slash at its end. -/
private def plainNames (path : Bytes) : List Bytes := (Text.split Path.slash path).filter (· ≠ [])

/-- Where a file is written that has a location: at the end of the links that begin there. -/
private def destination (fs : FileSystem) : Nat → Location → Location
  | 0, place => place
  | links + 1, place =>
    match fs.entry? place with
    | some (.symlink target) =>
      let names := plainNames target
      let origin := if Path.isAbsolute target then [] else place.dropLast
      match fs.walk Path.linkLimit origin names.dropLast with
      | .ok (directory, _) => destination fs links (directory ++ names.getLast?.toList)
      | .error _ => place
    | _ => place

/-- The file system with an entry at a path, and with the directories above it. A regular file is
written through links, any other entry stands at the path itself. -/
def add (fs : FileSystem) (path : Bytes) (entry : Entry) : FileSystem :=
  let names := plainNames path
  match entry with
  | .directory => (fs.makeDirectories (start fs path) names).1
  | entry =>
    let (fs, parent) := fs.makeDirectories (start fs path) names.dropLast
    let place := parent ++ names.getLast?.toList
    if entry.isRegular then fs.insert (fs.destination Path.linkLimit place) entry
    else fs.insert place entry

/-- The file system after changing the mode of the file that a path leads to. -/
def changeMode (fs : FileSystem) (path : Bytes) (mode : Nat) : FileSystem :=
  match fs.lookup path with
  | .ok (place, .file _ content) => fs.insert place (.file mode content)
  | _ => fs

/-- The file system after removing what stands at a path; a link at its end is not followed. -/
def remove (fs : FileSystem) (path : Bytes) : FileSystem :=
  let names := plainNames path
  match fs.walk Path.linkLimit (start fs path) names.dropLast with
  | .ok (parent, _) => fs.erase (parent ++ names.getLast?.toList)
  | .error _ => fs

end ImageSwap.FileSystem
