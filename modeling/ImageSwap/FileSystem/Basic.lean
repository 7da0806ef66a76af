import ImageSwap.Text.Bytes

/-!
# File systems

A file system maps locations to entries. A location is the list of names that lead to it from the
root without links or dots, and the root is always a directory. A process sees the file system
from its working directory.

Every entry stands in a directory, and the working directory is one. Entries that are listed apart
from any directory, or a working directory that is none, stand for no file system of a machine.
-/

namespace ImageSwap

/-- The names that lead from the root to an entry. -/
abbrev Location := List Bytes

/-- A program of the system that is not a script. -/
inductive Utility where
  | shell
  | printDirectory
  | echo
  | printf
  | succeed
  | fail
  | concatenate
  deriving DecidableEq, Repr

/-- What a regular file holds. -/
inductive Content where
  | data (bytes : Bytes)
  | utility (program : Utility)
  deriving DecidableEq, Repr

/-- A device of the system. -/
inductive Device where
  /-- Reads as empty and takes whatever is written. -/
  | null
  /-- Takes nothing that is written. -/
  | full
  deriving DecidableEq, Repr

/-- What stands at a location. -/
inductive Entry where
  | file (mode : Nat) (content : Content)
  | directory
  | symlink (target : Bytes)
  | fifo
  | device (device : Device)
  deriving DecidableEq, Repr

namespace Entry

/-- Whether an entry is a regular file. -/
def isRegular : Entry → Bool
  | file .. => true
  | _ => false

/-- Whether an entry is a regular file with any of the three execute bits. -/
def isExecutable : Entry → Bool
  | file mode _ => mode &&& 0o111 != 0
  | _ => false

end Entry

/-- The entries of a file system, and the directory from which a process sees it. -/
structure FileSystem where
  entries : List (Location × Entry) := []
  workingDirectory : Location := []
  deriving Repr

namespace FileSystem

/-- The entry at a location; the root is a directory. -/
def entry? (fs : FileSystem) (place : Location) : Option Entry :=
  if place = [] then some .directory else fs.entries.lookup place

/-- The file system with an entry put at a location, in place of the one that stood there. -/
def insert (fs : FileSystem) (place : Location) (entry : Entry) : FileSystem :=
  { fs with entries := (place, entry) :: fs.entries.filter (·.1 != place) }

/-- The file system without the entries at and below a location. -/
def erase (fs : FileSystem) (place : Location) : FileSystem :=
  { fs with entries := fs.entries.filter fun (other, _) => !place.isPrefixOf other }

end FileSystem

end ImageSwap
