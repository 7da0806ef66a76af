import ImageSwap.Exec.Loader
import ImageSwap.Exec.SearchPath

/-!
# Loading a program by name

The system looks for a program in the directories of the search path by trying to load it from each
in turn. A program that is missing in a directory, or may not be run there, is tried in the next
one; any other failure ends the search.

A search that tries nothing reports no failure of its own. It answers with the error number that
the process was left with by the calls before.
-/

namespace ImageSwap.Exec

/-- The longest name that is looked for along a search path. -/
def fileNameLimit : Nat := 255

/-- Whether the search goes on after a failure at one entry: the file is missing there, or may not
be run. -/
def goesOn (errno : Errno) : Bool :=
  errno = .eacces || errno = .enoent || errno = .estale || errno = .enotdir ||
    errno = .enodev || errno = .etimedout

/-- The path that an entry of the search path gives a file. An empty entry, and one too long to be
a directory, give the bare name. -/
def entryPath (file entry : Bytes) : Bytes :=
  if entry = [] ∨ Path.lengthLimit ≤ entry.length then file else entry ++ Path.slash :: file

/-- Tries the entries of a search path in order. `denied` tells that a file was found but could not
be run, and `last` is the failure at the entry before, or what was left from before the search. A
last entry too long to be a directory is not tried. -/
def tryEntries (fs : FileSystem) (file : Bytes) (argv : List Bytes) (denied : Bool)
    (last : Errno) : List Bytes → Except Errno Image
  | [] => .error (if denied then .eacces else last)
  | entry :: rest =>
    if rest = [] ∧ Path.lengthLimit ≤ entry.length then
      .error (if denied then .eacces else last)
    else match loadOrInterpret fs (entryPath file entry) argv with
      | .ok image => .ok image
      | .error errno =>
        if goesOn errno then
          tryEntries fs file argv (denied || errno = .eacces) errno rest
        else .error errno

/-- The image of the program of a given name. A name with a slash is a path; any other is looked
for along the search path. `left` is the error number that the process was left with before. -/
def search (fs : FileSystem) (searchPath : Option Bytes) (left : Errno) (file : Bytes)
    (argv : List Bytes) : Except Errno Image :=
  if file = [] then .error .enoent
  else if file.contains Path.slash then loadOrInterpret fs file argv
  else if fileNameLimit < file.length then .error .enametoolong
  else tryEntries fs file argv false left (SearchPath.entries searchPath)

end ImageSwap.Exec
