import ImageSwap.Exec.SearchPath
import ImageSwap.Failure
import ImageSwap.Json.Basic

/-!
# Searching for a program

A program whose name has a slash is taken as a path. Any other name is looked for in each entry of
the search path in order: the first executable regular file is the answer, else the first thing
found at all, which then explains why the program cannot run.
-/

namespace ImageSwap

/-- What a search for a program came to. -/
structure Resolution where
  program : String
  /-- The path at which something was found. -/
  path : Option Bytes
  /-- Whether that is a regular file with an execute bit. -/
  executable : Bool
  /-- What stands in the way of running the program. -/
  hint : Option String
  deriving DecidableEq, Repr

namespace Search

/-- The path that one entry of the search path gives a program; an empty entry is the working
directory. -/
def candidate (program directory : Bytes) : Bytes :=
  if directory = [] then Path.join Path.dot program else Path.join directory program

/-- The paths at which a program is looked for, in order. -/
def candidates (program : Bytes) (searchPath : Option Bytes) : List Bytes :=
  if program.contains Path.slash then [program]
  else (SearchPath.entries searchPath).map (candidate program)

/-- Whether a path leads to a regular file with an execute bit. -/
def isExecutable (fs : FileSystem) (path : Bytes) : Bool :=
  (fs.stat? path).any Entry.isExecutable

/-- What stands in the way of running the file that was found at a path. -/
def hint? (fs : FileSystem) (path : Bytes) : Option String :=
  if isExecutable fs path then none
  else if (fs.stat? path).any Entry.isRegular then
    some s!"{path.lossy} is not executable; chmod +x it"
  else some s!"{path.lossy} is not a regular file"

/-- The path that answers a search: the first executable candidate, else the first that exists. -/
def choose (fs : FileSystem) (paths : List Bytes) : Option Bytes :=
  (paths.find? (isExecutable fs)).or (paths.find? fun path => (fs.stat? path).isSome)

/-- The words for a program that no candidate leads to. -/
def notFoundHint (program : String) : String :=
  if program.toList.contains '/' then s!"{program} does not exist"
  else s!"{program} was not found in any PATH directory"

/-- What a search for a program along a search path comes to. -/
def resolve (fs : FileSystem) (program : String) (searchPath : Option Bytes) : Resolution :=
  match choose fs (candidates (Bytes.ofString program) searchPath) with
  | some path => ⟨program, some path, isExecutable fs path, hint? fs path⟩
  | none => ⟨program, none, false, some (notFoundHint program)⟩

end Search

namespace Resolution

/-- The resolution when the program can run, else the failure that running it would meet. -/
def toResult (r : Resolution) : Except Failure Resolution :=
  match r.path, r.executable with
  | some _, true => .ok r
  | some _, false => .error (.permissionDenied r.program .eacces)
  | none, _ => .error (.programNotFound r.program .enoent)

/-- The JSON form of a path that may be absent. -/
def pathJson : Option Bytes → Except Failure Json
  | none => .ok .null
  | some path =>
    match path.decode? with
    | some text => .ok (.str text)
    | none => .error (.json .pathNotText)

/-- The resolution as a JSON object; a path that is not text has no such form. -/
def toJson (r : Resolution) : Except Failure Json := do
  let path ← pathJson r.path
  return .obj [("program", .str r.program), ("path", path), ("executable", .bool r.executable),
    ("hint", .str? r.hint)]

/-- What is reported of a resolution: its JSON form when the program can run. -/
def report (r : Resolution) : Except Failure Json := do
  let r ← r.toResult
  r.toJson

end Resolution

end ImageSwap
