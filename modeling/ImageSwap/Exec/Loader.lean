import ImageSwap.FileSystem.Lookup

/-!
# Loading an image

The system loads a regular file with an execute bit. A utility is loaded as it is; a file whose
first line names an interpreter loads the interpreter, with the file's path put before its
arguments; any other file has no known format. The arguments must fit.
-/

namespace ImageSwap

/-- The image of a new program: the file it was asked for by, the utility that runs, and the
argument vector that the utility is given. -/
structure Image where
  file : Location
  program : Utility
  argv : List Bytes
  deriving DecidableEq, Repr

namespace Exec

/-- The number of bytes that one argument must stay below. -/
def argumentLimit : Nat := 131072

/-- The number of bytes that all arguments may take together, with eight for each. -/
def argumentsLimit : Nat := 2097152

/-- Whether an argument vector is too long for the system. -/
def tooLong (argv : List Bytes) : Bool :=
  argv.any (fun arg => argumentLimit ≤ arg.length) ||
    argumentsLimit < argv.foldl (fun n arg => n + arg.length + 9) 0

/-- The executable regular file that a path leads to. -/
def openExecutable (fs : FileSystem) (path : Bytes) : Except Errno (Location × Content) := do
  let (place, entry) ← fs.lookup path
  match entry with
  | .file _ content => if entry.isExecutable then .ok (place, content) else .error .eacces
  | _ => .error .eacces

/-- Whether a byte is a blank within a line. -/
private def isBlank (b : UInt8) : Bool := b == 0x20 || b == 0x09

/-- Whether a byte ends the name of an interpreter within its line. -/
private def endsName (b : UInt8) : Bool := isBlank b || b == 0

/-- The number of bytes of a file that are looked at for an interpreter. -/
def headerSize : Nat := 256

/-- The rest of the first line of a script after its mark. A file that is too short for a header is
filled up with zeros; a line that does not end within the header is used if the name in it does. -/
private def interpreterLine? (bytes : Bytes) : Option Bytes :=
  match bytes.take headerSize with
  | 0x23 :: 0x21 :: rest =>
    if rest.contains 0x0a then some (rest.takeWhile (· != 0x0a))
    else
      let padded := rest ++ List.replicate (headerSize - 2 - rest.length) 0
      if (padded.dropWhile isBlank).any endsName then some padded.dropLast else none
  | _ => none

/-- The interpreter that the first line of a script names, and the argument that the line gives
it. Both end at a zero. -/
def interpreter? (bytes : Bytes) : Option (Bytes × Option Bytes) := do
  let line ← interpreterLine? bytes
  let line := ((line.dropWhile isBlank).reverse.dropWhile isBlank).reverse
  let name := line.takeWhile fun b => !endsName b
  match line, line.drop name.length with
  | [], _ => none
  | _, [] | _, 0 :: _ => some (name, none)
  | _, rest => some (name, some ((rest.dropWhile isBlank).takeWhile (· != 0)))

/-- The executable file that an interpreter's name leads to; an empty name stands for the working
directory, which is none. -/
def openInterpreter (fs : FileSystem) (name : Bytes) : Except Errno (Location × Content) :=
  if name = [] then .error .eacces else openExecutable fs name

/-- The utility that runs a file's content with an argument vector. The content came from `path`,
and at most `depth` interpreters may name one another. -/
def loadContent (fs : FileSystem) (depth : Nat) (path : Bytes) (argv : List Bytes) :
    Content → Except Errno (Utility × List Bytes)
  | .utility program => .ok (program, argv)
  | .data bytes =>
    match interpreter? bytes with
    | none => .error .enoexec
    | some (interpreter, argument) =>
      match openInterpreter fs interpreter with
      | .error errno => .error errno
      | .ok (_, content) =>
        match depth with
        | 0 => .error .eloop
        | depth + 1 =>
          let argv := interpreter :: argument.toList ++ path :: argv.tail
          loadContent fs depth interpreter argv content

/-- How many interpreters may name one another. -/
def interpreterLimit : Nat := 5

/-- The image that the file at a path makes with an argument vector. -/
def load (fs : FileSystem) (path : Bytes) (argv : List Bytes) : Except Errno Image := do
  let (file, content) ← openExecutable fs path
  if tooLong argv then .error .e2big
  else
    let (program, argv) ← loadContent fs interpreterLimit path argv content
    .ok ⟨file, program, argv⟩

/-- The path of the shell that runs files of no known format. -/
def shell : Bytes := Bytes.ofString "/bin/sh"

/-- The image that the file at a path makes, by way of the shell when the file has no known
format. -/
def loadOrInterpret (fs : FileSystem) (path : Bytes) (argv : List Bytes) :
    Except Errno Image :=
  match load fs path argv with
  | .ok image => .ok image
  | .error errno =>
    if errno = .enoexec then do
      let (file, _) ← openExecutable fs path
      let image ← load fs shell (shell :: path :: argv.tail)
      return { image with file }
    else .error errno

end Exec

end ImageSwap
