import ImageSwap.Errno
import ImageSwap.Text.Quoted

/-!
# Failures

Every way in which a run can fail, with its message, its exit status and its diagnostic form. A
failed replacement follows the shell's convention: 127 when the program was not found, 126 when it
was found but may not be executed, 1 for any other reason. Whatever goes wrong before the
replacement is attempted has status 2, and no failure has status 0.
-/

namespace ImageSwap

/-- A failed input or output operation. -/
inductive IoError where
  /-- The operating system refused the call. -/
  | os (errno : Errno)
  /-- The path cannot be handed to the system because it holds a NUL. -/
  | nulInPath
  /-- A file that should be text is not UTF-8. -/
  | notUtf8
  /-- Any other reason, in words. -/
  | other (text : String)
  deriving DecidableEq, Repr

namespace IoError

/-- What went wrong, in words. -/
def message : IoError → String
  | os e => s!"{e.systemText} (os error {e.number})"
  | nulInPath => "file name contained an unexpected NUL byte"
  | notUtf8 => "stream did not contain valid UTF-8"
  | other text => text

/-- A fixed failure in diagnostic form. -/
private def fixedForm (kind text : String) : String :=
  s!"Error \x7b kind: {kind}, message: {Text.quote text} \x7d"

/-- The failure with all its parts, for a log. -/
def diagnostic : IoError → String
  | os e =>
    s!"Os \x7b code: {e.number}, kind: {e.kind}, message: {Text.quote e.systemText} \x7d"
  | nulInPath => fixedForm "InvalidInput" nulInPath.message
  | notUtf8 => fixedForm "InvalidData" notUtf8.message
  | other text => s!"Custom \x7b kind: Other, error: {Text.quote text} \x7d"

end IoError

/-- A failure to read or to write JSON. -/
inductive JsonError where
  /-- A path that is not text has no JSON form. -/
  | pathNotText
  /-- The text is not JSON; the place is that of the last character read. -/
  | malformed (reason : String) (line column : Nat)
  deriving DecidableEq, Repr

namespace JsonError

/-- The reason alone, without the place. -/
def reason : JsonError → String
  | pathNotText => "path contains invalid UTF-8 characters"
  | malformed reason _ _ => reason

/-- The line of the failure, 0 when there is no text. -/
def line : JsonError → Nat
  | pathNotText => 0
  | malformed _ line _ => line

/-- The column of the failure. -/
def column : JsonError → Nat
  | pathNotText => 0
  | malformed _ _ column => column

/-- What went wrong, with its place when there is one. -/
def message (e : JsonError) : String :=
  if e.line = 0 then e.reason else s!"{e.reason} at line {e.line} column {e.column}"

/-- The failure with all its parts, for a log. -/
def diagnostic (e : JsonError) : String :=
  s!"Error({Text.quote e.reason}, line: {e.line}, column: {e.column})"

end JsonError

/-- The reason why a run cannot do what it was asked to. -/
inductive Failure where
  | programNotFound (program : String) (errno : Errno)
  | permissionDenied (program : String) (errno : Errno)
  | execFailed (program : String) (errno : Errno)
  | invalidArgument (argument reason : String)
  | configParse (text : String)
  | unknownSubcommand (name : String)
  | io (error : IoError)
  | json (error : JsonError)
  deriving DecidableEq, Repr

namespace Failure

/-- The failure that an error number stands for when replacing the image by `program` fails. -/
def ofErrno (program : String) (errno : Errno) : Failure :=
  if errno = .enoent ∨ errno = .enotdir then .programNotFound program errno
  else if errno = .eacces ∨ errno = .eperm then .permissionDenied program errno
  else .execFailed program errno

/-- The exit status of a run that ends with this failure. -/
def exitStatus : Failure → UInt8
  | programNotFound .. => 127
  | permissionDenied .. => 126
  | execFailed .. => 1
  | _ => 2

/-- No failure exits with the status of success. -/
theorem exitStatus_ne_zero (f : Failure) : f.exitStatus ≠ 0 := by
  cases f <;> simp [exitStatus]

/-- The failure in words, for the user. -/
def message : Failure → String
  | programNotFound program errno => s!"{program}: program not found ({errno.symbol})"
  | permissionDenied program errno => s!"{program}: permission denied ({errno.symbol})"
  | execFailed program errno => s!"exec of {program} failed: {errno.label}"
  | invalidArgument argument reason => s!"Invalid argument {Text.quote argument}: {reason}"
  | configParse text => s!"Config parse error: {text}"
  | unknownSubcommand name => s!"Unknown subcommand: {name}"
  | io error => s!"IO error: {error.message}"
  | json error => s!"JSON error: {error.message}"

/-- The name of the kind of failure. -/
def kind : Failure → String
  | programNotFound .. => "ProgramNotFound"
  | permissionDenied .. => "PermissionDenied"
  | execFailed .. => "ExecFailed"
  | invalidArgument .. => "InvalidArgument"
  | configParse .. => "ConfigParse"
  | unknownSubcommand .. => "UnknownSubcommand"
  | io .. => "Io"
  | json .. => "Json"

/-- The named parts of a failure in diagnostic form. -/
private def named (kind : String) (parts : List (String × String)) : String :=
  let shown := ", ".intercalate (parts.map fun (name, value) => s!"{name}: {value}")
  s!"{kind} \x7b {shown} \x7d"

/-- The failure with all its parts, for a log. -/
def diagnostic (f : Failure) : String :=
  match f with
  | programNotFound program errno | permissionDenied program errno | execFailed program errno =>
    named f.kind [("program", Text.quote program), ("errno", errno.symbol)]
  | invalidArgument argument reason =>
    named f.kind [("arg", Text.quote argument), ("reason", Text.quote reason)]
  | configParse text => s!"{f.kind}({Text.quote text})"
  | unknownSubcommand name => named f.kind [("name", Text.quote name)]
  | io error => s!"{f.kind}({error.diagnostic})"
  | json error => s!"{f.kind}({error.diagnostic})"

/-- What the failure was caused by, in words, when another failure lies behind it. -/
def cause? : Failure → Option String
  | execFailed _ errno => some errno.label
  | io error => some error.message
  | json error => some error.message
  | _ => none

end Failure

end ImageSwap
