import ImageSwap.FileSystem.Basic
import ImageSwap.Process

/-!
# How images end

An image that has been started reads its standard input, writes to its two output streams, and
ends by an exit status or by a signal.
-/

namespace ImageSwap

/-- How a process ends. -/
inductive Ending where
  | exit (status : UInt8)
  | signal (number : Nat)
  deriving DecidableEq, Repr

/-- What an image has done by the time it ends. -/
structure Completion where
  ending : Ending := .exit 0
  stdout : Bytes := []
  stderr : Bytes := []
  deriving DecidableEq, Repr

/-- What an image finds when it starts. -/
structure Setting where
  fs : FileSystem
  pid : ProcessId
  stdin : Bytes := []

namespace Setting

/-- The path of the working directory. -/
def workingDirectory (s : Setting) : Bytes :=
  if s.fs.workingDirectory = [] then [0x2f]
  else s.fs.workingDirectory.flatMap fun name => 0x2f :: name

end Setting

end ImageSwap
