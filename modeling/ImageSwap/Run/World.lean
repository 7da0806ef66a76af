import ImageSwap.Failure
import ImageSwap.FileSystem.Lookup
import ImageSwap.Log.Filter
import ImageSwap.Output

/-!
# Effects of a run

A run acts on the world in few ways: it logs, prints, sets what happens at a closed pipe, and asks
for a new image. Its journal lists these effects in order. Standard output may refuse any write or
flush, which ends what was going on with a failure.

The journal also keeps the number of the last call that failed. A call for a new image that tries
nothing answers with it.
-/

namespace ImageSwap.Run

/-- What happens to a process that writes to a closed pipe. -/
inductive Disposition where
  /-- It is ended by a signal. -/
  | default
  /-- The write fails. -/
  | ignore
  deriving DecidableEq, Repr

/-- Something that a run does and that can be seen from outside. -/
inductive Effect where
  /-- The log was handed a record, whether or not it shows it. -/
  | log (record : Log.Record)
  /-- A stream has taken a text. -/
  | print (stream : Stream) (text : String)
  /-- Standard output has passed on all it took. -/
  | flush
  | setSigpipe (disposition : Disposition)
  /-- The system was asked to replace the image. -/
  | execute (file : Bytes) (argv : List Bytes)
  deriving DecidableEq, Repr

/-- What a run finds around it. -/
structure World where
  fs : FileSystem
  /-- The environment variables by name. -/
  environment : List (String × Bytes) := []
  pid : ProcessId
  parent : ProcessId
  now : Timestamp
  /-- The error that the standard library reports for the nth write or flush of standard output. It
  takes a closed descriptor for one that accepts everything, and tries again after an interruption,
  so neither is a refusal. -/
  refusal : Nat → Option Errno := fun _ => none
  /-- The error number that the process is left with when its command begins. Unless told otherwise,
  it is from the log, which has asked in vain whether the error stream is a terminal. -/
  errno : Errno := .enotty
  /-- The error number that the process is left with after its program was looked up for the log.
  Unless told otherwise, nothing was found at the one path looked at, and the status call that
  failed was followed by one with a bad address, to see whether there are such calls. -/
  lookupErrno : Errno := .efault

namespace World

/-- The value of an environment variable. -/
def value? (w : World) (name : String) : Option Bytes := w.environment.lookup name

/-- The search path for programs. -/
def searchPath (w : World) : Option Bytes := w.value? "PATH"

/-- The identity of the process. -/
def report (w : World) : ProcessReport := ⟨w.pid, w.parent, w.now⟩

end World

/-- What a run has done so far. -/
structure Journal where
  effects : List Effect := []
  /-- How many writes and flushes of standard output were tried. -/
  stdoutCalls : Nat := 0
  sigpipe : Disposition := .ignore
  /-- The number of the last call that failed, and zero before there was one. -/
  errno : Errno := ⟨0⟩
  /-- The records that the log asks for; until it is set up, all are noted. -/
  filter : Log.Filter := .everything
  deriving Repr

/-- A part of a run: it adds to the journal, and yields a value or a failure. -/
abbrev Act (α : Type) := ExceptT Failure (StateM Journal) α

namespace Act

/-- Adds an effect to the journal. -/
def note (effect : Effect) : Act Unit :=
  modify fun j => { j with effects := j.effects ++ [effect] }

/-- A result as a part of a run that does nothing. -/
def ofExcept (result : Except Failure α) : Act α := ExceptT.mk (pure result)

/-- Hands a record to the log. -/
def log (level : Log.Level) (target message : String) : Act Unit :=
  note (.log { level, target, message })

/-- Hands a record to the log if that asks for its like. The message is made only then, by calls
that leave the process with an error number. -/
def logIfAsked (level : Log.Level) (target : String) (message : Unit → String) (left : Errno) :
    Act Unit :=
  modify fun j => { j with
    effects := j.effects ++
      if j.filter.asksFor level target then [.log { level, target, message := message () }]
      else []
    errno := if j.filter.asksFor level target then left else j.errno }

/-- Tries a write or a flush of standard output, which is `effect` when it is not refused. -/
def onStdout (w : World) (effect : Effect) : Act Unit := do
  let j ← get
  set { j with stdoutCalls := j.stdoutCalls + 1 }
  match w.refusal j.stdoutCalls with
  | some errno => throw (.io (.os errno))
  | none => note effect

/-- Writes a text to standard output. -/
def write (w : World) (text : String) : Act Unit := onStdout w (.print .stdout text)

/-- Writes a text to the error stream, which takes everything. -/
def warn (text : String) : Act Unit := note (.print .stderr text)

/-- Makes standard output pass on all it took. -/
def flush (w : World) : Act Unit := onStdout w .flush

/-- Sets what happens at a closed pipe, and tells what was set before. -/
def setSigpipe (disposition : Disposition) : Act Disposition := do
  let j ← get
  set { j with sigpipe := disposition }
  note (.setSigpipe disposition)
  return j.sigpipe

/-- Makes a call of the system, which may answer with the error number that the process was left
with before. A call that fails leaves the process with its own. -/
def call (answer : Errno → Except Errno α) : Act (Except Errno α) := do
  let result := answer (← get).errno
  if let .error errno := result then
    modify fun j => { j with errno }
  return result

end Act

end ImageSwap.Run
