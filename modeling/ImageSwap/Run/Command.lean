import ImageSwap.CommandLine.Basic
import ImageSwap.Config
import ImageSwap.Guide
import ImageSwap.Run.Replace

/-!
# Carrying out a command

The config file is read before any command is carried out. A command that succeeds has replaced the
image or has a result, which is emitted. A failure is reported and gives the run its exit status;
when standard output refuses the report of a failure, the run is cut off instead.
-/

namespace ImageSwap.Run

open CommandLine (Invocation)

/-- What a command that does not fail leads to. -/
inductive Success where
  | replaced (image : Image)
  | result (value : Json)
  deriving Repr

/-- How a run ends. -/
inductive Outcome where
  | exited (status : UInt8)
  | replaced (image : Image)
  /-- A failure could not be reported, and the run was cut off. -/
  | aborted
  deriving DecidableEq, Repr

/-- The exit status of a run that is cut off. -/
def abortStatus : UInt8 := 101

/-- The exit status of a run that has not been replaced by a new image. -/
def Outcome.exitStatus? : Outcome → Option UInt8
  | exited status => some status
  | replaced _ => none
  | aborted => some abortStatus

/-- Carries out the command that a command line asks for. -/
def dispatch (w : World) (i : Invocation) : Act Success := do
  let configured ← Act.ofExcept (Config.load w.fs i.config)
  match i.command with
  | .run overrides =>
    let image ← execute w i.output (configured.override overrides)
    return .replaced image
  | .pid => return .result w.report.toJson
  | .resolve program =>
    let found := Search.resolve w.fs (program.getD configured.program) w.searchPath
    let value ← Act.ofExcept found.report
    return .result value
  | .help subcommand =>
    let value ← Act.ofExcept (Guide.report subcommand)
    return .result value

/-- Writes a result to standard output. -/
def emit (w : World) (format : OutputFormat) (value : Json) : Act Unit := do
  Act.write w (format.document value)
  Act.flush w

/-- Reports a failure where the format wants it. -/
def report (w : World) (format : OutputFormat) (f : Failure) : Act Unit :=
  match format.failure f.exitStatus f.message with
  | (.stdout, text) => Act.write w text
  | (.stderr, text) => Act.warn text

/-- Ends a run with a failure. -/
def conclude (w : World) (format : OutputFormat) (f : Failure) : StateM Journal Outcome := do
  match ← (report w format f).run with
  | .ok () => return .exited f.exitStatus
  | .error _ => return .aborted

/-- Carries out a command, and ends the run with what it leads to. -/
def carryOut (w : World) (i : Invocation) : StateM Journal Outcome := do
  match ← (dispatch w i).run with
  | .ok (.replaced image) => return .replaced image
  | .ok (.result value) =>
    match ← (emit w i.output value).run with
    | .ok () => return .exited 0
    | .error f => conclude w i.output f
  | .error f =>
    let _ ← (Act.log .debug "execve_test"
      s!"exiting with status {f.exitStatus}: {f.diagnostic}").run
    conclude w i.output f

end ImageSwap.Run
