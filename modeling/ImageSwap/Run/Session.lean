import ImageSwap.CommandLine.Parser
import ImageSwap.Image.Start
import ImageSwap.Log.Filter
import ImageSwap.Run.Command

/-!
# From the command line to the streams

A run reads its command line, sets up the log, and carries out the command. Its transcript tells
what it does and how it ends; what stands on the two streams follows from the transcript, with what
a new image writes after everything else.
-/

namespace ImageSwap.Run

/-- What a run does and how it ends. -/
structure Transcript where
  outcome : Outcome
  effects : List Effect := []
  /-- The records that the log shows. -/
  filter : Log.Filter := .silent
  deriving Repr

namespace Effect

/-- What an effect adds to standard output. -/
def onStdout : Effect → String
  | print .stdout text => text
  | _ => ""

/-- What an effect adds to the error stream, with the log shown there. -/
def onStderr (filter : Log.Filter) (now : Timestamp) : Effect → String
  | log record => if filter.admits record then record.text now else ""
  | print .stderr text => text
  | _ => ""

end Effect

namespace Transcript

/-- What a run writes to standard output. -/
def stdout (t : Transcript) : String := String.join (t.effects.map Effect.onStdout)

/-- What a run writes to the error stream. -/
def stderr (t : Transcript) (now : Timestamp) : String :=
  String.join (t.effects.map (Effect.onStderr t.filter now))

end Transcript

/-- The filter of the log at a verbosity, and the effects of setting it up. -/
def setUpLog (w : World) (verbosity : UInt8) : Log.Filter × List Effect :=
  let (filter, warnings) :=
    Log.Filter.setUp (.ofVerbosity verbosity) (w.value? Log.filterVariable)
  (filter, warnings.map fun text => .print .stderr (text ++ "\n"))

/-- The transcript of a run that carries out what was asked for. -/
def perform (w : World) (i : CommandLine.Invocation) : Transcript :=
  let (filter, effects) := setUpLog w i.verbosity
  let (outcome, journal) := (carryOut w i).run { effects, errno := w.errno, filter }
  { outcome, effects := journal.effects, filter }

/-- The transcript of a run that shows a text and nothing else, be it refused or not. -/
def inform (w : World) (text : String) : Transcript :=
  let (_, journal) := (Act.write w text).run.run {}
  { outcome := .exited 0, effects := journal.effects }

/-- The transcript of a run whose command line cannot be understood. -/
def refuse (e : CommandLine.UsageError) : Transcript where
  outcome := .exited CommandLine.UsageError.exitStatus
  effects := [.print .stderr (e.message ++ "\n")]

/-- The transcript of a run with a command line. -/
def session (w : World) (words : List Bytes) : Transcript :=
  match CommandLine.parse (w.value? CommandLine.configVariable) words with
  | .ok i => perform w i
  | .error (.usage e) => refuse e
  | .error (.help text) => inform w text
  | .error .version => inform w CommandLine.versionText

/-- What a run and the image that replaces it do by the time they end. The image finds the rest
of standard input. -/
def Transcript.complete (t : Transcript) (w : World) (stdin : Bytes) : Completion :=
  let stdout := Bytes.ofString t.stdout
  let stderr := Bytes.ofString (t.stderr w.now)
  match t.outcome with
  | .exited status => { ending := .exit status, stdout, stderr }
  | .aborted => { ending := .exit abortStatus, stdout, stderr }
  | .replaced image =>
    let done := image.start { fs := w.fs, pid := w.pid, stdin }
    { ending := done.ending, stdout := stdout ++ done.stdout, stderr := stderr ++ done.stderr }

end ImageSwap.Run
