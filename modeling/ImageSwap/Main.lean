import ImageSwap.Host
import ImageSwap.Run.Session

/-!
# The program

The program runs its command line on the standard host. The working directory, the environment and
the config file are those of the machine it is started on; the clock counts from the start of that
machine. What the run prints, also by its new image, is printed, and its exit status is passed on.
-/

namespace ImageSwap

/-- The environment variables that a run looks at. -/
def variableNames : List String := ["PATH", CommandLine.configVariable, Log.filterVariable]

/-- The values of the environment variables that are set. -/
def environment : IO (List (String × Bytes)) :=
  variableNames.filterMapM fun name => do
    return (← IO.getEnv name).map fun value => (name, Bytes.ofString value)

/-- The path of the config file that a command line names. -/
def configPath? (fallback : Option Bytes) (words : List Bytes) : Option String := do
  let invocation ← (CommandLine.parse fallback words).toOption
  let path ← invocation.config
  path.decode?

/-- The file system with a file of the machine in it, if the machine has it. -/
def withFile (fs : FileSystem) (path : String) : IO FileSystem := do
  try
    let content ← IO.FS.readBinFile path
    return fs.add (Bytes.ofString path) (.file 0o644 (.data content.data.toList))
  catch _ => return fs

/-- The moment that the clock shows. -/
def clock : IO Timestamp := do
  let time ← IO.monoNanosNow
  return ⟨time / 1000000000, time % 1000000000⟩

/-- The rest of a stream, put after what was read of it. -/
partial def readRest (input : IO.FS.Stream) (read : ByteArray) : IO ByteArray := do
  let bytes ← input.read 4096
  if bytes.isEmpty then return read else readRest input (read ++ bytes)

/-- The number that stands for the way a process ended. -/
def Ending.status : Ending → UInt32
  | .exit status => status.toUInt32
  | .signal number => 128 + number.toUInt32

end ImageSwap

open ImageSwap in
/-- Runs the command line. -/
def main (args : List String) : IO UInt32 := do
  let words := args.map Bytes.ofString
  let given ← environment
  let directory := Bytes.ofString (← IO.currentDir).toString
  let mut fs := Host.fileSystem directory
  if let some path := configPath? (given.lookup CommandLine.configVariable) words then
    fs ← withFile fs path
  let world : Run.World :=
    { fs, environment := given, pid := ⟨1⟩, parent := ⟨0⟩, now := ← clock }
  let transcript := Run.session world words
  let stdin ← match transcript.outcome with
    | .replaced _ => readRest (← IO.getStdin) .empty
    | _ => pure .empty
  let done := transcript.complete world stdin.data.toList
  (← IO.getStdout).write ⟨done.stdout.toArray⟩
  (← IO.getStderr).write ⟨done.stderr.toArray⟩
  return done.ending.status
