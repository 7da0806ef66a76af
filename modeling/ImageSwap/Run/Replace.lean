import ImageSwap.Exec.PathSearch
import ImageSwap.Exec.Request
import ImageSwap.Run.World
import ImageSwap.Search

/-!
# Replacing the image

The process is announced on standard output, the announcement is flushed, and only then is the
system asked for the new image, once, with a closed pipe set to its default. A replacement that
fails puts that setting back.
-/

namespace ImageSwap.Run

/-- Asks the system to replace the image as requested. It yields the new image, or fails with the
setting for a closed pipe as it was. -/
def replaceImage (w : World) (r : Request) : Act Image := do
  let argv ← Act.ofExcept r.rawArgv
  let name := Text.quote r.program
  Act.log .debug "execve_test::exec" s!"execvp {name} argv={Text.quoteList r.argv}"
  let previous ← Act.setSigpipe .default
  let file := Bytes.ofString r.program
  Act.note (.execute file argv)
  match ← Act.call fun left => Exec.search w.fs w.searchPath left file argv with
  | .ok image => return image
  | .error errno =>
    Act.log .debug "execve_test::exec" s!"execvp {name} returned {errno.label}"
    let _ ← Act.setSigpipe previous
    throw (.ofErrno r.program errno)

/-- Announces the process on standard output. -/
def announce (w : World) (format : OutputFormat) : Act Unit := do
  Act.write w (format.banner w.report)
  Act.flush w

/-- The target of the records about what is about to be run. -/
def runTarget : String := "execve_test::run"

/-- What the log is told about where the program of a request is found. -/
def lookupMessage (w : World) (r : Request) : String :=
  let found := Search.resolve w.fs r.program w.searchPath
  let path := Text.quoteBytes? found.path
  s!"{found.program} resolves to {path} (executable: {found.executable})"

/-- Announces the process and replaces its image as requested. Only when the log asks for that is
the program looked up, which leaves the process with another error number. -/
def execute (w : World) (format : OutputFormat) (r : Request) : Act Image := do
  Act.logIfAsked .debug runTarget (fun _ => lookupMessage w r) w.lookupErrno
  let argv := Text.quoteList r.argv
  Act.log .info runTarget
    s!"pid {w.pid.text} (parent {w.parent.text}), replacing image with {argv}"
  announce w format
  replaceImage w r

end ImageSwap.Run
