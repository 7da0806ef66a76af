import ImageSwap.Json.Basic
import ImageSwap.Timestamp

/-!
# The identity of a process

Replacing the image of a process keeps its number, so the number announced beforehand is also that
of the program that runs next.
-/

namespace ImageSwap

/-- The number that the operating system gave a running process. -/
structure ProcessId where
  raw : Int
  deriving DecidableEq, Repr

namespace ProcessId

/-- The decimal form of a process number. -/
def text (p : ProcessId) : String := toString p.raw

/-- The line that announces a process, without the line break at its end. -/
def banner (p : ProcessId) : String := s!"My PID is {p.text}"

/-- The process number in diagnostic form. -/
def diagnostic (p : ProcessId) : String := s!"ProcessId(Pid({p.text}))"

end ProcessId

/-- The identity of a process as seen at one moment. -/
structure ProcessReport where
  pid : ProcessId
  parent : ProcessId
  observedAt : Timestamp
  deriving DecidableEq, Repr

/-- The report as a JSON object. -/
def ProcessReport.toJson (r : ProcessReport) : Json :=
  .obj [("pid", .int r.pid.raw), ("ppid", .int r.parent.raw),
    ("observed_at", .str r.observedAt.text)]

end ImageSwap
