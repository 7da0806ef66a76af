import ImageSwap.Json.Printer
import ImageSwap.Process

/-!
# What a run prints

A run prints for people or for programs. A result is an indented document for people and one line
for programs; the announcement before a replacement is a sentence or one line of JSON; a failure
goes to the error stream in words, or to the output stream as one line of JSON, so that a program
that reads the output always finds JSON there.
-/

namespace ImageSwap

/-- For whom a run prints. -/
inductive OutputFormat where
  | json
  | human
  deriving DecidableEq, Repr

/-- A stream that a run prints to. -/
inductive Stream where
  | stdout
  | stderr
  deriving DecidableEq, Repr

namespace OutputFormat

/-- The format of a run that names none. -/
def default : OutputFormat := human

/-- The name of a format on the command line. -/
def name : OutputFormat → String
  | json => "json"
  | human => "human"

/-- Every format, in the order in which they are offered. -/
def all : List OutputFormat := [json, human]

/-- The format of a given name. -/
def ofName? (name : String) : Option OutputFormat := all.find? (·.name == name)

@[simp] theorem ofName?_name (f : OutputFormat) : ofName? f.name = some f := by
  cases f <;> rfl

/-- The document that reports a result. -/
def document (format : OutputFormat) (value : Json) : String :=
  match format with
  | json => value.sorted.compact ++ "\n"
  | human => value.sorted.indented ++ "\n"

/-- The line that announces the process before its image is replaced. -/
def banner (format : OutputFormat) (report : ProcessReport) : String :=
  match format with
  | json => report.toJson.compact ++ "\n"
  | human => report.pid.banner ++ "\n"

/-- The line that reports a failure, and the stream it goes to. -/
def failure (format : OutputFormat) (exitStatus : UInt8) (message : String) : Stream × String :=
  match format with
  | json =>
    let value : Json := .obj [("error", .str message), ("exit_code", .int exitStatus.toNat)]
    (.stdout, value.compact ++ "\n")
  | human => (.stderr, s!"error: {message}\n")

end OutputFormat

end ImageSwap
