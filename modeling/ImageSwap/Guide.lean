import ImageSwap.Failure
import ImageSwap.Json.Basic

/-!
# The guide to the subcommands

What `help-cmd` reports: the list of subcommands, or for one of them its parameters, its exit
statuses and examples.
-/

namespace ImageSwap.Guide

/-- A subcommand and what it is for. -/
structure Summary where
  name : String
  description : String
  deriving DecidableEq, Repr

/-- A parameter of a subcommand. -/
structure Parameter where
  name : String
  type : String
  required : Bool
  default : Option String
  description : String
  deriving DecidableEq, Repr

/-- An exit status and what it says. -/
structure ExitCode where
  code : UInt8
  meaning : String
  deriving DecidableEq, Repr

/-- All that is told about one subcommand. -/
structure Detail where
  name : String
  description : String
  parameters : List Parameter := []
  exitCodes : List ExitCode
  examples : List String := []
  deriving DecidableEq, Repr

/-- The exit statuses of a subcommand that only reports. -/
def setupExitCodes : List ExitCode := [
  ⟨0, "Success"⟩,
  ⟨2, "Bad config, bad argument, or I/O error"⟩]

/-- The exit statuses of a subcommand that is about replacing the image. -/
def execExitCodes : List ExitCode := [
  ⟨1, "Exec failed for another reason"⟩,
  ⟨2, "Bad config, bad argument, or I/O error"⟩,
  ⟨126, "Program found but not executable"⟩,
  ⟨127, "Program not found"⟩]

/-- Every subcommand, in the order in which they are listed. -/
def summaries : List Summary := [
  ⟨"run", "Print the PID, then exec the target program"⟩,
  ⟨"pid", "Print the PID report without exec"⟩,
  ⟨"resolve", "Report where the target program resolves on PATH"⟩,
  ⟨"help-cmd", "Show help for a subcommand"⟩]

/-- The names of the subcommands. -/
def names : List String := summaries.map Summary.name

/-- What is told about the subcommand of a given name. -/
def detail? (name : String) : Option Detail :=
  match name with
  | "run" => some {
      name := "run"
      description := "Print the PID, then exec the target program. " ++
        "On success the target's exit status is the process exit status."
      parameters := [
        ⟨"--program", "string", false, some "pwd", "Program to exec, searched on PATH"⟩,
        ⟨"args", "string[]", false, none, "Arguments after --, passed after argv[0]"⟩]
      exitCodes := execExitCodes
      examples := [
        "execve-test",
        "execve-test run --program echo -- hello",
        "execve-test --config target.toml run"] }
  | "pid" => some {
      name := "pid"
      description := "Print the PID report without exec"
      exitCodes := setupExitCodes
      examples := ["execve-test pid --output json"] }
  | "resolve" => some {
      name := "resolve"
      description := "Report where the target program resolves on PATH"
      parameters := [⟨"--program", "string", false, some "pwd", "Program to look up"⟩]
      exitCodes := execExitCodes
      examples := ["execve-test resolve --program ls"] }
  | name => (summaries.find? (·.name == name)).map fun s =>
      { name := s.name, description := s.description, exitCodes := setupExitCodes }

/-- A summary as a JSON object. -/
def Summary.toJson (s : Summary) : Json :=
  .obj [("name", .str s.name), ("description", .str s.description)]

/-- A parameter as a JSON object. -/
def Parameter.toJson (p : Parameter) : Json :=
  .obj [("name", .str p.name), ("type", .str p.type), ("required", .bool p.required),
    ("default", .str? p.default), ("description", .str p.description)]

/-- An exit status as a JSON object. -/
def ExitCode.toJson (e : ExitCode) : Json :=
  .obj [("code", .int e.code.toNat), ("meaning", .str e.meaning)]

/-- What is told about one subcommand as a JSON object. -/
def Detail.toJson (d : Detail) : Json :=
  .obj [("name", .str d.name), ("description", .str d.description),
    ("parameters", .arr (d.parameters.map Parameter.toJson)),
    ("exit_codes", .arr (d.exitCodes.map ExitCode.toJson)),
    ("examples", .arr (d.examples.map .str))]

/-- The report on one subcommand, or on all of them when none is named. -/
def report : Option String → Except Failure Json
  | none => .ok (.obj [("subcommands", .arr (summaries.map Summary.toJson))])
  | some name =>
    match detail? name with
    | some detail => .ok detail.toJson
    | none => .error (.unknownSubcommand name)

end ImageSwap.Guide
