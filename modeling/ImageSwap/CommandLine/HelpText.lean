import ImageSwap.CommandLine.Basic
import ImageSwap.Text.Plain

/-!
# Help texts

The help of a scope has a short form, one line to an option, and a long form that sets each option
apart. Both lay out the same descriptions.
-/

namespace ImageSwap.CommandLine

/-- What is told about an argument or an option. -/
structure HelpEntry where
  /-- How the argument is written. -/
  label : String
  about : String
  /-- What is told in brackets, in order. -/
  notes : List String := []
  /-- The values that may be given, with their meanings. -/
  values : List (String × String) := []
  deriving DecidableEq, Repr

namespace HelpText

/-- Blanks of a given number. -/
private def blanks (n : Nat) : String := String.ofList (List.replicate n ' ')

/-- A text whose lines after the first begin with blanks. -/
private def hang (n : Nat) (text : String) : String :=
  String.ofList (text.toList.flatMap fun c =>
    if c = '\n' then '\n' :: List.replicate n ' ' else [c])

/-- A text brought to a width by blanks at its end. -/
private def padded (width : Nat) (text : String) : String := text ++ blanks (width - text.length)

/-- The greatest number of characters among texts. -/
private def widest (texts : List String) : Nat := texts.foldl (fun n s => max n s.length) 0

/-- The line of an entry in the short form, its text starting after a given column. -/
private def shortEntry (column : Nat) (e : HelpEntry) : String :=
  let names := ", ".intercalate (e.values.map Prod.fst)
  let notes := e.notes ++ if e.values = [] then [] else [s!"[possible values: {names}]"]
  let text := hang (column + 2) (" ".intercalate (e.about :: notes))
  s!"  {padded column e.label}{text}\n"

/-- The entries of a section in the short form. -/
private def shortEntries (entries : List HelpEntry) : String :=
  String.join (entries.map (shortEntry (widest (entries.map HelpEntry.label) + 2)))

/-- The lines of an entry in the long form. -/
private def longEntry (e : HelpEntry) : String :=
  let indent := "\n" ++ blanks 10
  let width := widest (e.values.map Prod.fst) + 1
  let values := e.values.map fun (name, about) =>
    let label := padded width (name ++ ":")
    s!"{indent}- {label} {about}"
  let values := if values = [] then "" else s!"\n{indent}Possible values:" ++ String.join values
  let notes := String.join (e.notes.map fun note => hang 10 s!"\n\n{note}")
  s!"  {e.label}{indent}{e.about}{values}{notes}\n"

/-- The entries of a section in the long form, with an empty line between. -/
private def longEntries (entries : List HelpEntry) : String :=
  "\n".intercalate (entries.map longEntry)

/-- What each subcommand does, by name. -/
private def commands : List (String × String) := [
  ("run", "Print the PID, then exec the target program"),
  ("pid", "Print the PID report without exec"),
  ("resolve", "Report where the target program resolves on PATH"),
  ("help", "Print this message or the help of the given subcommand(s)")]

/-- What a scope is for. -/
private def about : Scope → String
  | .top => "Print the current PID, then replace the process image with another program"
  | .run => "Print the PID, then exec the target program"
  | .pid => "Print the PID report without exec"
  | .resolve => "Report where the target program resolves on PATH"
  | .help => "Show help for a subcommand"

/-- How a scope is written. -/
private def usage : Scope → String
  | .top => "execve-test [OPTIONS] [COMMAND]"
  | .run => "execve-test run [OPTIONS] [-- <ARGS>...]"
  | .pid => "execve-test pid [OPTIONS]"
  | .resolve => "execve-test resolve [OPTIONS]"
  | .help => "execve-test help-cmd [OPTIONS] [SUBCOMMAND]"

/-- The arguments of a scope that are not options. -/
private def arguments : Scope → List HelpEntry
  | .run => [{ label := "[ARGS]...", about := "Arguments passed after \x60argv[0]\x60" }]
  | .help =>
    [{ label := "[SUBCOMMAND]", about := "Subcommand name to show detailed help for" }]
  | _ => []

/-- What is told about an option with a value. The config option shows the variable that stands in
for it. -/
private def valueOption (scope : Scope) (fallback : Bytes) (o : ValueOption) : HelpEntry :=
  let label := s!"    {o.usage}"
  match o with
  | .output => {
      label
      about := "Output format for all subcommands"
      notes := ["[default: human]"]
      values := [
        ("json", "Single JSON object on stdout"),
        ("human", "Human-readable summary on stdout")] }
  | .config => {
      label
      about := "TOML config file describing the exec target"
      notes := [s!"[env: {configVariable}={fallback.lossy}]"] }
  | .program =>
    let about := if scope = .run then "Program to exec (overrides the config file)"
      else "Program to look up (defaults to the configured target)"
    { label, about }

/-- What is told about a flag in the long or the short form. -/
private def flag (long : Bool) : Flag → HelpEntry
  | .verbose => {
      label := "-v, --verbose..."
      about := "Raise log verbosity on stderr (repeatable)" }
  | .help => {
      label := "-h, --help"
      about := if long then "Print help (see a summary with '-h')"
        else "Print help (see more with '--help')" }
  | .version => { label := "-V, --version", about := "Print version" }

end HelpText

/-- The help of a scope in the long or the short form, with the value of the variable that stands
in for the config option. -/
def helpText (scope : Scope) (long : Bool) (fallback : Bytes) : String :=
  let entries := if long then HelpText.longEntries else HelpText.shortEntries
  let commands :=
    if scope = .top then
      let column := HelpText.widest (HelpText.commands.map Prod.fst) + 2
      "\nCommands:\n" ++ String.join (HelpText.commands.map fun (name, about) =>
        s!"  {HelpText.padded column name}{about}\n")
    else ""
  let arguments := match HelpText.arguments scope with
    | [] => ""
    | arguments => "\nArguments:\n" ++ entries arguments
  let options := scope.valueOptions.map (HelpText.valueOption scope fallback) ++
    scope.flags.map (HelpText.flag long)
  Text.plain (s!"{HelpText.about scope}\n\nUsage: {HelpText.usage scope}\n" ++
    s!"{commands}{arguments}\nOptions:\n{entries options}")

/-- The help of the command that prints help. -/
def helpOnHelp : String :=
  "Print this message or the help of the given subcommand(s)\n\n" ++
    "Usage: execve-test help [COMMAND]...\n\n" ++
    "Arguments:\n  [COMMAND]...  Print help for the subcommand(s)\n"

/-- The text that tells the version. -/
def versionText : String := "execve-test 0.1.0\n"

end ImageSwap.CommandLine
