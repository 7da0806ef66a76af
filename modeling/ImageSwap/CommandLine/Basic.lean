import ImageSwap.Exec.Request
import ImageSwap.Output

/-!
# What a command line asks for

A command line names one of four commands, or none, which is a request to run. Options that hold
for all commands say how to print, which config file to read and how much to log.
-/

namespace ImageSwap.CommandLine

/-- The command that a command line names, with its own options. -/
inductive Command where
  /-- Announce the process and replace its image. -/
  | run (overrides : Overrides)
  /-- Report the process. -/
  | pid
  /-- Report where a program is found. -/
  | resolve (program : Option String)
  /-- Report what a subcommand is for. -/
  | help (subcommand : Option String)
  deriving DecidableEq, Repr

/-- What a command line asks for. -/
structure Invocation where
  /-- The command, if one is named. -/
  named : Option Command := none
  output : OutputFormat := .default
  config : Option Bytes := none
  verbosity : UInt8 := 0
  deriving DecidableEq, Repr

/-- The command to carry out, which is to run when none is named. -/
def Invocation.command (i : Invocation) : Command := i.named.getD (.run {})

/-- The part of a command line that a word belongs to: what comes before a subcommand, or the
subcommand itself. -/
inductive Scope where
  | top
  | run
  | pid
  | resolve
  | help
  deriving DecidableEq, Repr

namespace Scope

/-- The subcommands by name. -/
def subcommands : List (String × Scope) :=
  [("run", run), ("pid", pid), ("resolve", resolve), ("help-cmd", help)]

end Scope

/-- An option that takes a value. -/
inductive ValueOption where
  | output
  | config
  | program
  deriving DecidableEq, Repr

namespace ValueOption

/-- The name of an option without its dashes. -/
def name : ValueOption → String
  | output => "output"
  | config => "config"
  | program => "program"

/-- The word that stands for the value of an option. -/
def placeholder : ValueOption → String
  | output => "OUTPUT"
  | config => "CONFIG"
  | program => "PROGRAM"

/-- An option with a word for its value. -/
def usage (o : ValueOption) : String := s!"--{o.name} <{o.placeholder}>"

end ValueOption

/-- An option that takes no value. -/
inductive Flag where
  | verbose
  | help
  | version
  deriving DecidableEq, Repr

namespace Flag

/-- The name of a flag without its dashes. -/
def name : Flag → String
  | verbose => "verbose"
  | help => "help"
  | version => "version"

/-- A flag as usage messages show it; one that may be repeated is marked. -/
def usage : Flag → String
  | verbose => "--verbose..."
  | help => "--help"
  | version => "--version"

end Flag

/-- The options that take a value in a scope. -/
def Scope.valueOptions : Scope → List ValueOption
  | top | pid | help => [.output, .config]
  | run | resolve => [.program, .output, .config]

/-- The flags of a scope. -/
def Scope.flags : Scope → List Flag
  | top => [.verbose, .help, .version]
  | _ => [.verbose, .help]

/-- The environment variable that stands in for the option `--config`. -/
def configVariable : String := "EXECVE_TEST_CONFIG"

end ImageSwap.CommandLine
