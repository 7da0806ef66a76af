import ImageSwap.CommandLine.Basic
import ImageSwap.Text.Plain

/-!
# Usage errors

The ways in which a command line cannot be understood. A message is a single paragraph, even when
the words that it quotes are not.
-/

namespace ImageSwap.CommandLine

/-- Why a command line cannot be understood. -/
inductive UsageError where
  /-- A word that is not expected where it stands. -/
  | unexpectedArgument (word : String)
  /-- A word that should be a subcommand and is none. -/
  | unrecognizedSubcommand (word : String)
  /-- An option that is given twice. -/
  | repeated (option : ValueOption)
  /-- An option without the value it needs. -/
  | missingValue (option : ValueOption)
  /-- A value that names no output format. -/
  | invalidFormat (value : String)
  /-- A flag with a value. -/
  | surplusValue (flag : Flag) (value : String)
  /-- A word that should be text and is not. -/
  | notText
  deriving DecidableEq, Repr

namespace UsageError

/-- The name of the kind of error. -/
def kind : UsageError → String
  | unexpectedArgument _ => "UnknownArgument"
  | unrecognizedSubcommand _ => "InvalidSubcommand"
  | repeated _ => "ArgumentConflict"
  | missingValue _ | invalidFormat _ => "InvalidValue"
  | surplusValue .. => "TooManyValues"
  | notText => "InvalidUtf8"

/-- The line that lists the values an option may have. -/
private def possibleValues : ValueOption → String
  | .output =>
    let names := ", ".intercalate (OutputFormat.all.map OutputFormat.name)
    s!"\n  [possible values: {names}]"
  | _ => ""

/-- What is wrong, in words. -/
private def description : UsageError → String
  | unexpectedArgument word => s!"unexpected argument '{word}' found"
  | unrecognizedSubcommand word => s!"unrecognized subcommand '{word}'"
  | repeated option => s!"the argument '{option.usage}' cannot be used multiple times"
  | missingValue option =>
    s!"a value is required for '{option.usage}' but none was supplied{possibleValues option}"
  | invalidFormat value =>
    let option := ValueOption.output
    s!"invalid value '{value}' for '{option.usage}'{possibleValues option}"
  | surplusValue flag value =>
    s!"unexpected value '{value}' for '{flag.usage}' found; no more were expected"
  | notText => "invalid UTF-8 was detected in one or more arguments"

/-- The part of a text before its first empty line. -/
private def firstParagraph : List Char → List Char
  | '\n' :: '\n' :: _ => []
  | c :: rest => c :: firstParagraph rest
  | [] => []

/-- The message for the user. -/
def message (e : UsageError) : String :=
  String.ofList (firstParagraph (Text.plain s!"error: {e.description}").toList)

/-- The exit status of a run whose command line cannot be understood. -/
def exitStatus : UInt8 := 2

end UsageError

end ImageSwap.CommandLine
