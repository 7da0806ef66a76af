/-!
# Shell scripts

A script is a list of simple commands and loops over words. It is taken byte by byte, each byte as
the character of the same number.
-/

namespace ImageSwap.Shell

/-- What a dollar sign stands for. -/
inductive Parameter where
  /-- The argument of a given number, 0 for the name of the script. -/
  | positional (n : Nat)
  /-- All arguments. -/
  | all
  /-- The number of arguments. -/
  | count
  /-- The number of the process. -/
  | process
  /-- The status of the last command. -/
  | status
  | variable (name : List Char)
  deriving DecidableEq, Repr

/-- A part of a word. Quotes keep what is between them in one piece. -/
inductive Part where
  | literal (text : List Char)
  | parameter (p : Parameter) (quoted : Bool)
  deriving DecidableEq, Repr

/-- A word as it is written. -/
abbrev Word := List Part

/-- A command, with the number of the line it begins on. -/
inductive Command where
  /-- A command that is given by words; its output may go to the error stream. -/
  | simple (line : Nat) (words : List Word) (toStderr : Bool)
  /-- A list of commands that is done once for each word. -/
  | loop (name : List Char) (words : List Word) (body : List Command)
  /-- Something that cannot be read, with the complaint about it. -/
  | malformed (line : Nat) (complaint : String)
  deriving Repr

end ImageSwap.Shell
