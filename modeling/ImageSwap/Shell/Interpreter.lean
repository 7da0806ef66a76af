import ImageSwap.Image.Completion
import ImageSwap.Image.Signal
import ImageSwap.Shell.Format
import ImageSwap.Shell.Reader

/-!
# Running shell scripts

A script runs command by command. Words are expanded before a command is done: a parameter outside
quotes is cut into fields at its blanks, and all arguments between quotes give one field each.
-/

namespace ImageSwap.Shell

/-- The state of a script that runs. -/
structure State where
  /-- The name of the script. -/
  name : List Char
  args : List (List Char)
  process : List Char
  workingDirectory : List Char
  stdin : List Char
  assigned : List (List Char × List Char) := []
  status : Nat := 0
  stdout : List Char := []
  stderr : List Char := []
  /-- A command that fails ends the script. -/
  endsOnFailure : Bool := false
  /-- How the script has ended, if it has. -/
  ended : Option Ending := none

namespace State

/-- The value of a parameter, as one piece. -/
private def value (s : State) : Parameter → List Char
  | .positional 0 => s.name
  | .positional (n + 1) => (s.args[n]?).getD []
  | .all => [' '].intercalate s.args
  | .count => (toString s.args.length).toList
  | .process => s.process
  | .status => (toString s.status).toList
  | .variable name => (s.assigned.lookup name).getD []

/-- Whether a character separates the fields of a parameter outside quotes. -/
private def isBlank (c : Char) : Bool := c == ' ' || c == '\t' || c == '\n'

/-- The fields that a word has made so far, and the one that goes on. -/
private structure Fields where
  closed : List (List Char) := []
  current : Option (List Char) := none

/-- The fields with more text in the one that goes on. -/
private def Fields.extend (f : Fields) (text : List Char) : Fields :=
  { f with current := some (f.current.getD [] ++ text) }

/-- The fields with none that goes on. -/
private def Fields.close (f : Fields) : Fields :=
  match f.current with
  | some text => { closed := f.closed ++ [text] }
  | none => f

/-- The fields with a text cut at its blanks. -/
private def Fields.cut (f : Fields) (text : List Char) : Fields :=
  text.foldl (fun f c => if isBlank c then f.close else f.extend [c]) f

/-- The fields after one more part of their word. -/
private def addPart (s : State) (f : Fields) : Part → Fields
  | .literal text => f.extend text
  | .parameter .all true =>
    match s.args with
    | [] => f
    | arg :: args => args.foldl (fun f arg => f.close.extend arg) (f.extend arg)
  | .parameter .all false =>
    match s.args with
    | [] => f
    | arg :: args => args.foldl (fun f arg => f.close.cut arg) (f.cut arg)
  | .parameter p true => f.extend (s.value p)
  | .parameter p false => f.cut (s.value p)

/-- The fields of words. -/
def expand (s : State) (words : List Word) : List (List Char) :=
  words.flatMap fun w => (w.foldl s.addPart {}).close.closed

/-- The state after printing. -/
private def print (s : State) (toStderr : Bool) (text : List Char) : State :=
  if toStderr then { s with stderr := s.stderr ++ text, status := 0 }
  else { s with stdout := s.stdout ++ text, status := 0 }

/-- The state after a complaint of the command on a line, which fails with a status. -/
private def complain (s : State) (line : Nat) (status : Nat) (text : List Char) : State :=
  let place := s.name ++ ": ".toList ++ (toString line).toList ++ ": ".toList
  { s with stderr := s.stderr ++ place ++ text ++ ['\n'], status }

/-- The state after the script has ended with a status. -/
private def exit (s : State) (status : Nat) : State :=
  { s with ended := some (.exit (status % 256).toUInt8), status }

/-- The greatest number that a status or a process number may have. -/
private def greatestNumber : Nat := 2147483647

/-- The number that a field spells. -/
private def number? (field : List Char) : Option Nat :=
  let digits := match field with
    | '+' :: digits => digits
    | digits => digits
  let n := digits.foldl (fun n d => n * 10 + (d.toNat - '0'.toNat)) 0
  if digits.isEmpty || !digits.all Char.isDigit || greatestNumber < n then none else some n

/-- Ends the script with the status that it is given, else with that of the last command. -/
private def runExit (s : State) (line : Nat) : List (List Char) → State
  | [] => s.exit s.status
  | field :: _ =>
    match number? field with
    | some status => s.exit status
    | none => (s.complain line 2 ("exit: Illegal number: ".toList ++ field)).exit 2

/-- The signal that the option of `kill` asks for. -/
private def signal? (option : List Char) : Option Nat :=
  if !option.isEmpty && option.all Char.isDigit then
    (number? option).bind fun n => if n ≤ Signal.greatest then some n else none
  else Signal.ofName? option

/-- How `kill` is to be used. -/
private def killUsage : String :=
  "kill: Usage: kill [-s sigspec | -signum | -sigspec] [pid | job]... or\nkill -l [exitstatus]"

/-- Sends a signal to the process itself. -/
private def runKill (s : State) (line : Nat) : List (List Char) → State
  | ['-'] :: _ => s.complain line 2 "kill: Illegal number: ".toList
  | ('-' :: option) :: target =>
    match signal? option with
    | none => s.complain line 2 ("kill: Illegal option -".toList ++ option.take 1)
    | some n =>
      match target.find? (· != s.process) with
      | some other => s.complain line 2 ("kill: Illegal number: ".toList ++ other)
      | none =>
        if target.isEmpty then s.complain line 2 killUsage.toList
        else if Signal.isFatal n then { s with ended := some (.signal n) }
        else { s with status := 0 }
  | _ => s.complain line 2 killUsage.toList

/-- The complaint about an argument that should be a number. -/
private def numberComplaint (arg : List Char) : NumberFault → List Char
  | .noNumber => "printf: ".toList ++ arg ++ ": expected numeric value".toList
  | .trailing => "printf: ".toList ++ arg ++ ": not completely converted".toList
  | .outOfRange => "printf: ".toList ++ arg ++ ": Numerical result out of range".toList

/-- Prints arguments as a format says. There are no options, but two dashes may end them. -/
private def runPrintf (s : State) (line : Nat) (toStderr : Bool) (args : List (List Char)) :
    State :=
  let (mayBeOption, args) := match args with
    | ['-', '-'] :: args => (false, args)
    | args => (true, args)
  match mayBeOption, args with
  | _, [] => s.complain line 2 "printf: usage: printf format [arg ...]".toList
  | true, ('-' :: option :: _) :: _ =>
    s.complain line 2 ("printf: Illegal option -".toList ++ [option])
  | _, format :: args =>
    let printed := printf false format args
    printed.faults.foldl (fun s (arg, fault) => s.complain line 1 (numberComplaint arg fault))
      (s.print toStderr printed.text)

/-- Takes a line off standard input into a variable; a backslash keeps the character after it. -/
private def runRead (s : State) (names : List (List Char)) : State :=
  let (line, rest, ended) := readLine (s.stdin.length + 1) [] s.stdin
  let trim (cs : List Char) := cs.dropWhile isBlank
  let line := (trim (trim line).reverse).reverse
  let assigned := match names with
    | name :: _ => (name, line) :: s.assigned
    | [] => s.assigned
  { s with stdin := rest, assigned, status := if ended then 0 else 1 }
where
  readLine : Nat → List Char → List Char → List Char × List Char × Bool
    | 0, read, rest => (read.reverse, rest, false)
    | _ + 1, read, [] => (read.reverse, [], false)
    | n + 1, read, c :: rest =>
      match c, rest with
      | '\n', rest => (read.reverse, rest, true)
      | '\\', '\n' :: rest => readLine n read rest
      | '\\', e :: rest => readLine n (e :: read) rest
      | '\x00', rest => readLine n read rest
      | c, rest => readLine n (c :: read) rest

/-- Does the command that fields give. -/
private def runFields (s : State) (line : Nat) (toStderr : Bool) : List (List Char) → State
  | [] => s
  | name :: args =>
    match String.ofList name with
    | "echo" => s.print toStderr (echoText args)
    | "printf" => s.runPrintf line toStderr args
    | "exit" => s.runExit line args
    | "kill" => s.runKill line args
    | "read" => s.runRead args
    | "pwd" => s.print toStderr (s.workingDirectory ++ ['\n'])
    | "true" | ":" => { s with status := 0 }
    | "false" => { s with status := 1 }
    | _ => s.complain line 127 (name ++ ": not found".toList)

mutual
/-- Does a command, unless the script has ended. -/
def run (s : State) : Command → State
  | .simple line words toStderr =>
    if s.ended.isSome then s
    else
      let s := s.runFields line toStderr (s.expand words)
      if s.endsOnFailure && s.status != 0 && s.ended.isNone then s.exit s.status else s
  | .loop name words body =>
    if s.ended.isSome then s
    else
      let values := s.expand words
      values.foldl (fun s value => runAll { s with assigned := (name, value) :: s.assigned } body)
        { s with status := if values = [] then 0 else s.status }
  | .malformed line complaint =>
    if s.ended.isSome then s
    else (s.complain line 2 ("Syntax error: " ++ complaint).toList).exit 2

/-- Does commands in order. -/
def runAll (s : State) : List Command → State
  | [] => s
  | c :: cs => (s.run c).runAll cs
end

/-- What a script has done by the time it ends. -/
def completion (s : State) : Completion where
  ending := s.ended.getD (.exit (s.status % 256).toUInt8)
  stdout := Bytes.ofOctets s.stdout
  stderr := Bytes.ofOctets s.stderr

end State

/-- Runs a script that has a name and arguments. -/
def interpret (setting : Setting) (endsOnFailure : Bool) (name : Bytes) (args : List Bytes)
    (script : Bytes) : Completion :=
  let state : State := {
    endsOnFailure
    name := Bytes.toOctets name
    args := args.map Bytes.toOctets
    process := setting.pid.text.toList
    workingDirectory := Bytes.toOctets setting.workingDirectory
    stdin := Bytes.toOctets setting.stdin }
  (state.runAll (commands (Bytes.toOctets script))).completion

end ImageSwap.Shell
