import ImageSwap.CommandLine.HelpText
import ImageSwap.CommandLine.Usage

/-!
# Reading a command line

A command line is read word by word. Options may stand before and after the subcommand; what is
said after it takes precedence. A double dash ends the options: all words after it are arguments.
The value of an option that stands in a word of its own is looked at only when the next option, the
next argument or the end of the line is reached, so that a word that cannot be understood at all is
reported first.
-/

namespace ImageSwap.CommandLine

/-- What ends the reading of a command line early. -/
inductive Stop where
  | usage (error : UsageError)
  /-- A text was asked for. -/
  | help (text : String)
  | version
  deriving DecidableEq, Repr

/-- What the words of one scope say. -/
structure Given where
  output : Option OutputFormat := none
  config : Option Bytes := none
  program : Option String := none
  /-- How often the flag for verbosity is given, if it is. -/
  verbosity : Option Nat := none
  arguments : List String := []
  deriving DecidableEq, Repr

/-- Words whose meaning is not settled yet. -/
inductive Pending where
  /-- An option, with its value unless that is still to come. -/
  | value (option : ValueOption) (raw : Option Bytes)
  /-- Arguments. -/
  | arguments (raws : List Bytes)
  deriving DecidableEq, Repr

/-- How far a scope has been read. -/
structure Progress where
  given : Given := {}
  pending : Option Pending := none
  /-- Whether a double dash has ended the options. -/
  trailing : Bool := false
  deriving DecidableEq, Repr

/-- The form of a word. -/
inductive Token where
  | doubleDash
  /-- A name after two dashes, and the value after an equals sign. -/
  | long (name : Bytes) (value : Option Bytes)
  /-- Letters after one dash. -/
  | short (letters : Bytes)
  | plain
  deriving DecidableEq, Repr

namespace Token

/-- The byte of a dash. -/
def dash : UInt8 := 0x2d

/-- The byte of an equals sign. -/
def equals : UInt8 := 0x3d

/-- The form of a word; a single dash is a plain word. -/
def ofWord (word : Bytes) : Token :=
  match word with
  | a :: b :: rest =>
    if a ≠ dash then plain
    else if b ≠ dash then short (b :: rest)
    else if rest = [] then doubleDash
    else
      let name := rest.takeWhile (· != equals)
      match rest.drop name.length with
      | [] => long name none
      | _ :: value => long name (some value)
  | _ => plain

end Token

namespace Given

/-- What is said with an option and its value besides. An option is given once in a scope. -/
def take (g : Given) (option : ValueOption) (raw : Bytes) : Except UsageError Given :=
  match option with
  | .output =>
    if g.output.isSome then .error (.repeated .output)
    else if raw = [] then .error (.missingValue .output)
    else match OutputFormat.ofName? raw.lossy with
      | some format => .ok { g with output := some format }
      | none => .error (.invalidFormat raw.lossy)
  | .config =>
    if g.config.isSome then .error (.repeated .config)
    else if raw = [] then .error (.missingValue .config)
    else .ok { g with config := some raw }
  | .program =>
    if g.program.isSome then .error (.repeated .program)
    else match raw.decode? with
      | some program => .ok { g with program := some program }
      | none => .error .notText

/-- What is said with arguments besides. -/
def takeArguments (g : Given) (raws : List Bytes) : Except UsageError Given :=
  match raws.mapM Bytes.decode? with
  | some arguments => .ok { g with arguments := g.arguments ++ arguments }
  | none => .error .notText

/-- What is said when pending words are settled. -/
def settle (g : Given) : Option Pending → Except UsageError Given
  | none => .ok g
  | some (.value option none) => .error (.missingValue option)
  | some (.value option (some raw)) => g.take option raw
  | some (.arguments raws) => g.takeArguments raws

end Given

/-- The subcommand that a word names, the one that prints help included. -/
inductive SubcommandName where
  | scope (scope : Scope)
  | printHelp
  deriving DecidableEq, Repr

/-- The subcommand that a word names, if it names one. -/
def subcommand? (word : Bytes) : Option SubcommandName := do
  let name ← word.decode?
  if name = "help" then return .printHelp
  else return .scope (← Scope.subcommands.lookup name)

/-- The help that the words after `help` ask for: that of a subcommand, or of all. -/
def helpFor (fallback : Bytes) (words : List Bytes) : Stop :=
  let unrecognized (word : Bytes) : Stop := .usage (.unrecognizedSubcommand word.lossy)
  match words with
  | [] => .help (helpText .top true fallback)
  | word :: rest =>
    match subcommand? word, rest with
    | none, _ => unrecognized word
    | some _, next :: _ => unrecognized next
    | some .printHelp, [] => .help helpOnHelp
    | some (.scope scope), [] => .help (helpText scope true fallback)

namespace Progress

/-- The progress with what is pending settled. -/
def settle (p : Progress) : Except Stop Progress :=
  match p.given.settle p.pending with
  | .ok given => .ok { p with given, pending := none }
  | .error e => .error (.usage e)

/-- Whether the next word is the value of an option, unless it begins with a dash. -/
def awaitsValue (p : Progress) : Bool :=
  match p.pending with
  | some (.value _ none) => true
  | _ => false

/-- The progress after a flag. -/
def takeFlag (p : Progress) (scope : Scope) (fallback : Bytes) (long : Bool) (flag : Flag) :
    Except Stop Progress := do
  let p ← p.settle
  match flag with
  | .verbose =>
    let count := p.given.verbosity.getD 0 + 1
    return { p with given := { p.given with verbosity := some count } }
  | .help => throw (.help (helpText scope long fallback))
  | .version => throw .version

/-- The progress after an option that two dashes begin. -/
def takeLong (p : Progress) (scope : Scope) (fallback : Bytes) (name : Bytes)
    (value : Option Bytes) : Except Stop Progress :=
  let isNamed (other : String) : Bool := name = Bytes.ofString other
  match scope.valueOptions.find? (isNamed ·.name), value with
  | some option, some raw => do
    let p ← p.settle
    match p.given.take option raw with
    | .ok given => return { p with given }
    | .error e => throw (.usage e)
  | some option, none => do
    let p ← p.settle
    return { p with pending := some (.value option none) }
  | none, value =>
    match scope.flags.find? (isNamed ·.name), value with
    | some flag, none => p.takeFlag scope fallback true flag
    | some flag, some value => .error (.usage (.surplusValue flag value.lossy))
    | none, _ => .error (.usage (.unexpectedArgument s!"--{name.lossy}"))

/-- The flag of a letter. -/
def flagOfLetter? (scope : Scope) (letter : Char) : Option Flag :=
  match letter with
  | 'v' => some .verbose
  | 'h' => some .help
  | 'V' => if scope.flags.contains .version then some .version else none
  | _ => none

/-- The progress after one of the letters that one dash begins. -/
def takeLetter (scope : Scope) (fallback : Bytes) (p : Progress) (letter : Char) :
    Except Stop Progress :=
  match flagOfLetter? scope letter with
  | some flag => p.takeFlag scope fallback false flag
  | none => .error (.usage (.unexpectedArgument s!"-{letter}"))

/-- The progress after letters that one dash begins. -/
def takeShort (p : Progress) (scope : Scope) (fallback : Bytes) (letters : Bytes) :
    Except Stop Progress := do
  let p ← letters.readable.foldlM (takeLetter scope fallback) p
  let rest : Bytes := letters.drop (String.ofList letters.readable).utf8ByteSize
  if rest = [] then return p
  else throw (.usage (.unexpectedArgument s!"-{rest.lossy}"))

/-- The progress after a word that is no option. -/
def takeArgument (p : Progress) (scope : Scope) (word : Bytes) : Except Stop Progress :=
  let unexpected : Except Stop Progress :=
    .error (.usage (.unexpectedArgument word.lossy))
  match scope with
  | .top =>
    if p.trailing && (subcommand? word).isSome then unexpected
    else .error (.usage (.unrecognizedSubcommand word.lossy))
  | .pid | .resolve => unexpected
  | .run =>
    if !p.trailing then unexpected
    else match p.pending with
      | some (.arguments raws) =>
        .ok { p with pending := some (.arguments (raws ++ [word])) }
      | _ => do
        let p ← p.settle
        return { p with pending := some (.arguments [word]) }
  | .help =>
    match p.pending, p.given.arguments with
    | some (.arguments _), _ | _, _ :: _ => unexpected
    | _, [] => do
      let p ← p.settle
      return { p with pending := some (.arguments [word]) }

/-- The progress after a word that names no subcommand. -/
def takeWord (p : Progress) (scope : Scope) (fallback : Bytes) (word : Bytes) :
    Except Stop Progress :=
  if p.trailing then p.takeArgument scope word
  else match Token.ofWord word with
    | .doubleDash => .ok { p with trailing := true }
    | .long name value => p.takeLong scope fallback name value
    | .short letters => p.takeShort scope fallback letters
    | .plain =>
      match p.pending with
      | some (.value option none) =>
        .ok { p with pending := some (.value option (some word)) }
      | _ => p.takeArgument scope word

/-- Reads the words of a subcommand to their end. -/
def readAll (p : Progress) (scope : Scope) (fallback : Bytes) (words : List Bytes) :
    Except Stop Progress :=
  words.foldlM (fun p word => p.takeWord scope fallback word) p

/-- Reads words up to the one that names a subcommand, and yields that with the words after it. -/
def readTop (p : Progress) (fallback : Bytes) :
    List Bytes → Except Stop (Progress × Option (Scope × List Bytes))
  | [] => .ok (p, none)
  | word :: rest =>
    match if p.trailing || p.awaitsValue then none else subcommand? word with
    | some (.scope scope) => .ok (p, some (scope, rest))
    | some .printHelp => .error (helpFor fallback rest)
    | none => do
      let p ← p.takeWord .top fallback word
      p.readTop fallback rest

/-- What a scope says when all its words are read. The variable stands in for a config file that
is not given; an empty one is no value. -/
def finish (p : Progress) (fallback : Option Bytes) : Except Stop Given := do
  let p ← p.settle
  if p.given.config = none ∧ fallback = some [] then throw (.usage (.missingValue .config))
  return p.given

end Progress

/-- The command of a scope, with what the scope says. -/
def commandOf (scope : Scope) (g : Given) : Option Command :=
  match scope with
  | .top => none
  | .run => some (.run ⟨g.program, g.arguments⟩)
  | .pid => some .pid
  | .resolve => some (.resolve g.program)
  | .help => some (.help g.arguments.head?)

/-- What a command line asks for, given what is said before and after the subcommand. -/
def invocation (top sub : Given) (named : Option Command) (fallback : Option Bytes) :
    Invocation where
  named := named
  output := (sub.output.or top.output).getD .default
  config := (sub.config.or top.config).or fallback
  verbosity := (min 255 ((sub.verbosity.or top.verbosity).getD 0)).toUInt8

/-- What a command line asks for, given the value of the variable for the config file. -/
def parse (fallback : Option Bytes) (words : List Bytes) : Except Stop Invocation := do
  let shown := fallback.getD []
  let (top, sub) ← Progress.readTop {} shown words
  match sub with
  | none =>
    let top ← top.finish fallback
    return invocation top {} none fallback
  | some (scope, rest) =>
    let sub ← Progress.readAll {} scope shown rest
    let sub ← sub.finish fallback
    let top ← top.finish fallback
    return invocation top sub (commandOf scope sub) fallback

end ImageSwap.CommandLine
