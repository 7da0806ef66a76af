/-!
# Escapes and formats

The escapes that `echo` and `printf` interpret, and the directives of a format. A format is used
again and again until its arguments are used up. An argument that should be a number counts as the
number that it begins with, and is complained about when that is not all of it.
-/

namespace ImageSwap.Shell

/-- The character that a letter after a backslash stands for. -/
private def namedEscape? : Char → Option Char
  | 'a' => some '\x07'
  | 'b' => some '\x08'
  | 'e' => some '\x1b'
  | 'f' => some '\x0c'
  | 'n' => some '\n'
  | 'r' => some '\r'
  | 't' => some '\t'
  | 'v' => some '\x0b'
  | '\\' => some '\\'
  | _ => none

/-- Whether a character is an octal digit. -/
private def isOctal (c : Char) : Bool := '0' ≤ c && c ≤ '7'

/-- The character with the number that up to three octal digits spell, and what follows them. -/
private def octalChar (cs : List Char) : Char × List Char :=
  let digits := (cs.take 3).takeWhile isOctal
  let n := digits.foldl (fun n d => n * 8 + (d.toNat - '0'.toNat)) 0
  (Char.ofNat (n % 256), cs.drop digits.length)

/-- A text with its escapes replaced, put after what was already replaced, and whether it asks to
stop there. The number bounds the characters still to be read. An octal number begins with a zero
that does not count when `zeroFirst` holds. -/
private def unescapeOnto (zeroFirst : Bool) :
    Nat → List Char → List Char → List Char × Bool
  | 0, done, _ => (done.reverse, false)
  | _ + 1, done, [] => (done.reverse, false)
  | n + 1, done, '\\' :: e :: rest =>
    if e == 'c' then (done.reverse, true)
    else if zeroFirst && e == '0' then
      let (c, rest) := octalChar rest
      unescapeOnto zeroFirst n (c :: done) rest
    else if !zeroFirst && isOctal e then
      let (c, rest) := octalChar (e :: rest)
      unescapeOnto zeroFirst n (c :: done) rest
    else match namedEscape? e with
      | some c => unescapeOnto zeroFirst n (c :: done) rest
      | none => unescapeOnto zeroFirst n (e :: '\\' :: done) rest
  | n + 1, done, c :: rest => unescapeOnto zeroFirst n (c :: done) rest

/-- A text with its escapes replaced as `echo` does, and whether it asks to stop there. -/
def unescapeEcho (cs : List Char) : List Char × Bool :=
  unescapeOnto true (cs.length + 1) [] cs

/-- What `echo` prints when it interprets escapes. -/
def echoText (args : List (List Char)) : List Char :=
  let (newline, args) := match args with
    | ['-', 'n'] :: args => (false, args)
    | args => (true, args)
  let (text, stopped) := unescapeEcho ([' '].intercalate args)
  if newline && !stopped then text ++ ['\n'] else text

/-- The number that digits of a base spell. -/
private def number (base : Nat) (digits : List Char) : Nat :=
  digits.foldl (fun n d =>
    let value := if d.isDigit then d.toNat - '0'.toNat else d.toLower.toNat - 'a'.toNat + 10
    n * base + value) 0

/-- Whether a character is a digit of a base up to 16. -/
private def isDigitOf (base : Nat) (c : Char) : Bool :=
  if c.isDigit then c.toNat - '0'.toNat < base
  else base == 16 && 'a' ≤ c.toLower && c.toLower ≤ 'f'

/-- Why an argument is not a number. -/
inductive NumberFault where
  | noNumber
  | trailing
  | outOfRange
  deriving DecidableEq, Repr

/-- The digits that a text begins with, with their base and what follows them. -/
private def leadingDigits (text : List Char) : Nat × List Char × List Char :=
  let cut (base : Nat) (text : List Char) :=
    (base, text.takeWhile (isDigitOf base), text.dropWhile (isDigitOf base))
  match text with
  | '0' :: x :: c :: rest =>
    if x.toLower == 'x' && isDigitOf 16 c then cut 16 (c :: rest) else cut 8 text
  | '0' :: _ => cut 8 text
  | text => cut 10 text

/-- The whole number that an argument stands for, and what is wrong with it. A quote stands for
the number of the character after it. -/
private def integer (arg : List Char) : Int × Option NumberFault :=
  match arg with
  | '\'' :: c :: _ | '"' :: c :: _ => (c.toNat, none)
  | arg =>
    let text := arg.dropWhile fun c => c == ' ' || ('\t' ≤ c && c ≤ '\r')
    let negative := text.head? = some '-'
    let signed := negative || text.head? = some '+'
    let (base, digits, rest) := leadingDigits (if signed then text.drop 1 else text)
    let size := number base digits
    let limit := if negative then UInt64.size / 2 else UInt64.size / 2 - 1
    let value : Int := if negative then -(min size limit : Int) else (min size limit : Int)
    if digits = [] then (0, if arg = [] then none else some .noNumber)
    else if limit < size then (value, some .outOfRange)
    else (value, if rest = [] then none else some .trailing)

/-- What a format prints. -/
structure Printed where
  text : List Char := []
  /-- The arguments that should be numbers and are not. -/
  faults : List (List Char × NumberFault) := []
  /-- The arguments that are not used. -/
  unused : List (List Char) := []
  deriving DecidableEq, Repr

/-- A directive of a format: a letter with its flags, width and precision. -/
structure Directive where
  flags : List Char
  width : Nat
  precision : Option Nat
  letter : Char
  deriving DecidableEq, Repr

/-- The directive after a percent sign, and what follows it. -/
private def directive? (cs : List Char) : Option (Directive × List Char) :=
  let isFlag c := "-0+ #".toList.contains c
  let flags := cs.takeWhile isFlag
  let cs := cs.dropWhile isFlag
  let width := number 10 (cs.takeWhile Char.isDigit)
  let cs := cs.dropWhile Char.isDigit
  let (precision, cs) := match cs with
    | '.' :: rest => (some (number 10 (rest.takeWhile Char.isDigit)), rest.dropWhile Char.isDigit)
    | cs => (none, cs)
  match cs with
  | letter :: rest => some (⟨flags, width, precision, letter⟩, rest)
  | [] => none

namespace Directive

/-- A text brought to the width of a directive. -/
private def pad (d : Directive) (text : List Char) : List Char :=
  let fill := d.width - text.length
  if d.flags.contains '-' then text ++ List.replicate fill ' '
  else List.replicate fill ' ' ++ text

/-- A number with its sign brought to the width of a directive. -/
private def padNumber (d : Directive) (sign digits : List Char) : List Char :=
  let fill := d.width - (sign.length + digits.length)
  if d.flags.contains '0' && !d.flags.contains '-' then sign ++ List.replicate fill '0' ++ digits
  else d.pad (sign ++ digits)

/-- The digits of a number that has no sign; a negative one is counted from the other end of 64
bits. -/
private def unsigned (d : Directive) (base : Nat) (n : Int) : List Char :=
  let digits := Nat.toDigits base (n % UInt64.size).toNat
  let sign := if d.flags.contains '#' && n ≠ 0 then
    if base = 16 then ['0', d.letter] else if base = 8 then ['0'] else []
    else []
  d.padNumber sign (if d.letter == 'X' then digits.map Char.toUpper else digits)

/-- The digits of a number with its sign. -/
private def signed (d : Directive) (n : Int) : List Char :=
  let sign :=
    if n < 0 then ['-']
    else if d.flags.contains '+' then ['+']
    else if d.flags.contains ' ' then [' ']
    else []
  d.padNumber sign (toString n.natAbs).toList

/-- What a directive makes of an argument, and whether the output stops there. -/
private def apply (d : Directive) (arg : List Char) : List Char × Option NumberFault × Bool :=
  let (n, fault) := integer arg
  match d.letter with
  | 'd' | 'i' => (d.signed n, fault, false)
  | 'u' => (d.unsigned 10 n, fault, false)
  | 'o' => (d.unsigned 8 n, fault, false)
  | 'x' | 'X' => (d.unsigned 16 n, fault, false)
  | 'c' => (d.pad [arg.headD '\x00'], none, false)
  | 'b' =>
    let (text, stopped) := unescapeEcho arg
    (d.pad text, none, stopped)
  | _ => (d.pad (arg.take (d.precision.getD arg.length)), none, false)

end Directive

/-- One use of a format: what is printed after it, and whether the output stops there. The number
bounds the characters still to be read. In a format of the utility, an escape may stop the
output. -/
private def useOnce (utility : Bool) : Nat → List Char → Printed → Printed × Bool
  | 0, _, done => (done, false)
  | _ + 1, [], done => (done, false)
  | n + 1, '%' :: '%' :: rest, done =>
    useOnce utility n rest { done with text := done.text ++ ['%'] }
  | n + 1, '%' :: rest, done =>
    match directive? rest with
    | none => ({ done with text := done.text ++ ['%'] }, false)
    | some (d, rest) =>
      let arg := done.unused.headD []
      let (text, fault, stopped) := d.apply arg
      let done := {
        text := done.text ++ text
        faults := done.faults ++ (fault.map (arg, ·)).toList
        unused := done.unused.tail }
      if stopped then (done, true) else useOnce utility n rest done
  | n + 1, '\\' :: e :: rest, done =>
    if utility && e == 'c' then (done, true)
    else if isOctal e then
      let (c, rest) := octalChar (e :: rest)
      useOnce utility n rest { done with text := done.text ++ [c] }
    else match namedEscape? e with
      | some c => useOnce utility n rest { done with text := done.text ++ [c] }
      | none => useOnce utility n rest { done with text := done.text ++ ['\\', e] }
  | n + 1, c :: rest, done => useOnce utility n rest { done with text := done.text ++ [c] }

/-- The uses of a format while there are arguments left. The number bounds how often it is
used. -/
private def useAgain (utility : Bool) (format : List Char) : Nat → Printed → Printed
  | 0, done => done
  | n + 1, done =>
    let (after, stopped) := useOnce utility (format.length + 1) format done
    if stopped then { after with unused := [] }
    else if after.unused.isEmpty || done.unused.length ≤ after.unused.length then after
    else useAgain utility format n after

/-- What `printf` prints for a format and arguments. -/
def printf (utility : Bool) (format : List Char) (args : List (List Char)) : Printed :=
  useAgain utility format (args.length + 1) { unused := args }

end ImageSwap.Shell
