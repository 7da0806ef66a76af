import ImageSwap.Failure
import ImageSwap.Json.Number
import ImageSwap.Text.Bytes
import ImageSwap.Text.Hexadecimal

/-!
# Reading JSON

A document is one value with blanks around it. The reader goes from left to right, keeps what it
has not read yet, and stops at the first fault with a reason and the place of the last byte it
looked at. Arrays and objects may be nested up to a limit that the caller sets.
-/

namespace ImageSwap.Json

/-- Why a text is no document, what was left unread at that point, and how many bytes of the rest
were looked at nevertheless. -/
structure Fault where
  reason : String
  rest : List Char
  looked : Nat := 0
  deriving DecidableEq, Repr

/-- A step of the reader: it takes a value off the front of the text, or finds a fault. -/
abbrev Reader (α : Type) := List Char → Except Fault (α × List Char)

/-- A fault at the character that comes next, found at its first byte. -/
def faultAt (reason : String) (rest : List Char) : Except Fault α :=
  .error ⟨reason, rest, 1⟩

/-- A fault behind what was read. -/
def faultBehind (reason : String) (rest : List Char) : Except Fault α :=
  .error ⟨reason, rest, 0⟩

/-- A text that ends too early. -/
def endFault (reason : String) : Except Fault α := .error ⟨reason, [], 0⟩

/-- The number of bytes of a text. -/
def byteCount (cs : List Char) : Nat := cs.foldl (fun n c => n + c.utf8Size) 0

/-- The text without the blanks it begins with. -/
def skipBlanks (cs : List Char) : List Char :=
  cs.dropWhile fun c => c == ' ' || c == '\n' || c == '\t' || c == '\r'

/-- Four hexadecimal digits. The next four bytes are looked at together. -/
def hexQuad : Reader Nat := fun cs =>
  if byteCount (cs.take 4) < 4 then endFault "EOF while parsing a string"
  else match Text.numberOfHex? (cs.take 4) with
    | some n => .ok (n, cs.drop 4)
    | none => .error ⟨"invalid escape", cs, 4⟩

/-- The character that follows `\u`, given by one number or by two surrogates. -/
def unicodeEscape : Reader Char := fun cs => do
  let (high, rest) ← hexQuad cs
  if 0xdc00 ≤ high ∧ high ≤ 0xdfff then
    faultBehind "lone leading surrogate in hex escape" rest
  else if 0xd800 ≤ high ∧ high ≤ 0xdbff then
    match rest with
    | '\\' :: 'u' :: rest =>
      let (low, rest) ← hexQuad rest
      if 0xdc00 ≤ low ∧ low ≤ 0xdfff then
        .ok (Char.ofNat (0x10000 + (high - 0xd800) * 0x400 + (low - 0xdc00)), rest)
      else faultBehind "lone leading surrogate in hex escape" rest
    | [] | ['\\'] => endFault "EOF while parsing a string"
    | '\\' :: rest | rest => faultAt "unexpected end of hex escape" rest
  else .ok (Char.ofNat high, rest)

/-- The rest of a text after its opening quote, given the characters already read backwards. The
number bounds the characters still to be read. -/
def textOnto : Nat → List Char → Reader String
  | 0, _, _ => endFault "EOF while parsing a string"
  | n + 1, read, cs =>
    match cs with
    | [] => endFault "EOF while parsing a string"
    | '"' :: rest => .ok (String.ofList read.reverse, rest)
    | '\\' :: 'u' :: rest => do
      let (c, rest) ← unicodeEscape rest
      textOnto n (c :: read) rest
    | '\\' :: e :: rest =>
      let escapes : List (Char × Char) :=
        [('"', '"'), ('\\', '\\'), ('/', '/'), ('b', '\x08'), ('f', '\x0c'), ('n', '\n'),
          ('r', '\r'), ('t', '\t')]
      match escapes.find? (·.1 == e) with
      | some (_, c) => textOnto n (c :: read) rest
      | none => faultAt "invalid escape" (e :: rest)
    | ['\\'] => endFault "EOF while parsing a string"
    | c :: rest =>
      if c.toNat < 0x20 then
        faultAt "control character (\\u0000-\\u001F) found while parsing a string" (c :: rest)
      else textOnto n (c :: read) rest

/-- The rest of a text after its opening quote. -/
def readText : Reader String := fun cs => textOnto (cs.length + 1) [] cs

/-- The reason why a number that is too large has no value. -/
def outOfRange : String := "number out of range"

/-- At least one digit. -/
def digits1 : Reader (List Char) := fun cs =>
  match cs with
  | [] => endFault "EOF while parsing a value"
  | c :: _ =>
    if c.isDigit then .ok (cs.takeWhile Char.isDigit, cs.dropWhile Char.isDigit)
    else faultAt "invalid number" cs

/-- The digits before a fraction: one zero, or digits that do not begin with a zero. -/
def integerDigits : Reader (List Char)
  | '0' :: c :: rest =>
    if c.isDigit then faultAt "invalid number" (c :: rest) else .ok (['0'], c :: rest)
  | cs => digits1 cs

/-- The greatest exponent that is told apart from a greater one. -/
def greatestExponent : Nat := UInt32.size / 2 - 1

/-- The exponent that digits spell, or nothing when it is too great, with what is left after the
digit that makes it so. -/
def exponentDigits (exponent : Nat) : List Char → Option Nat × List Char
  | [] => (some exponent, [])
  | c :: cs =>
    if c.isDigit then
      let exponent := exponent * 10 + (c.toNat - '0'.toNat)
      if greatestExponent < exponent then (none, cs) else exponentDigits exponent cs
    else (some exponent, c :: cs)

/-- The value of a number, if there is one. -/
def readScaled (negative : Bool) (s : Scaled) : Reader Json := fun rest =>
  match s.value? negative with
  | some v => .ok (real v, rest)
  | none => faultBehind outOfRange rest

/-- A number from the digits of its exponent on. -/
def readExponent (negative : Bool) (s : Scaled) (down : Bool) : Reader Json := fun cs => do
  let _ ← digits1 cs
  match exponentDigits 0 cs with
  | (some exponent, rest) =>
    let power := if down then s.power - exponent else s.power + exponent
    readScaled negative { s with power } rest
  | (none, rest) =>
    if s.digits = 0 ∨ down then readScaled negative {} (rest.dropWhile Char.isDigit)
    else faultBehind outOfRange rest

/-- A number from its exponent on, if it has one. -/
def readTail (negative : Bool) (s : Scaled) : Reader Json
  | 'e' :: '+' :: rest | 'E' :: '+' :: rest => readExponent negative s false rest
  | 'e' :: '-' :: rest | 'E' :: '-' :: rest => readExponent negative s true rest
  | 'e' :: rest | 'E' :: rest => readExponent negative s false rest
  | rest => readScaled negative s rest

/-- A number without its sign. -/
def unsigned (negative : Bool) : Reader Json := fun cs => do
  let (whole, rest) ← integerDigits cs
  match rest with
  | '.' :: rest =>
    let (fraction, rest) ← digits1 rest
    readTail negative ((Scaled.ofWhole whole).1.addFraction fraction) rest
  | 'e' :: _ | 'E' :: _ => readTail negative (Scaled.ofWhole whole).1 rest
  | rest =>
    match ofWhole? negative whole with
    | some v => .ok (v, rest)
    | none => faultBehind outOfRange rest

/-- A number. -/
def readNumber : Reader Json
  | '-' :: rest => unsigned true rest
  | cs => unsigned false cs

/-- A fixed word, given the letters still expected. -/
def readWord (value : Json) : List Char → Reader Json
  | [], cs => .ok (value, cs)
  | _ :: _, [] => endFault "EOF while parsing a value"
  | w :: ws, c :: cs =>
    if w == c then readWord value ws cs else faultAt "expected ident" (c :: cs)

/-- The elements of an array after its bracket, each read by `item`; the number bounds how many
there are. -/
def elementsOnto (item : Reader Json) : Nat → List Json → Reader (List Json)
  | 0, _, _ => endFault "EOF while parsing a list"
  | n + 1, read, cs =>
    match skipBlanks cs with
    | [] => endFault "EOF while parsing a list"
    | ']' :: rest => .ok (read.reverse, rest)
    | c :: rest =>
      if read.isEmpty then do
        let (v, rest) ← item (c :: rest)
        elementsOnto item n [v] rest
      else if c == ',' then
        match skipBlanks rest with
        | ']' :: rest => faultAt "trailing comma" (']' :: rest)
        | rest => do
          let (v, rest) ← item rest
          elementsOnto item n (v :: read) rest
      else faultAt "expected \x60,\x60 or \x60]\x60" (c :: rest)

/-- A member of an object, from the quote of its name on, its value read by `item`. -/
def readMember (item : Reader Json) : Reader (String × Json)
  | [] => endFault "EOF while parsing a value"
  | '"' :: rest => do
    let (name, rest) ← readText rest
    match skipBlanks rest with
    | [] => endFault "EOF while parsing an object"
    | ':' :: rest =>
      let (v, rest) ← item rest
      .ok ((name, v), rest)
    | rest => faultAt "expected \x60:\x60" rest
  | cs => faultAt "key must be a string" cs

/-- The members of an object after its brace, their values read by `item`; the number bounds how
many there are. -/
def membersOnto (item : Reader Json) :
    Nat → List (String × Json) → Reader (List (String × Json))
  | 0, _, _ => endFault "EOF while parsing an object"
  | n + 1, read, cs =>
    match skipBlanks cs with
    | [] => endFault "EOF while parsing an object"
    | '\x7d' :: rest => .ok (read.reverse, rest)
    | c :: rest =>
      if read.isEmpty then do
        let (m, rest) ← readMember item (c :: rest)
        membersOnto item n [m] rest
      else if c == ',' then
        match skipBlanks rest with
        | '\x7d' :: rest => faultAt "trailing comma" ('\x7d' :: rest)
        | rest => do
          let (m, rest) ← readMember item rest
          membersOnto item n (m :: read) rest
      else faultAt "expected \x60,\x60 or \x60\x7d\x60" (c :: rest)

/-- A value inside which arrays and objects may be nested `depth` deep. -/
def readValue : Nat → Reader Json
  | depth, cs =>
    match skipBlanks cs with
    | [] => endFault "EOF while parsing a value"
    | 'n' :: rest => readWord null ['u', 'l', 'l'] rest
    | 't' :: rest => readWord (bool true) ['r', 'u', 'e'] rest
    | 'f' :: rest => readWord (bool false) ['a', 'l', 's', 'e'] rest
    | '"' :: rest => (readText rest).map fun (s, rest) => (str s, rest)
    | '[' :: rest =>
      match depth with
      | 0 => faultAt "recursion limit exceeded" ('[' :: rest)
      | depth + 1 =>
        (elementsOnto (readValue depth) (rest.length + 1) [] rest).map
          fun (vs, rest) => (arr vs, rest)
    | '\x7b' :: rest =>
      match depth with
      | 0 => faultAt "recursion limit exceeded" ('\x7b' :: rest)
      | depth + 1 =>
        (membersOnto (readValue depth) (rest.length + 1) [] rest).map
          fun (ms, rest) => (obj ms, rest)
    | c :: rest =>
      if c == '-' || c.isDigit then readNumber (c :: rest)
      else faultAt "expected value" (c :: rest)

/-- The document in a text, with nesting up to `depth`. -/
def readDocument (depth : Nat) (cs : List Char) : Except Fault Json := do
  let (v, rest) ← readValue depth cs
  match skipBlanks rest with
  | [] => .ok v
  | rest => faultAt "trailing characters" rest

/-- How deep a document may be nested. -/
def nestingLimit : Nat := 127

/-- The value that a text writes, or the reason why it writes none. The place is given by the
line and by the number of bytes looked at on it. -/
def decode (text : String) : Except JsonError Json :=
  let cs := text.toList
  (readDocument nestingLimit cs).mapError fun fault =>
    let looked := byteCount cs - byteCount fault.rest + fault.looked
    let read := (Bytes.ofString text).take looked
    let line := read.reverse.takeWhile (· != 0x0a)
    .malformed fault.reason (read.count 0x0a + 1) line.length

end ImageSwap.Json
