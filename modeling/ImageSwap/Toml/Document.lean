import ImageSwap.Toml.Moment
import ImageSwap.Toml.Number
import ImageSwap.Toml.Table

/-!
# TOML documents

The grammar of a document. A line holds a dotted key with its value, or a header, or nothing; an
array may run over several lines, a table between braces may not. Arrays and tables may be nested
and keys dotted up to a limit.
-/

namespace ImageSwap.Toml

/-- How many arrays and tables may be open at once, and how many parts a key may have. -/
def nestingLimit : Nat := 79

/-- Whether a character may stand in a key without quotes. -/
def isBare (c : Char) : Bool := c.isAlphanum || c == '_' || c == '-'

/-- The name of one part of a key. -/
def readName : Reader String
  | '"' :: rest => basicOnto [] rest
  | '\'' :: rest => readLiteral rest
  | cs =>
    if (cs.takeWhile isBare).isEmpty then none
    else some (String.ofList (cs.takeWhile isBare), cs.dropWhile isBare)

/-- One part of a key, with the blanks around it. -/
def readPart : Reader Key := fun cs => do
  let ((span, name), rest) ← Reader.spanned readName (skipBlanks cs)
  return (⟨name, span⟩, skipBlanks rest)

/-- The parts of a key, the last one apart, of which there are at most a given number. -/
def readKey : Nat → Reader (List Key × Key)
  | 0, _ => none
  | n + 1, cs => do
    let (part, rest) ← readPart cs
    match rest with
    | '.' :: rest =>
      let ((path, key), rest) ← readKey n rest
      return ((part :: path, key), rest)
    | rest => return (([], part), rest)

/-- The elements of an array after its bracket, each read by `item`, put after those already read
backwards. The number bounds how many there are. -/
def elementsOnto (item : Reader (Option Span × Value)) :
    Nat → List (Option Span × Value) → Reader (List (Option Span × Value))
  | 0, _, _ => none
  | n + 1, read, cs =>
    match skipGaps cs with
    | ']' :: rest => some (read.reverse, rest)
    | cs => do
      let (element, rest) ← item cs
      match skipGaps rest with
      | ',' :: rest => elementsOnto item n (element :: read) rest
      | ']' :: rest => return ((element :: read).reverse, rest)
      | _ => none

/-- A dotted key and its value, which `item` reads. -/
def readAssignment (item : Reader (Span × Value)) : Reader Statement := fun cs => do
  let ((path, key), rest) ← readKey nestingLimit cs
  match rest with
  | '=' :: rest =>
    let ((span, value), rest) ← item (skipBlanks rest)
    return (.assign path key span value, rest)
  | _ => none

/-- The statements of a table between braces, at least one, put after those already read backwards.
The number bounds how many there are. -/
def membersOnto (item : Reader (Span × Value)) :
    Nat → List Statement → Reader (List Statement)
  | 0, _, _ => none
  | n + 1, read, cs => do
    let (statement, rest) ← readAssignment item cs
    match skipBlanks rest with
    | ',' :: rest => membersOnto item n (statement :: read) rest
    | '\x7d' :: rest => return ((statement :: read).reverse, rest)
    | _ => none

/-- The statements of a table after its opening brace. -/
def readMembers (item : Reader (Span × Value)) : Reader (List Statement) := fun cs =>
  match skipBlanks cs with
  | '\x7d' :: rest => some ([], rest)
  | cs => membersOnto item (cs.length + 1) [] cs

/-- A value that holds no other. -/
def readScalar : Reader Value
  | 't' :: 'r' :: 'u' :: 'e' :: rest => some (.boolean true, rest)
  | 'f' :: 'a' :: 'l' :: 's' :: 'e' :: rest => some (.boolean false, rest)
  | c :: rest =>
    if c == '"' || c == '\'' then
      (readString (c :: rest)).map fun (s, rest) => (.string s, rest)
    else
      let moment := (readMoment (c :: rest)).map fun (_, rest) => (Value.moment, rest)
      let float := (readFloat (c :: rest)).map fun (x, rest) => (Value.float x, rest)
      let integer := (readInteger (c :: rest)).map fun (n, rest) => (Value.integer n, rest)
      moment.or (float.or integer)
  | [] => none

/-- A value inside which arrays and tables may be nested `depth` deep. -/
def readValue : Nat → Reader Value
  | depth, '[' :: rest =>
    match depth with
    | 0 => none
    | depth + 1 => do
      let item : Reader (Option Span × Value) := fun cs => do
        let ((span, value), rest) ← Reader.spanned (readValue depth) cs
        return ((some span, value), rest)
      let (elements, rest) ← elementsOnto item (rest.length + 1) [] rest
      return (.array .inline elements, rest)
  | depth, '\x7b' :: rest =>
    match depth with
    | 0 => none
    | depth + 1 => do
      let (statements, rest) ← readMembers (Reader.spanned (readValue depth)) rest
      let members ← Members.ofStatements statements
      return (.table .inline members, rest)
  | _, cs => readScalar cs

/-- A header after its opening brackets, up to its closing ones. -/
def readHeader (origin : ArrayOrigin) : Reader (List Key × Key) := fun cs => do
  let (keys, rest) ← readKey nestingLimit cs
  match origin, rest with
  | .inline, ']' :: rest => return (keys, rest)
  | .headers, ']' :: ']' :: rest => return (keys, rest)
  | _, _ => none

/-- The statement that a line begins with. -/
def readStatement : Reader Statement := fun cs =>
  match cs with
  | '[' :: '[' :: rest => do
    let ((path, key), rest) ← readHeader .headers rest
    return (.header .headers path key ⟨cs, rest⟩, rest)
  | '[' :: rest => do
    let ((path, key), rest) ← readHeader .inline rest
    return (.header .inline path key ⟨cs, rest⟩, rest)
  | cs => readAssignment (Reader.spanned (readValue nestingLimit)) cs

/-- The statements of a document, put after those already read backwards. The number bounds how
many lines there are. -/
def linesOnto : Nat → List Statement → List Char → Option (List Statement)
  | 0, _, _ => none
  | n + 1, read, cs =>
    match skipBlanks cs with
    | [] => some read.reverse
    | cs =>
      match endLine? cs with
      | some rest => linesOnto n read rest
      | none => do
        let (statement, rest) ← readStatement cs
        let rest ← endLine? rest
        linesOnto n (statement :: read) rest

/-- A text without the byte order mark it may begin with. -/
def dropMark : List Char → List Char
  | '\uFEFF' :: cs => cs
  | cs => cs

/-- The members of the document in a text, if it is one. -/
def parse (text : List Char) : Option Members := do
  let cs := dropMark text
  let statements ← linesOnto (cs.length + 1) [] cs
  Members.ofStatements statements

end ImageSwap.Toml
