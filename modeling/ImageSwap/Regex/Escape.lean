import ImageSwap.Regex.Cursor
import ImageSwap.Regex.Pattern
import ImageSwap.Text.Hexadecimal

/-!
# Reading escapes and other primitive parts

A backslash makes a sign stand for itself, names a control or another character by its number,
names a set or a property, or states a condition on a place.
-/

namespace ImageSwap.Regex

/-- A reader takes a value off a pattern, or finds a fault. -/
abbrev Reader (α : Type) := Cursor → Except Fault (α × Cursor)

/-- A certain number of hexadecimal digits, put after those already read backwards. -/
private def hexDigitsOnto (spaced : Bool) : Nat → List Char → Reader (List Char)
  | 0, read, c => .ok (read.reverse, c)
  | n + 1, read, c =>
    match c.rest with
    | [] => fault .escapeUnfinished c.here
    | x :: _ =>
      if Text.isHexDigit x then hexDigitsOnto spaced n (x :: read) (c.advance spaced)
      else fault .hexDigit c.charSpan

/-- A character given by a fixed number of hexadecimal digits. -/
private def readHexFixed (spaced : Bool) (start count : Nat) : Reader Literal := fun c => do
  let (digits, behind) ← hexDigitsOnto spaced count [] c
  match Text.charOfHex? digits with
  | some char => return (⟨behind.spanSince start, char, count == 2⟩, behind)
  | none => fault .hexNoCharacter (behind.spanSince c.offset)

/-- A character given by hexadecimal digits in braces, from the opening brace on. -/
private def readHexBraced (spaced : Bool) (start : Nat) : Reader Literal := fun brace =>
  let (digits, c) := (brace.advance spaced).takeWhile spaced Text.isHexDigit
  match c.rest with
  | [] => fault .escapeUnfinished (c.spanSince brace.offset)
  | '\x7d' :: _ =>
    let behind := c.advance spaced
    if digits.isEmpty then fault .hexEmpty (behind.spanSince brace.offset)
    else match Text.charOfHex? digits with
      | some char => .ok (⟨behind.spanSince start, char, false⟩, behind)
      | none => fault .hexNoCharacter (c.spanSince (brace.offset + 1))
  | _ => fault .hexDigit c.charSpan

/-- A character given by its number, from the letter that says how it is written on. -/
private def readHex (spaced : Bool) (start count : Nat) : Reader Literal := fun letter =>
  let c := letter.advance spaced
  if c.atEnd then fault .escapeUnfinished c.here
  else if c.isAt '\x7b' then readHexBraced spaced start c
  else readHexFixed spaced start count c

/-- A text cut in two at the first place where a sign stands. -/
private def cutAt? (sign : List Char) : List Char → Option (List Char × List Char)
  | [] => none
  | c :: cs =>
    if sign.isPrefixOf (c :: cs) then some ([], (c :: cs).drop sign.length)
    else (cutAt? sign cs).map fun (before, after) => (c :: before, after)

/-- The property that the text in braces asks for. -/
private def propertyOf (text : List Char) : Property :=
  match ((cutAt? ['!', '='] text).or (cutAt? [':'] text)).or (cutAt? ['='] text) with
  | some (name, value) => ⟨String.ofList name, some (String.ofList value)⟩
  | none => ⟨String.ofList text, none⟩

/-- A property, from its letter on. -/
private def readProperty (spaced : Bool) (start : Nat) (negated : Bool) : Reader Atom :=
  fun letter =>
    let c := letter.advance spaced
    match c.rest with
    | [] => fault .escapeUnfinished c.here
    | '\x7b' :: _ =>
      let (text, c) := (c.advance spaced).takeWhile spaced (· != '\x7d')
      if c.atEnd then fault .escapeUnfinished c.here
      else .ok (.property (c.bump.spanSince start) (propertyOf text) negated, c.bump)
    | '\\' :: _ => fault .propertyInvalid c.charSpan
    | x :: _ =>
      let behind := c.advance spaced
      .ok (.property (behind.spanSince start) ⟨String.singleton x, none⟩ negated, behind)

/-- The edge of a word that a name in braces stands for. -/
private def edgeOfName? (name : List Char) : Option WordEdge :=
  match String.ofList name with
  | "start" => some .start
  | "end" => some .stop
  | "start-half" => some .startHalf
  | "end-half" => some .stopHalf
  | _ => none

/-- The edge of a word that is named in braces, from the opening brace on, if what stands in the
braces may be a name; otherwise it is a count. -/
private def readEdge? (spaced : Bool) (start : Nat) : Reader (Option WordEdge) := fun brace =>
  let isNameChar (c : Char) : Bool := c.isAlpha || c == '-'
  let inner := brace.advance spaced
  match inner.rest with
  | [] => fault .wordEdgeOrCountUnfinished (inner.spanSince start)
  | x :: _ =>
    if !isNameChar x then .ok (none, brace)
    else
      let (name, c) := inner.takeWhile spaced isNameChar
      if !c.isAt '\x7d' then fault .wordEdgeUnclosed (c.spanSince brace.offset)
      else match edgeOfName? name with
        | some edge => .ok (some edge, c.bump)
        | none => fault .wordEdgeUnknown (c.spanSince inner.offset)

/-- A side of a word, or of what is no word, from behind its letter on. -/
private def readWordEdge (spaced : Bool) (start : Nat) : Reader Primitive := fun c => do
  if c.isAt '\x7b' then
    let (edge, c) ← readEdge? spaced start c
    return (.place (c.spanSince start) (.word (edge.getD .either)), c)
  else return (.place (c.spanSince start) (.word .either), c)

/-- Whether a sign may have a backslash before it. -/
private def isEscapable (c : Char) : Bool :=
  c.toNat < 0x80 && !c.isAlphanum && c != '<' && c != '>'

/-- The control character that a letter stands for. -/
private def controlOf? (letter : Char) : Option Char :=
  match letter with
  | 'a' => some '\x07'
  | 'f' => some '\x0c'
  | 't' => some '\t'
  | 'n' => some '\n'
  | 'r' => some '\r'
  | 'v' => some '\x0b'
  | _ => none

/-- The condition that a letter stands for. -/
private def assertionOf? (letter : Char) : Option Assertion :=
  match letter with
  | 'A' => some .textStart
  | 'z' => some .textEnd
  | 'B' => some (.word .neither)
  | '<' => some (.word .start)
  | '>' => some (.word .stop)
  | _ => none

/-- An escape, from its backslash on. -/
def readEscape (spaced : Bool) : Reader Primitive := fun backslash => do
  let start := backslash.offset
  let c := backslash.bump
  let behind := c.bump
  let span := behind.spanSince start
  let shorthand (kind : Shorthand) (negated : Bool) : Except Fault (Primitive × Cursor) :=
    .ok (.atom (.shorthand span kind negated), behind)
  let hex (count : Nat) : Except Fault (Primitive × Cursor) :=
    (readHex spaced start count c).map fun (l, c) => (.atom (.literal l), c)
  let property (negated : Bool) : Except Fault (Primitive × Cursor) :=
    (readProperty spaced start negated c).map fun (a, c) => (.atom a, c)
  match c.rest with
  | [] => fault .escapeUnfinished (c.spanSince start)
  | letter :: _ =>
    match letter with
    | 'x' => hex 2
    | 'u' => hex 4
    | 'U' => hex 8
    | 'p' => property false
    | 'P' => property true
    | 'd' => shorthand .digit false
    | 'D' => shorthand .digit true
    | 's' => shorthand .space false
    | 'S' => shorthand .space true
    | 'w' => shorthand .word false
    | 'W' => shorthand .word true
    | 'b' => readWordEdge spaced start behind
    | letter =>
      if letter.isDigit then fault .backreference span
      else match controlOf? letter, assertionOf? letter with
        | some char, _ => return (.atom (.literal ⟨span, char, false⟩), behind)
        | none, some assertion => return (.place span assertion, behind)
        | none, none =>
          if isEscapable letter then return (.atom (.literal ⟨span, letter, false⟩), behind)
          else fault .escapeUnknown span

/-- A part of a pattern that is one character or one escape. -/
def readPrimitive (spaced : Bool) : Reader Primitive := fun c =>
  match c.rest with
  | '\\' :: _ => readEscape spaced c
  | '.' :: _ => .ok (.dot c.charSpan, c.bump)
  | '^' :: _ => .ok (.place c.charSpan .lineStart, c.bump)
  | '$' :: _ => .ok (.place c.charSpan .lineEnd, c.bump)
  | x :: _ => .ok (.atom (.literal ⟨c.charSpan, x, false⟩), c.bump)
  | [] => .ok (.place c.here .textEnd, c)

end ImageSwap.Regex
