import ImageSwap.Regex.Syntax

/-!
# The meaning of patterns

A pattern means a regular expression once the flags that hold at each of its parts are known. No
tables of characters beyond ASCII are at hand: where the flags ask for the characters of all
scripts, a shorthand, a property or letters of either case are refused. Text is never cut within a
character, so that where the flags ask for bytes, what could match a single byte that is no ASCII
character is refused.
-/

namespace ImageSwap.Regex

/-- The flags that hold at a part of a pattern. -/
structure Mode where
  caseless : Bool := false
  multiLine : Bool := false
  dotAll : Bool := false
  unicode : Bool := true
  carriageReturn : Bool := false
  deriving DecidableEq, Repr

/-- The mode after some flags have been switched. -/
def Mode.switched (m : Mode) (flags : Flags) : Mode where
  caseless := (flags.state? .caseless).getD m.caseless
  multiLine := (flags.state? .multiLine).getD m.multiLine
  dotAll := (flags.state? .dotAll).getD m.dotAll
  unicode := (flags.state? .unicode).getD m.unicode
  carriageReturn := (flags.state? .carriageReturn).getD m.carriageReturn

/-! ## Tables -/

/-- The characters of a named set. -/
def AsciiClass.chars : AsciiClass → CharSet
  | alnum => .normal [(0x30, 0x39), (0x41, 0x5a), (0x61, 0x7a)]
  | alpha => .normal [(0x41, 0x5a), (0x61, 0x7a)]
  | ascii => .normal [(0x00, 0x7f)]
  | blank => .normal [(0x09, 0x09), (0x20, 0x20)]
  | cntrl => .normal [(0x00, 0x1f), (0x7f, 0x7f)]
  | digit => .normal [(0x30, 0x39)]
  | graph => .normal [(0x21, 0x7e)]
  | lower => .normal [(0x61, 0x7a)]
  | print => .normal [(0x20, 0x7e)]
  | punct => .normal [(0x21, 0x2f), (0x3a, 0x40), (0x5b, 0x60), (0x7b, 0x7e)]
  | space => .normal [(0x09, 0x0d), (0x20, 0x20)]
  | upper => .normal [(0x41, 0x5a)]
  | word => .normal [(0x30, 0x39), (0x41, 0x5a), (0x5f, 0x5f), (0x61, 0x7a)]
  | xdigit => .normal [(0x30, 0x39), (0x41, 0x46), (0x61, 0x66)]

/-- The ASCII characters of a shorthand. -/
def Shorthand.chars : Shorthand → CharSet
  | digit => AsciiClass.digit.chars
  | space => AsciiClass.space.chars
  | word => AsciiClass.word.chars

/-- The set that an operation makes of two. -/
def SetOperation.apply : SetOperation → CharSet → CharSet → CharSet
  | intersection => CharSet.inter
  | difference => CharSet.diff
  | symmetricDifference => CharSet.symmDiff

/-- The name of a property as it is compared: without `is` at its start, without blanks, and in
lower case. -/
def Property.key (p : Property) : List Char :=
  let isBlank (c : Char) : Bool := c == ' ' || c == '_' || c == '-'
  let name := match p.name.toList with
    | i :: s :: rest => if i.toLower == 'i' && s.toLower == 's' then rest else i :: s :: rest
    | name => name
  (name.filter fun c => c.toNat < 0x80 && !isBlank c).map Char.toLower

/-- Why a property is refused. Three abbreviations are those of general categories, which are values
of a property; all other names are those of a property. -/
def Property.refusal (p : Property) : Reason :=
  if p.value.isNone && [['c', 'f'], ['s', 'c'], ['l', 'c']].contains p.key then .propertyValueUnknown
  else .propertyUnknown

/-! ## Characters and sets -/

/-- Characters that are named in a set. -/
structure Chars where
  set : CharSet := []
  /-- Whether there are some whose other cases have not been added. -/
  raw : Bool := false

namespace Mode

/-- The character that a literal between brackets stands for. -/
def itemChar (m : Mode) (l : Literal) : Except Fault Char :=
  if m.unicode || l.char.toNat < 0x80 then .ok l.char
  else if l.isByte then fault .byteAboveAscii l.span
  else fault .unicodeInBytes l.span

/-- The expression of a literal. -/
def literal (m : Mode) (l : Literal) : Except Fault Regex :=
  let chars := CharSet.range l.char l.char
  if m.unicode then
    if m.caseless then fault .caselessLetters l.span else .ok (.set chars)
  else if l.isByte && 0x80 ≤ l.char.toNat then fault .byteAboveAscii l.span
  else .ok (.set (if m.caseless then chars.foldCase else chars))

/-- The characters of a shorthand. -/
def shorthand (m : Mode) (span : Span) (kind : Shorthand) (negated : Bool) :
    Except Fault CharSet :=
  if m.unicode then fault .unicodeShorthand span
  else if negated then fault .byteAboveAscii span
  else .ok kind.chars

/-- A property, which is always refused. -/
def property (m : Mode) (span : Span) (p : Property) : Except Fault α :=
  fault (if m.unicode then p.refusal else .unicodeInBytes) span

/-- Characters with all their cases, if these are alike. -/
def folded (m : Mode) (span : Span) (c : Chars) : Except Fault CharSet :=
  if !m.caseless then .ok c.set
  else if !m.unicode then .ok c.set.foldCase
  else if c.raw then fault .caselessLetters span
  else .ok c.set

/-- The characters of a set whose items are given, or all others. -/
def bracketed (m : Mode) (span : Span) (negated : Bool) (items : Chars) :
    Except Fault CharSet := do
  let set ← m.folded span items
  if !negated then return set
  else if m.unicode then return set.complement
  else fault .byteAboveAscii span

end Mode

mutual
/-- The characters that a part of a set names. -/
def SetNode.chars (m : Mode) : SetNode → Except Fault Chars
  | .empty _ => .ok {}
  | .atom (.literal l) => do
    let c ← m.itemChar l
    return ⟨.range c c, true⟩
  | .atom (.shorthand span kind negated) => do return { set := ← m.shorthand span kind negated }
  | .atom (.property span p _) => m.property span p
  | .range _ low high => do
    let low ← m.itemChar low
    let high ← m.itemChar high
    return ⟨.range low high, true⟩
  | .ascii span name negated => do return { set := ← m.bracketed span negated ⟨name.chars, true⟩ }
  | .bracketed span negated inner => do
    let items ← inner.chars m
    return { set := ← m.bracketed span negated items }
  | .union _ items => SetNode.charsOfAll m items
  | .binary _ operation left right => do
    let first ← left.chars m
    let second ← right.chars m
    let second ← m.folded right.span second
    let first ← m.folded left.span first
    return { set := operation.apply first second }

/-- The characters that some parts of a set name. -/
def SetNode.charsOfAll (m : Mode) : List SetNode → Except Fault Chars
  | [] => .ok {}
  | item :: items => do
    let first ← item.chars m
    let rest ← SetNode.charsOfAll m items
    return ⟨first.set.union rest.set, first.raw || rest.raw⟩
end

/-! ## Expressions -/

/-- The line ends that the dot does not match. -/
def Mode.lineEnds (m : Mode) : CharSet :=
  if m.dotAll then []
  else if m.carriageReturn then .normal [(0x0a, 0x0a), (0x0d, 0x0d)]
  else .range '\n' '\n'

/-- The condition that an assertion states. -/
def Mode.place (m : Mode) : Assertion → RegexPlace
  | .textStart => .textStart
  | .textEnd => .textEnd
  | .lineStart => if m.multiLine then .lineStart m.carriageReturn else .textStart
  | .lineEnd => if m.multiLine then .lineEnd m.carriageReturn else .textEnd
  | .word edge => if m.unicode then .anyWord edge else .asciiWord edge

/-- The expression of a primitive part. -/
def Primitive.meaning (m : Mode) : Primitive → Except Fault Regex
  | .atom (.literal l) => m.literal l
  | .atom (.shorthand span kind negated) => return .set (← m.shorthand span kind negated)
  | .atom (.property span p _) => m.property span p
  | .dot span =>
    if m.unicode then .ok (.set m.lineEnds.complement) else fault .byteAboveAscii span
  | .place _ assertion => .ok (.place (m.place assertion))

mutual
/-- The expression of a part of a pattern in a mode, and the mode behind the part. -/
def Node.meaningIn (m : Mode) : Node → Except Fault (Regex × Mode)
  | .empty _ => .ok (.empty, m)
  | .flags _ switches => .ok (.empty, m.switched switches)
  | .primitive p => do return (← p.meaning m, m)
  | .set span negated inner => do
    let items ← inner.chars m
    return (.set (← m.bracketed span negated items), m)
  | .repeated _ body least greatest => do
    let (body, m) ← body.meaningIn m
    return (Regex.repetition body least greatest, m)
  | .group _ captures switches body => do
    let (body, _) ← body.meaningIn (m.switched switches)
    return (if captures then .group body else body, m)
  | .choice _ branches => do
    let (branches, m) ← Node.meaningsIn m branches
    return (Regex.choice branches, m)
  | .sequence _ parts => do
    let (parts, m) ← Node.meaningsIn m parts
    return (Regex.sequence parts, m)

/-- The expressions of some parts one after another, and the mode behind the last. -/
def Node.meaningsIn (m : Mode) : List Node → Except Fault (List Regex × Mode)
  | [] => .ok ([], m)
  | node :: nodes => do
    let (first, m) ← node.meaningIn m
    let (rest, m) ← Node.meaningsIn m nodes
    return (first :: rest, m)
end

/-- The expression that a pattern means. -/
def Node.meaning (node : Node) : Except Fault Regex := do
  let (r, _) ← node.meaningIn {}
  return r

end ImageSwap.Regex
