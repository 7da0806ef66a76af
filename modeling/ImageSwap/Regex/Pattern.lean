import ImageSwap.Regex.Fault

/-!
# Patterns

A pattern as it is written: every part of it with the stretch that it takes up. What a part means
may depend on flags that stand before it, so nothing is said here about what it matches. Parts may
be nested up to a limit.
-/

namespace ImageSwap.Regex

/-- A way to read what follows. -/
inductive Flag where
  /-- Letters of either case are alike. -/
  | caseless
  /-- Lines begin and end at every line end. -/
  | multiLine
  /-- The dot matches a line end as well. -/
  | dotAll
  /-- Repetitions are reluctant unless they say otherwise. -/
  | swapGreed
  /-- Characters are those of all scripts, not bytes. -/
  | unicode
  /-- A carriage return belongs to the line end. -/
  | carriageReturn
  /-- White space and comments in the pattern are passed over. -/
  | spaced
  deriving DecidableEq, Repr

/-- Flags in the order in which they are switched on or off. -/
abbrev Flags := List (Flag × Bool)

/-- Whether flags switch one of them on or off. -/
def Flags.state? (flags : Flags) (flag : Flag) : Option Bool := flags.lookup flag

/-- A character that stands for itself. -/
structure Literal where
  span : Span
  char : Char
  /-- Whether it is written in two hexadecimal digits, which name a byte rather than a character
  where text is read as bytes. -/
  isByte : Bool := false
  deriving DecidableEq, Repr

/-- A set of characters with a letter of its own. -/
inductive Shorthand where
  | digit
  | space
  | word
  deriving DecidableEq, Repr

/-- A property of characters, with a value if one is asked for. -/
structure Property where
  name : String
  value : Option String := none
  deriving DecidableEq, Repr

/-- A part of a pattern that may stand alone as well as between brackets. -/
inductive Atom where
  | literal (l : Literal)
  | shorthand (span : Span) (kind : Shorthand) (negated : Bool)
  | property (span : Span) (property : Property) (negated : Bool)
  deriving DecidableEq, Repr

/-- The stretch of an atom. -/
def Atom.span : Atom → Span
  | literal l => l.span
  | shorthand span .. => span
  | property span .. => span

/-- A side of a word, or of what is no word. -/
inductive WordEdge where
  | either
  | neither
  | start
  | stop
  | startHalf
  | stopHalf
  deriving DecidableEq, Repr

/-- A condition on a place in the text. -/
inductive Assertion where
  | lineStart
  | lineEnd
  | textStart
  | textEnd
  | word (edge : WordEdge)
  deriving DecidableEq, Repr

/-- A part of a pattern that has no parts of its own. -/
inductive Primitive where
  | atom (a : Atom)
  | dot (span : Span)
  | place (span : Span) (assertion : Assertion)
  deriving DecidableEq, Repr

/-- The stretch of a primitive part. -/
def Primitive.span : Primitive → Span
  | atom a => a.span
  | dot span => span
  | place span _ => span

/-- How two sets make a third. -/
inductive SetOperation where
  | intersection
  | difference
  | symmetricDifference
  deriving DecidableEq, Repr

/-- A named set of ASCII characters. -/
inductive AsciiClass where
  | alnum
  | alpha
  | ascii
  | blank
  | cntrl
  | digit
  | graph
  | lower
  | print
  | punct
  | space
  | upper
  | word
  | xdigit
  deriving DecidableEq, Repr

/-- What stands between brackets. -/
inductive SetNode where
  | empty (span : Span)
  | atom (a : Atom)
  | range (span : Span) (low high : Literal)
  | ascii (span : Span) (name : AsciiClass) (negated : Bool)
  | bracketed (span : Span) (negated : Bool) (inner : SetNode)
  | union (span : Span) (items : List SetNode)
  | binary (span : Span) (operation : SetOperation) (left right : SetNode)
  deriving Repr

/-- The stretch of what stands between brackets. -/
def SetNode.span : SetNode → Span
  | empty span => span
  | atom a => a.span
  | range span .. => span
  | ascii span .. => span
  | bracketed span .. => span
  | union span _ => span
  | binary span .. => span

/-- A pattern or a part of one. -/
inductive Node where
  | empty (span : Span)
  | flags (span : Span) (flags : Flags)
  | primitive (p : Primitive)
  | set (span : Span) (negated : Bool) (inner : SetNode)
  | repeated (span : Span) (body : Node) (least : Nat) (greatest : Option Nat)
  | group (span : Span) (captures : Bool) (flags : Flags) (body : Node)
  | choice (span : Span) (branches : List Node)
  | sequence (span : Span) (parts : List Node)
  deriving Repr

/-- The stretch of a part. -/
def Node.span : Node → Span
  | empty span => span
  | flags span _ => span
  | primitive p => p.span
  | set span .. => span
  | repeated span .. => span
  | group span .. => span
  | choice span _ => span
  | sequence span _ => span

mutual
/-- The first part between brackets that is nested too deep when `room` more levels may be. -/
def SetNode.tooDeep? (room : Nat) : SetNode → Option Span
  | .bracketed span _ inner =>
    match room with
    | 0 => some span
    | room + 1 => inner.tooDeep? room
  | .union span items =>
    match room with
    | 0 => some span
    | room + 1 => SetNode.tooDeepIn? room items
  | .binary span _ left right =>
    match room with
    | 0 => some span
    | room + 1 => (left.tooDeep? room).or (right.tooDeep? room)
  | _ => none

/-- The first of some parts between brackets, or of their parts, that is nested too deep. -/
def SetNode.tooDeepIn? (room : Nat) : List SetNode → Option Span
  | [] => none
  | item :: items => (item.tooDeep? room).or (SetNode.tooDeepIn? room items)
end

mutual
/-- The first part that is nested too deep when `room` more levels may be. -/
def Node.tooDeep? (room : Nat) : Node → Option Span
  | .set span _ inner =>
    match room with
    | 0 => some span
    | room + 1 => inner.tooDeep? room
  | .repeated span body _ _ =>
    match room with
    | 0 => some span
    | room + 1 => body.tooDeep? room
  | .group span _ _ body =>
    match room with
    | 0 => some span
    | room + 1 => body.tooDeep? room
  | .choice span branches =>
    match room with
    | 0 => some span
    | room + 1 => Node.tooDeepIn? room branches
  | .sequence span parts =>
    match room with
    | 0 => some span
    | room + 1 => Node.tooDeepIn? room parts
  | _ => none

/-- The first of some parts, or of their parts, that is nested too deep. -/
def Node.tooDeepIn? (room : Nat) : List Node → Option Span
  | [] => none
  | node :: nodes => (node.tooDeep? room).or (Node.tooDeepIn? room nodes)
end

/-- How deep the parts of a pattern may be nested. -/
def nestingLimit : Nat := 250

end ImageSwap.Regex
