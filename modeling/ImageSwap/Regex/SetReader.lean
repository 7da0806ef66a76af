import ImageSwap.Regex.Escape

/-!
# Reading sets of characters

A set stands between brackets and may hold other sets. The reader goes from left to right and keeps
the sets that are open, and the operands of the operations among them, on a stack.
-/

namespace ImageSwap.Regex

/-- Items of a set that has not come to its end, the last one first. -/
private structure Items where
  span : Span
  items : List SetNode := []

namespace Items

/-- No items yet. -/
private def start (c : Cursor) : Items := ⟨c.here, []⟩

/-- Items with one more. -/
private def push (u : Items) (item : SetNode) : Items :=
  let first := if u.items.isEmpty then item.span.start else u.span.start
  ⟨⟨first, item.span.stop⟩, item :: u.items⟩

/-- What items make together. -/
private def node (u : Items) : SetNode :=
  match u.items with
  | [] => .empty u.span
  | [item] => item
  | items => .union u.span items.reverse

end Items

/-- A set that is open, or the left operand of an operation. -/
private inductive SetFrame where
  | opened (before : Items) (span : Span) (negated : Bool)
  | operand (operation : SetOperation) (left : SetNode)

/-- How far the reader of a set has come. -/
private structure SetState where
  cursor : Cursor
  items : Items
  stack : List SetFrame

/-- The name of a set of ASCII characters. -/
private def asciiClassOfName? (name : List Char) : Option AsciiClass :=
  match String.ofList name with
  | "alnum" => some .alnum
  | "alpha" => some .alpha
  | "ascii" => some .ascii
  | "blank" => some .blank
  | "cntrl" => some .cntrl
  | "digit" => some .digit
  | "graph" => some .graph
  | "lower" => some .lower
  | "print" => some .print
  | "punct" => some .punct
  | "space" => some .space
  | "upper" => some .upper
  | "word" => some .word
  | "xdigit" => some .xdigit
  | _ => none

/-- A named set such as `[:alpha:]` or `[:^alpha:]`, if that is what follows. -/
private def readAsciiClass? (c : Cursor) : Option (SetNode × Cursor) := do
  let inner ← c.bumpOver? ['[', ':']
  let negated := inner.isAt '^'
  let inner := if negated then inner.bump else inner
  let (name, behind) := inner.takeWhile false (· != ':')
  let behind ← behind.bumpOver? [':', ']']
  let kind ← asciiClassOfName? name
  return (.ascii (behind.spanSince c.offset) kind negated, behind)

/-- The hyphens that a set begins with, which stand for themselves. The number bounds how many
there are; `start` is where the set begins. -/
private def hyphensOnto (spaced : Bool) (start : Nat) : Nat → Items → Reader Items
  | 0, u, c => .ok (u, c)
  | n + 1, u, c =>
    if c.isAt '-' then
      let u := u.push (.atom (.literal ⟨c.charSpan, '-', false⟩))
      let c := c.advance spaced
      if c.atEnd then fault .setUnclosed ⟨start, start⟩ else hyphensOnto spaced start n u c
    else .ok (u, c)

/-- The beginning of a set, from its bracket on: whether it is negated, and the items that would
mean something else further on. -/
private def readOpening (spaced : Bool) : Reader (Bool × Items) := fun bracket => do
  let unclosed (c : Cursor) : Except Fault Unit :=
    if c.atEnd then fault .setUnclosed (c.spanSince bracket.offset) else .ok ()
  let c := bracket.advance spaced
  unclosed c
  let negated := c.isAt '^'
  let c := if negated then c.advance spaced else c
  unclosed c
  let (items, c) ← hyphensOnto spaced bracket.offset c.rest.length (.start c) c
  if items.items.isEmpty && c.isAt ']' then
    let items := items.push (.atom (.literal ⟨c.charSpan, ']', false⟩))
    let c := c.advance spaced
    unclosed c
    return ((negated, items), c)
  else return ((negated, items), c)

/-- The fault of a pattern that ends within a set. -/
private def unclosedFault (stack : List SetFrame) (c : Cursor) : Except Fault α :=
  let opened := stack.findSome? fun
    | .opened _ span _ => some span
    | .operand .. => none
  fault .setUnclosed (opened.getD c.here)

/-- A character or an escape between brackets. -/
private def readItem (spaced : Bool) : Reader Primitive := fun c =>
  match c.rest with
  | '\\' :: _ => readEscape spaced c
  | x :: _ => .ok (.atom (.literal ⟨c.charSpan, x, false⟩), c.bump)
  | [] => .ok (.dot c.here, c)

/-- A primitive part as an item of a set. -/
private def toItem : Primitive → Except Fault SetNode
  | .atom a => .ok (.atom a)
  | p => fault .escapeInSet p.span

/-- A primitive part as the limit of a range. -/
private def toLimit : Primitive → Except Fault Literal
  | .atom (.literal l) => .ok l
  | p => fault .rangeLimit p.span

/-- A character, an escape or a range between brackets. -/
private def readRange (spaced : Bool) (stack : List SetFrame) : Reader SetNode := fun c => do
  let (first, c) ← readItem spaced c
  let c := c.skip spaced
  if c.atEnd then unclosedFault stack c
  else
    let next := c.peekBeyond? spaced
    if !c.isAt '-' || next == some ']' || next == some '-' then return (← toItem first, c)
    else
      let c := c.advance spaced
      if c.atEnd then unclosedFault stack c
      else
        let (last, c) ← readItem spaced c
        let low ← toLimit first
        let high ← toLimit last
        let span : Span := ⟨first.span.start, last.span.stop⟩
        if high.char < low.char then fault .rangeReversed span
        else return (.range span low high, c)

/-- The last operand of an operation, applied to the operand before it if there is one. -/
private def applyOperation (right : SetNode) : List SetFrame → SetNode × List SetFrame
  | .operand operation left :: stack =>
    (.binary ⟨left.span.start, right.span.stop⟩ operation left right, stack)
  | stack => (right, stack)

/-- The state behind the sign of an operation, which takes what comes before it as an operand. -/
private def pushOperation (s : SetState) (operation : SetOperation) : SetState :=
  let (left, stack) := applyOperation s.items.node s.stack
  let c := s.cursor.bump.bump
  ⟨c, .start c, .operand operation left :: stack⟩

/-- The operation whose sign follows. -/
private def operationAt? (c : Cursor) : Option SetOperation :=
  match c.rest with
  | '&' :: '&' :: _ => some .intersection
  | '-' :: '-' :: _ => some .difference
  | '~' :: '~' :: _ => some .symmetricDifference
  | _ => none

/-- One step of the reader of a set: it goes on, or has come to the end of the outermost set. -/
private def setStep (spaced : Bool) (s : SetState) :
    Except Fault (SetState ⊕ (Node × Cursor)) := do
  let c := s.cursor.skip spaced
  match c.rest with
  | [] => unclosedFault s.stack c
  | '[' :: _ =>
    match if s.stack.isEmpty then none else readAsciiClass? c with
    | some (item, c) => return .inl { s with cursor := c, items := s.items.push item }
    | none =>
      let ((negated, items), behind) ← readOpening spaced c
      let frame := .opened s.items (behind.spanSince c.offset) negated
      return .inl ⟨behind, items, frame :: s.stack⟩
  | ']' :: _ =>
    let (inner, stack) := applyOperation s.items.node s.stack
    let behind := c.bump
    match stack with
    | .opened before span negated :: stack =>
      let span : Span := ⟨span.start, behind.offset⟩
      if stack.isEmpty then return .inr (.set span negated inner, behind)
      else return .inl ⟨behind, before.push (.bracketed span negated inner), stack⟩
    | stack => return .inl ⟨behind, s.items, stack⟩
  | _ =>
    match operationAt? c with
    | some operation => return .inl (pushOperation { s with cursor := c } operation)
    | none =>
      let (item, c) ← readRange spaced s.stack c
      return .inl { s with cursor := c, items := s.items.push item }

/-- The steps of the reader of a set up to its end; the number bounds how many there are. -/
private def setSteps (spaced : Bool) : Nat → SetState → Except Fault (Node × Cursor)
  | 0, s => unclosedFault s.stack s.cursor
  | n + 1, s => do
    match ← setStep spaced s with
    | .inl s => setSteps spaced n s
    | .inr done => return done

/-- A set, from its opening bracket on. -/
def readSet (spaced : Bool) : Reader Node := fun c =>
  setSteps spaced (c.rest.length + 1) ⟨c, .start c, []⟩

end ImageSwap.Regex
