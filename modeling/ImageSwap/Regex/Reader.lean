import ImageSwap.Regex.SetReader

/-!
# Reading patterns

The reader goes through a pattern from left to right and keeps the groups that are open, and the
alternatives before the last bar, on a stack. What it reads is refused when its parts are nested too
deep.
-/

namespace ImageSwap.Regex

/-- Parts in a row that has not come to its end, the last one first. -/
private structure Row where
  start : Nat
  parts : List Node := []

namespace Row

/-- What a row that stops at an offset is. -/
private def node (r : Row) (stop : Nat) : Node :=
  match r.parts with
  | [] => .empty ⟨r.start, stop⟩
  | [part] => part
  | parts => .sequence ⟨r.start, stop⟩ parts.reverse

/-- A row with one more part. -/
private def push (r : Row) (part : Node) : Row := { r with parts := part :: r.parts }

end Row

/-- How a group begins, once its parenthesis has been read. -/
private structure Opening where
  span : Span
  captures : Bool := true
  flags : Flags := []

/-- A group that is open, or the alternatives before a bar. -/
private inductive Frame where
  | group (before : Row) (opening : Opening) (spaced : Bool)
  | choice (start : Nat) (branches : List Node)

/-- How far the reader has come. -/
private structure ReaderState where
  cursor : Cursor
  row : Row
  stack : List Frame := []
  /-- Whether white space and comments are passed over. -/
  spaced : Bool := false
  /-- The names of groups so far. -/
  names : List (List Char × Span) := []

/-! ## Groups -/

/-- The flag of a letter. -/
private def flagOf? (letter : Char) : Option Flag :=
  match letter with
  | 'i' => some .caseless
  | 'm' => some .multiLine
  | 's' => some .dotAll
  | 'U' => some .swapGreed
  | 'u' => some .unicode
  | 'R' => some .carriageReturn
  | 'x' => some .spaced
  | _ => none

/-- Flags up to the sign that ends them, put after those already read backwards; a negation is no
flag. The number bounds how many there are. -/
private def flagsOnto : Nat → List (Option Flag × Span) → Reader (List (Option Flag))
  | 0, _, c => fault .flagUnfinished c.here
  | n + 1, read, c =>
    match c.rest with
    | [] => fault .flagUnfinished c.here
    | x :: _ =>
      if x == ':' || x == ')' then
        match read with
        | (none, span) :: _ => fault .flagDangling span
        | read => .ok ((read.map (·.1)).reverse, c)
      else match if x == '-' then some none else (flagOf? x).map some with
        | none => fault .flagUnknown c.charSpan
        | some item =>
          match read.find? (·.1 == item) with
          | some (_, other) =>
            let reason := if item.isNone then Reason.flagNegatedTwice else .flagDuplicate
            .error ⟨reason, c.charSpan, some other⟩
          | none => flagsOnto n ((item, c.charSpan) :: read) c.bump

/-- What flags with a negation among them switch on and off. -/
private def switches (items : List (Option Flag)) : Flags :=
  let on := (items.takeWhile (·.isSome)).filterMap id
  let off := (items.dropWhile (·.isSome)).filterMap id
  on.map (·, true) ++ off.map (·, false)

/-- Whether a character may be part of a name, and be the first one. -/
private def isNameChar (first : Bool) (c : Char) : Bool :=
  c == '_' || (if first then Text.isAlphabetic c
    else c == '.' || c == '[' || c == ']' || Text.isAlphanumeric c)

/-- A name up to its closing bracket, put after the characters already read backwards. The number
bounds how many there are. -/
private def nameOnto : Nat → List Char → Reader (List Char)
  | 0, _, c => fault .nameUnfinished c.here
  | n + 1, read, c =>
    match c.rest with
    | [] => fault .nameUnfinished c.here
    | '>' :: _ => .ok (read.reverse, c)
    | x :: _ =>
      if isNameChar read.isEmpty x then nameOnto n (x :: read) c.bump
      else fault .nameInvalid c.charSpan

/-- The name of a group with its stretch, from behind its opening bracket on. -/
private def readName (names : List (List Char × Span)) : Reader (List Char × Span) := fun c => do
  let (name, stop) ← nameOnto (c.rest.length + 1) [] c
  let span := stop.spanSince c.offset
  if name.isEmpty then fault .nameEmpty c.here
  else match names.lookup name with
    | some other => .error ⟨.nameDuplicate, span, some other⟩
    | none => return ((name, span), stop.bump)

/-- The signs after a parenthesis that begin a look-around. -/
private def lookAroundSigns : List (List Char) :=
  [['?', '='], ['?', '!'], ['?', '<', '='], ['?', '<', '!']]

/-- The signs after a parenthesis that begin the name of a group. -/
private def nameSigns : List (List Char) := [['?', 'P', '<'], ['?', '<']]

/-- The state within a new group. -/
private def openGroup (s : ReaderState) (opening : Opening) (c : Cursor) : ReaderState :=
  { s with
    cursor := c
    row := ⟨c.offset, []⟩
    stack := .group s.row opening s.spaced :: s.stack
    spaced := (opening.flags.state? .spaced).getD s.spaced }

/-- A group with flags, or flags that hold from here on, from behind the question mark on. -/
private def readFlagged (s : ReaderState) (parenthesis : Span) (question c : Cursor) :
    Except Fault ReaderState := do
  if c.atEnd then fault .groupUnclosed parenthesis
  else
    let (items, c) ← flagsOnto (c.rest.length + 1) [] c
    let flags := switches items
    if c.isAt ':' then return openGroup s ⟨parenthesis, false, flags⟩ c.bump
    else if items.isEmpty then fault .repetitionMissing question.here
    else
      let behind := c.bump
      return { s with
        cursor := behind
        row := s.row.push (.flags ⟨parenthesis.start, behind.offset⟩ flags)
        spaced := (flags.state? .spaced).getD s.spaced }

/-- The beginning of a group, from its parenthesis on. -/
private def readOpeningOfGroup (s : ReaderState) : Except Fault ReaderState := do
  let parenthesis := s.cursor.charSpan
  let c := s.cursor.advance s.spaced
  match lookAroundSigns.findSome? c.bumpOver? with
  | some behind => fault .lookAround (behind.spanSince parenthesis.start)
  | none =>
    match nameSigns.findSome? c.bumpOver? with
    | some behind =>
      let (name, behind) ← readName s.names behind
      return openGroup { s with names := name :: s.names } { span := parenthesis } behind
    | none =>
      if c.isAt '?' then readFlagged s parenthesis c c.bump
      else return openGroup s { span := parenthesis } c

/-- The state behind the parenthesis that closes a group. -/
private def closeGroup (s : ReaderState) : Except Fault ReaderState :=
  let stop := s.cursor.offset
  let close (before : Row) (opening : Opening) (spaced : Bool) (stack : List Frame) (body : Node) :
      ReaderState :=
    let behind := s.cursor.bump
    let span : Span := ⟨opening.span.start, behind.offset⟩
    { s with
      cursor := behind
      row := before.push (.group span opening.captures opening.flags body)
      stack
      spaced }
  match s.stack with
  | .group before opening spaced :: stack =>
    .ok (close before opening spaced stack (s.row.node stop))
  | .choice start branches :: .group before opening spaced :: stack =>
    let branches := (s.row.node stop :: branches).reverse
    .ok (close before opening spaced stack (.choice ⟨start, stop⟩ branches))
  | _ => fault .groupUnopened s.cursor.charSpan

/-- The state behind a bar, which ends an alternative. -/
private def pushBranch (s : ReaderState) : ReaderState :=
  let branch := s.row.node s.cursor.offset
  let behind := s.cursor.bump
  let stack := match s.stack with
    | .choice start branches :: stack => .choice start (branch :: branches) :: stack
    | stack => .choice s.row.start [branch] :: stack
  { s with cursor := behind, row := ⟨behind.offset, []⟩, stack }

/-! ## Repetitions -/

/-- The part that a repetition is about, and the row before it. -/
private def popBody (s : ReaderState) : Except Fault (Node × Row) :=
  match s.row.parts with
  | [] | .empty _ :: _ | .flags .. :: _ => fault .repetitionMissing s.cursor.here
  | body :: parts => .ok (body, { s.row with parts })

/-- The state behind a repetition and the mark that makes it reluctant. -/
private def pushRepetition (s : ReaderState) (body : Node) (row : Row) (least : Nat)
    (greatest : Option Nat) (c : Cursor) : ReaderState :=
  let c := if c.isAt '?' then c.bump else c
  { s with
    cursor := c
    row := row.push (.repeated ⟨body.span.start, c.offset⟩ body least greatest) }

/-- The state behind a sign that repeats what stands before it. -/
private def readSign (s : ReaderState) (least : Nat) (greatest : Option Nat) :
    Except Fault ReaderState := do
  let (body, row) ← popBody s
  return pushRepetition s body row least greatest s.cursor.bump

/-- The counts in braces, from behind the opening brace on. -/
private def readCounts (spaced : Bool) (start : Nat) : Reader (Nat × Option Nat) := fun c => do
  let unclosed (c : Cursor) : Except Fault Unit :=
    if c.atEnd then fault .repetitionUnclosed (c.spanSince start) else .ok ()
  unclosed c
  let (least, c) := c.readCount spaced
  unclosed c
  if c.isAt ',' then
    let c := c.advance spaced
    unclosed c
    if c.isAt '\x7d' then return ((← least, none), c)
    else
      let least ← least
      let (greatest, c) := c.readCount spaced
      return ((least, some (← greatest)), c)
  else
    let count ← least
    return ((count, some count), c)

/-- The state behind counts in braces, which repeat what stands before them. -/
private def readBraces (s : ReaderState) : Except Fault ReaderState := do
  let (body, row) ← popBody s
  let start := s.cursor.offset
  let ((least, greatest), c) ← readCounts s.spaced start (s.cursor.advance s.spaced)
  if !c.isAt '\x7d' then fault .repetitionUnclosed (c.spanSince start)
  else
    let s := pushRepetition s body row least greatest (c.advance s.spaced)
    if greatest.any (· < least) then fault .repetitionReversed (s.cursor.spanSince start)
    else return s

/-! ## Patterns -/

/-- One step of the reader, at a character. -/
private def step (s : ReaderState) (next : Char) : Except Fault ReaderState := do
  match next with
  | '(' => readOpeningOfGroup s
  | ')' => closeGroup s
  | '|' => return pushBranch s
  | '[' =>
    let (set, c) ← readSet s.spaced s.cursor
    return { s with cursor := c, row := s.row.push set }
  | '?' => readSign s 0 (some 1)
  | '*' => readSign s 0 none
  | '+' => readSign s 1 none
  | '\x7b' => readBraces s
  | _ =>
    let (p, c) ← readPrimitive s.spaced s.cursor
    return { s with cursor := c, row := s.row.push (.primitive p) }

/-- The steps of the reader up to the end of the pattern; the number bounds how many there are. -/
private def steps : Nat → ReaderState → Except Fault ReaderState
  | 0, s => .ok s
  | n + 1, s => do
    let s := { s with cursor := s.cursor.skip s.spaced }
    match s.cursor.rest with
    | [] => return s
    | next :: _ => steps n (← step s next)

/-- What has been read at the end of a pattern. -/
private def finish (s : ReaderState) : Except Fault Node :=
  let stop := s.cursor.offset
  match s.stack with
  | [] => .ok (s.row.node stop)
  | [.choice start branches] =>
    .ok (.choice ⟨start, stop⟩ (s.row.node stop :: branches).reverse)
  | .group _ opening _ :: _ | .choice .. :: .group _ opening _ :: _ =>
    fault .groupUnclosed opening.span
  | .choice .. :: .choice .. :: _ => fault .groupUnclosed s.cursor.here

/-- The pattern that a text is. -/
def read (pattern : List Char) : Except Fault Node := do
  let s ← steps (pattern.length + 1) { cursor := .ofPattern pattern, row := ⟨0, []⟩ }
  let node ← finish s
  match node.tooDeep? nestingLimit with
  | some span => fault (.nesting nestingLimit) span
  | none => return node

end ImageSwap.Regex
