import ImageSwap.Regex.Syntax

/-!
# The size of expressions

An expression is weighed by the machine that would search a text for it octet by octet, forwards or
backwards. A state of the machine takes up 32 octets, an arrow to another state 4 where a state has
any number of them, and 8 where the arrows are labelled with octets. Counted repetitions are written
out, so that a short pattern may weigh a lot.
-/

namespace ImageSwap.Regex

/-! ## Characters as octets -/

/-- The ranges in which the octets of an encoded character lie, one after another. -/
abbrev OctetRanges := List (Nat × Nat)

/-- The encodings of the numbers from `low` to `high` in a number of further octets, six bits in
each, behind a first octet that adds what is left to `lead`. -/
def encodings (lead : Nat) : Nat → Nat → Nat → List OctetRanges
  | 0, low, high => [[(lead + low, lead + high)]]
  | further + 1, low, high =>
    let size := Nat.pow 64 (further + 1)
    let first := low / size
    let last := high / size
    let headed (first last : Nat) (tails : List OctetRanges) : List OctetRanges :=
      tails.map ((lead + first, lead + last) :: ·)
    let tails (low high : Nat) : List OctetRanges := encodings 0x80 further low high
    if first = last then headed first first (tails (low % size) (high % size))
    else
      let ragged := low % size != 0
      let cut := high % size != size - 1
      let whole := if ragged then first + 1 else first
      let wholeEnd := if cut then last else last + 1
      (if ragged then headed first first (tails (low % size) (size - 1)) else []) ++
        (if whole < wholeEnd then headed whole (wholeEnd - 1) (tails 0 (size - 1)) else []) ++
        (if cut then headed last last (tails 0 (high % size)) else [])

/-- The stretches of characters whose encodings have a number of octets behind the first one, and
what the first one begins with. -/
def encodingBlocks : List ((Nat × Nat) × Nat × Nat) :=
  [((0, 0x7f), 0, 0), ((0x80, 0x7ff), 1, 0xc0), ((0x800, 0xd7ff), 2, 0xe0),
    ((0xe000, 0xffff), 2, 0xe0), ((0x10000, 0x10ffff), 3, 0xf0)]

/-- The encodings of the characters of a set. -/
def CharSet.encodings (chars : CharSet) : List OctetRanges :=
  chars.flatMap fun range => encodingBlocks.flatMap fun (block, further, lead) =>
    (CharSet.inter [range] [block]).flatMap fun (low, high) =>
      Regex.encodings lead further low high

/-- What may follow each octet, down to a depth: the states of a machine that reads encodings
forwards. -/
def endingsOf : Nat → List OctetRanges → List (List OctetRanges)
  | 0, _ => []
  | depth + 1, encodings =>
    let heads := (encodings.filterMap List.head?).eraseDups
    encodings :: heads.flatMap fun head =>
      match encodings.filterMap fun e =>
        if e.head? = some head ∧ e.length ≠ 1 then some e.tail else none with
      | [] => []
      | tails => endingsOf depth tails

/-- What has been read up to each octet: the states of a machine that reads encodings backwards. -/
def beginningsOf (encodings : List OctetRanges) : List OctetRanges :=
  encodings.flatMap fun e => (List.range e.length).map fun i => e.take (i + 1)

/-! ## Machines -/

/-- The direction in which a machine goes through a text. -/
inductive Direction where
  | forward
  | backward
  deriving DecidableEq, Repr

/-- The size of a machine. -/
structure Weight where
  octets : Nat
  /-- Whether the machine ends in a state with any number of arrows, to which one is added where
  something follows. -/
  branches : Bool := false
  deriving DecidableEq, Repr

namespace Weight

/-- The size of a state. -/
def state : Nat := 32

/-- The size of an arrow without a label. -/
def arrow : Nat := 4

/-- The size of an arrow with a label. -/
def labelled : Nat := 8

/-- The size of a machine with the arrow that leads on from it. -/
def onward (w : Weight) : Nat := w.octets + if w.branches then arrow else 0

/-- The size of one machine behind another. -/
def append (w v : Weight) : Weight := ⟨w.onward + v.octets, v.branches⟩

/-- The size of several copies of a machine in a row. -/
def times (w : Weight) : Nat → Weight
  | 0 => ⟨state, false⟩
  | n + 1 => ⟨n * w.onward + w.octets, w.branches⟩

/-- The size of a machine that may be gone through again and again, with the state that leads back
to its start. -/
def loop (w : Weight) : Weight := ⟨w.onward + state + arrow, true⟩

/-- The size of a machine that may be passed over. -/
def optional (w : Weight) : Weight := ⟨w.onward + 2 * state + 2 * arrow, false⟩

/-- The size of copies of a machine of which each may be the last, behind another machine. -/
def upTo (before w : Weight) (count : Nat) : Weight :=
  ⟨before.onward + count * (w.onward + state + 2 * arrow) + state, false⟩

end Weight

/-- The size of the machine for one character of a set. -/
def CharSet.weight (direction : Direction) (chars : CharSet) : Weight :=
  match chars.single? with
  | some c => ⟨Weight.state * c.utf8Size, false⟩
  | none =>
    if chars.isAscii then ⟨2 * Weight.state + Weight.labelled * chars.length, false⟩
    else
      let encodings := chars.encodings
      match direction with
      | .forward =>
        let size (endings : List OctetRanges) : Nat :=
          Weight.state + Weight.labelled * (endings.filterMap List.head?).eraseDups.length
        let sizes := (endingsOf 4 encodings).eraseDups.foldl (fun n endings => n + size endings) 0
        ⟨Weight.state + sizes, false⟩
      | .backward =>
        let states := (beginningsOf encodings).eraseDups.length
        ⟨2 * Weight.state + Weight.state * states + Weight.arrow * encodings.length, false⟩

/-- The least length of a match, when there is one. Nothing is said of a set without characters. -/
def leastLength? : Regex → Option Nat
  | empty | place _ => some 0
  | set [] => none
  | set _ => some 1
  | seq a b => do return (← leastLength? a) + (← leastLength? b)
  | alt a b => do return min (← leastLength? a) (← leastLength? b)
  | repeated body least _ => do return (← leastLength? body) * least
  | group body => leastLength? body

/-- The size of the machine for a repetition, given that for its body and whether the body may match
no text at all. -/
def Weight.repeated (w : Weight) (mayBeEmpty : Bool) (least : Nat) (greatest : Option Nat) :
    Weight :=
  match least, greatest with
  | 0, some 1 => w.optional
  | 0, none => if mayBeEmpty then w.loop.optional else w.loop
  | least + 1, none => if least = 0 then w.loop else (w.times least).append w.loop
  | least, some greatest =>
    if least = greatest then w.times least else upTo (w.times least) w (greatest - least)

/-- The size of the machine for an expression. Groups are kept on the way forward only. -/
def weight (direction : Direction) : Regex → Weight
  | empty | place _ => ⟨Weight.state, false⟩
  | set chars => chars.weight direction
  | seq a b =>
    match direction with
    | .forward => (weight direction a).append (weight direction b)
    | .backward => (weight direction b).append (weight direction a)
  | alt a b =>
    let first := (weight direction a).onward + Weight.arrow
    let rest := weight direction b
    match b with
    | alt .. => ⟨first + rest.octets, false⟩
    | _ => ⟨first + rest.onward + Weight.arrow + 2 * Weight.state, false⟩
  | repeated body least greatest =>
    (weight direction body).repeated (!(leastLength? body).any (0 < ·)) least greatest
  | group body =>
    let body := weight direction body
    match direction with
    | .forward => ⟨body.onward + 2 * Weight.state, false⟩
    | .backward => body

/-- The size of the machine that searches a text for an expression: it goes over any octets first,
and has a state for success. The whole match is a group. -/
def searchWeight (direction : Direction) (r : Regex) : Nat :=
  let anyOctet : Weight := ⟨2 * Weight.state + Weight.labelled, false⟩
  anyOctet.loop.onward + (weight direction (group r)).onward + Weight.state

/-- The greatest size of a machine. -/
def weightLimit : Nat := 10 * 1024 * 1024

end ImageSwap.Regex
