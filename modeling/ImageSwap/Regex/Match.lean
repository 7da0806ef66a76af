import ImageSwap.Regex.Syntax
import ImageSwap.Text.CharClass

/-!
# Matching regular expressions

The places of a text lie before and behind its characters. A set of places is a number: its bit `i`
stands for the place behind `i` characters. On a given text an expression is a route, which leads
from sets of places to sets of places, and the expression matches the text when it leads somewhere
from all places of the text.
-/

namespace ImageSwap.Regex

/-- A set of places of a text. -/
abbrev Places := Nat

namespace Places

/-- The places of a text before the characters that pass a test. -/
def before (test : Char → Bool) (text : List Char) : Places :=
  match text with
  | [] => 0
  | [c] => (test c).toNat
  | c :: d :: rest =>
    let half := (rest.length + 2) / 2
    before test ((c :: d :: rest).take half) |||
      before test ((c :: d :: rest).drop half) <<< half
termination_by text.length
decreasing_by all_goals grind

/-- The places of a text behind the characters that pass a test. -/
def behind (test : Char → Bool) (text : List Char) : Places := before test text <<< 1

/-- The place at the end of a text. -/
def last (text : List Char) : Places := 1 <<< text.length

/-- All places of a text. -/
def all (text : List Char) : Places := 1 <<< (text.length + 1) - 1

/-- The places of one set that are not in another. -/
def without (p q : Places) : Places := p ^^^ (p &&& q)

end Places

/-- The places of a text at a side of a word, given those behind and before the characters that make
up words. -/
def WordEdge.places (text : List Char) (behind before : Places) : WordEdge → Places
  | either => behind ^^^ before
  | neither => (Places.all text).without (behind ^^^ before)
  | start => before.without behind
  | stop => behind.without before
  | startHalf => (Places.all text).without behind
  | stopHalf => (Places.all text).without before

end ImageSwap.Regex

namespace ImageSwap

/-- The places of a text where a condition holds. -/
def RegexPlace.places (text : List Char) : RegexPlace → Regex.Places
  | textStart => 1
  | textEnd => .last text
  | lineStart carriageReturn =>
    let afterReturn : Regex.Places := if carriageReturn then .behind (· == '\r') text else 0
    1 ||| .behind (· == '\n') text ||| afterReturn.without (.before (· == '\n') text)
  | lineEnd carriageReturn =>
    let beforeReturn : Regex.Places := if carriageReturn then .before (· == '\r') text else 0
    let afterReturn : Regex.Places := if carriageReturn then .behind (· == '\r') text else 0
    .last text ||| beforeReturn ||| (Regex.Places.before (· == '\n') text).without afterReturn
  | asciiWord edge =>
    let isWordChar (c : Char) : Bool := c.isAlphanum || c == '_'
    edge.places text (.behind isWordChar text) (.before isWordChar text)
  | anyWord _ => 0

end ImageSwap

namespace ImageSwap.Regex

/-- An expression on one text. -/
inductive Route where
  | stay
  /-- Over one character, from one of the places. -/
  | step (allowed : Places)
  /-- Over any number of characters, each from one of the places. -/
  | run (allowed : Places)
  /-- No further, but only from one of the places. -/
  | check (there : Places)
  | seq (first second : Route)
  | alt (first second : Route)
  | times (body : Route) (count : Nat)
  | atMost (body : Route) (count : Nat)
  deriving DecidableEq, Repr

namespace Route

/-- The places to which a number of moves in a row lead. -/
def iterate (move : Places → Places) : Nat → Places → Places
  | 0, p => p
  | n + 1, p => if p = 0 then 0 else iterate move n (move p)

/-- The places to which up to a number of moves lead, in addition to those that have been reached;
the last of these are given apart. -/
def reach (move : Places → Places) : Nat → Places → Places → Places
  | 0, reached, _ => reached
  | n + 1, reached, latest =>
    let new := (move latest).without reached
    if new = 0 then reached else reach move n (reached ||| new) new

/-- The places to which a route leads. A run is an addition: the carry goes through the adjoining
places to the first that is not among them. -/
def ends : Route → Places → Places
  | stay, p => p
  | step allowed, p => (p &&& allowed) <<< 1
  | run allowed, p => p ||| (((p &&& allowed) + allowed) ^^^ allowed)
  | check there, p => p &&& there
  | seq first second, p => second.ends (first.ends p)
  | alt first second, p => first.ends p ||| second.ends p
  | times body count, p => iterate body.ends count p
  | atMost body count, p => reach body.ends count p p

/-- Any number of repetitions. No place needs more of them than the text has characters. -/
def many (text : List Char) : Route → Route
  | step allowed => run allowed
  | body => atMost body text.length

end Route

/-- The route of an expression on a text. -/
def onText (text : List Char) : Regex → Route
  | .empty => .stay
  | .set chars => .step (.before (Text.isIn chars) text)
  | .place condition => .check (condition.places text)
  | .seq first second => .seq (onText text first) (onText text second)
  | .alt first second => .alt (onText text first) (onText text second)
  | .repeated body least greatest =>
    let body := onText text body
    .seq (.times body least) <| match greatest with
      | some greatest => .atMost body (greatest - least)
      | none => body.many text
  | .group body => onText text body

/-- Whether an expression matches anywhere in a text. -/
def isMatch (r : Regex) (text : String) : Bool :=
  let text := text.toList
  (r.onText text).ends (.all text) != 0

end ImageSwap.Regex
