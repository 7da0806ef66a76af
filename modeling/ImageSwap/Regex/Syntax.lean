import ImageSwap.Regex.CharSet
import ImageSwap.Regex.Pattern

/-!
# Regular expressions

An expression is built from sets of characters and from conditions on a place in the text, by
sequence, choice and repetition. Expressions are put together in a way that leaves out what has no
effect.
-/

namespace ImageSwap

/-- A condition on a place between characters. -/
inductive RegexPlace where
  | textStart
  | textEnd
  /-- A line begins, which it may after a carriage return alone where that ends lines. -/
  | lineStart (carriageReturn : Bool)
  /-- A line ends. -/
  | lineEnd (carriageReturn : Bool)
  /-- A side of a word that is made of ASCII letters, digits and underscores. -/
  | asciiWord (edge : Regex.WordEdge)
  /-- A side of a word of any script. There is no table of such words, so that an expression with
  this condition is not to be used. -/
  | anyWord (edge : Regex.WordEdge)
  deriving DecidableEq, Repr

/-- A regular expression. A repetition has a least and, perhaps, a greatest count. -/
inductive Regex where
  | empty
  | set (chars : Regex.CharSet)
  | place (condition : RegexPlace)
  | seq (first second : Regex)
  | alt (first second : Regex)
  | repeated (body : Regex) (least : Nat) (greatest : Option Nat)
  /-- A group whose match is kept. -/
  | group (body : Regex)
  deriving DecidableEq, Repr

namespace Regex

/-- The expression that matches one character. -/
def char (c : Char) : Regex := set (.range c c)

/-- One expression after another. -/
def followedBy : Regex → Regex → Regex
  | empty, r => r
  | r, empty => r
  | seq a b, r => seq a (followedBy b r)
  | r, s => seq r s

/-- Expressions one after another. -/
def sequence (rs : List Regex) : Regex := rs.foldr followedBy empty

/-- The alternatives of an expression. -/
def branches : Regex → List Regex
  | alt a b => branches a ++ branches b
  | r => [r]

/-- The set that an expression is, if it is one. -/
def set? : Regex → Option CharSet
  | set chars => some chars
  | _ => none

/-- The choice between expressions; it matches nothing when there is none. A choice between sets is
a set. -/
def choice (rs : List Regex) : Regex :=
  let rs := rs.flatMap branches
  match rs.mapM set? with
  | some sets => set (CharSet.normal sets.flatten)
  | none =>
    match rs.reverse with
    | [] => set []
    | last :: before => before.foldl (fun r s => alt s r) last

/-- The greatest length of a match, when there is one. Nothing is said of a set without
characters, which matches nothing. -/
def greatestLength? : Regex → Option Nat
  | empty | place _ => some 0
  | set [] => none
  | set _ => some 1
  | seq a b => do return (← greatestLength? a) + (← greatestLength? b)
  | alt a b => do return max (← greatestLength? a) (← greatestLength? b)
  | repeated body _ greatest => do return (← greatestLength? body) * (← greatest)
  | group body => greatestLength? body

/-- A repetition. What takes up no text is repeated once at most, and what is not repeated at all
or exactly once is no repetition. -/
def repetition (body : Regex) (least : Nat) (greatest : Option Nat) : Regex :=
  let (least, greatest) :=
    if greatestLength? body = some 0 then (min least 1, some (min (greatest.getD 1) 1))
    else (least, greatest)
  if least = 0 ∧ greatest = some 0 then empty
  else if least = 1 ∧ greatest = some 1 then body
  else repeated body least greatest

/-- Whether an expression has a condition on words of any script. -/
def usesAnyWord : Regex → Bool
  | place (.anyWord _) => true
  | seq a b | alt a b => usesAnyWord a || usesAnyWord b
  | repeated body _ _ | group body => usesAnyWord body
  | _ => false

end Regex

end ImageSwap
