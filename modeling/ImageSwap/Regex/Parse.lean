import ImageSwap.Regex.Meaning
import ImageSwap.Regex.Reader
import ImageSwap.Regex.Weight

/-!
# Regular expressions from patterns

A text is taken for a regular expression unless it is no pattern, asks for a table of characters
that is not at hand, or weighs too much.
-/

namespace ImageSwap.Regex

/-- Why a text is not taken for a regular expression. -/
inductive Refusal where
  | malformed (f : Fault)
  | tooHeavy (limit : Nat)
  /-- It has a condition on words of any script. -/
  | noWordTable
  deriving DecidableEq, Repr

/-- A refusal in words, with the text. -/
def Refusal.message (pattern : List Char) : Refusal → String
  | malformed f => f.message pattern
  | tooHeavy limit => s!"Compiled regex exceeds size limit of {limit} bytes."
  | noWordTable => "error building NFA"

/-- An expression, unless it weighs too much for a direction. -/
def checkWeight (direction : Direction) (r : Regex) : Except Refusal Unit :=
  if weightLimit < r.searchWeight direction then .error (.tooHeavy weightLimit) else .ok ()

/-- The regular expression that a pattern gives. It is weighed for the way forward before, and for
the way backward after its conditions on words are looked at. -/
def parse (pattern : List Char) : Except Refusal Regex := do
  let r ← (read pattern >>= Node.meaning).mapError .malformed
  r.checkWeight .forward
  if r.usesAnyWord then throw .noWordTable
  r.checkWeight .backward
  return r

end ImageSwap.Regex
