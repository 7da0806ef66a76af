import ImageSwap.Decimal.Binary64

/-!
# TOML values

The values of a document, each with the stretch of text it was written in. Tables remember how
they came about, because that decides which later lines may still add to them.
-/

namespace ImageSwap.Toml

/-- A stretch of text, given by what is left of the text at its start and at its end. -/
structure Span where
  start : List Char
  stop : List Char
  deriving DecidableEq, Repr

/-- One part of a key, and where it stands. -/
structure Key where
  name : String
  span : Span
  deriving DecidableEq, Repr

/-- How a table came about. -/
inductive TableOrigin where
  /-- Written between braces. -/
  | inline
  /-- Opened by its own header. -/
  | header
  /-- Named on the way by the header of another table. -/
  | implied
  /-- Named on the way by a dotted key. -/
  | dotted
  deriving DecidableEq, Repr

/-- How an array came about. -/
inductive ArrayOrigin where
  /-- Written between brackets. -/
  | inline
  /-- Made by headers in double brackets, one to an element. -/
  | headers
  deriving DecidableEq, Repr

/-- A value of a document. A table that no header or brace wrote has no stretch of text. -/
inductive Value where
  | string (text : String)
  | integer (n : Int)
  | float (x : Decimal.Binary64)
  | boolean (b : Bool)
  /-- A date, a time, or both. -/
  | moment
  | array (origin : ArrayOrigin) (elements : List (Option Span × Value))
  | table (origin : TableOrigin) (members : List (Key × Option Span × Value))
  deriving Repr, Inhabited

/-- The members of a table in the order in which they were first written. -/
abbrev Members := List (Key × Option Span × Value)

/-- A step of a reader: what it makes of the front of the text, and what is left. -/
abbrev Reader (α : Type) := List Char → Option (α × List Char)

/-- The result of a reader together with the stretch of text it read. -/
def Reader.spanned (reader : Reader α) : Reader (Span × α) := fun cs => do
  let (a, rest) ← reader cs
  return ((⟨cs, rest⟩, a), rest)

end ImageSwap.Toml
