import ImageSwap.Decimal.Shortest
import ImageSwap.Json.Basic
import ImageSwap.Text.Quoted

/-!
# Writing JSON

A value has a compact form on one line without blanks and an indented form, one element or member
to a line, two blanks to a level. Both spell texts alike: only the quote, the backslash and the
characters below the blank are escaped, so no text brings a line break into its document.
-/

namespace ImageSwap.Json

/-- The spelling of one character inside a text. -/
def escapeChar (c : Char) : List Char :=
  match c with
  | '"' => ['\\', '"']
  | '\\' => ['\\', '\\']
  | '\x08' => ['\\', 'b']
  | '\t' => ['\\', 't']
  | '\n' => ['\\', 'n']
  | '\x0c' => ['\\', 'f']
  | '\r' => ['\\', 'r']
  | c =>
    if c.toNat < 0x10 then ['\\', 'u', '0', '0', '0'] ++ Text.hexDigits c.toNat
    else if c.toNat < 0x20 then ['\\', 'u', '0', '0'] ++ Text.hexDigits c.toNat
    else [c]

/-- The spelling of a text. -/
def textChars (s : String) : List Char := '"' :: s.toList.flatMap escapeChar ++ ['"']

/-- The spelling of a decimal. It is positional unless there would be five zeros or more after the
point before the first digit, or more than sixteen digits before the point. -/
def decimalText (d : Decimal.Digits) : String :=
  if -5 ≤ d.leadingPower ∧ d.leadingPower < 16 then d.text else d.scientific

/-- The spelling of a number with double precision. What is no number has no spelling but null. -/
def realText : Decimal.Binary64 → String
  | .finite negative mantissa exponent =>
    let sign := if negative then "-" else ""
    if mantissa = 0 then sign ++ "0.0"
    else sign ++ decimalText (Decimal.shortestDigits .toEven mantissa exponent)
  | _ => "null"

/-- The spelling of a value that holds no other. -/
def scalarChars : Json → List Char
  | bool true => "true".toList
  | bool false => "false".toList
  | int n => (toString n).toList
  | real v => (realText v).toList
  | str s => textChars s
  | _ => "null".toList

mutual
/-- The compact form of a value. -/
def compactChars : Json → List Char
  | arr [] => ['[', ']']
  | arr (v :: vs) => '[' :: compactChars v ++ compactElements vs
  | obj [] => ['\x7b', '\x7d']
  | obj ((name, v) :: rest) =>
    '\x7b' :: textChars name ++ ':' :: compactChars v ++ compactMembers rest
  | v => scalarChars v

/-- The elements of an array that follow the first, with the bracket that closes it. -/
def compactElements : List Json → List Char
  | [] => [']']
  | v :: vs => ',' :: compactChars v ++ compactElements vs

/-- The members of an object that follow the first, with the brace that closes it. -/
def compactMembers : List (String × Json) → List Char
  | [] => ['\x7d']
  | (name, v) :: rest => ',' :: textChars name ++ ':' :: compactChars v ++ compactMembers rest
end

/-- A line break followed by the blanks of a level. -/
def newline (level : Nat) : List Char := '\n' :: List.replicate (2 * level) ' '

mutual
/-- The indented form of a value that begins on a line of the given level. -/
def indentedChars (level : Nat) : Json → List Char
  | arr [] => ['[', ']']
  | arr (v :: vs) =>
    '[' :: newline (level + 1) ++ indentedChars (level + 1) v ++ indentedElements level vs
  | obj [] => ['\x7b', '\x7d']
  | obj ((name, v) :: rest) =>
    '\x7b' :: newline (level + 1) ++ textChars name ++ ':' :: ' ' :: indentedChars (level + 1) v ++
      indentedMembers level rest
  | v => scalarChars v

/-- The elements that follow the first in an array that begins on the given level. -/
def indentedElements (level : Nat) : List Json → List Char
  | [] => newline level ++ [']']
  | v :: vs =>
    ',' :: newline (level + 1) ++ indentedChars (level + 1) v ++ indentedElements level vs

/-- The members that follow the first in an object that begins on the given level. -/
def indentedMembers (level : Nat) : List (String × Json) → List Char
  | [] => newline level ++ ['\x7d']
  | (name, v) :: rest =>
    ',' :: newline (level + 1) ++ textChars name ++ ':' :: ' ' :: indentedChars (level + 1) v ++
      indentedMembers level rest
end

/-- The compact form of a value, on one line. -/
def compact (v : Json) : String := String.ofList v.compactChars

/-- The indented form of a value. -/
def indented (v : Json) : String := String.ofList (v.indentedChars 0)

end ImageSwap.Json
