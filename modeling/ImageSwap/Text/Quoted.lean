import ImageSwap.Text.Bytes
import ImageSwap.Text.Hexadecimal
import ImageSwap.Text.Printable

/-!
# Quoted text

A quoted text stands between double quotes on one line. The quote, the backslash and the usual
controls are written with a backslash and a letter, any other character that does not print with
its number in braces, and a byte that is no part of a character with its two digits. A list of
texts is quoted element by element between square brackets.
-/

namespace ImageSwap.Text

/-- The form of one character inside a quoted text. -/
def quoteChar (c : Char) : List Char :=
  match c with
  | '"' => ['\\', '"']
  | '\\' => ['\\', '\\']
  | '\n' => ['\\', 'n']
  | '\r' => ['\\', 'r']
  | '\t' => ['\\', 't']
  | '\x00' => ['\\', '0']
  | c => if isPrintable c then [c] else ['\\', 'u', '\x7b'] ++ hexDigits c.toNat ++ ['\x7d']

/-- The quoted form of a list of characters. -/
def quoteChars (cs : List Char) : List Char := '"' :: cs.flatMap quoteChar ++ ['"']

/-- The quoted form of a text. -/
def quote (s : String) : String := String.ofList (quoteChars s.toList)

/-- The quoted form of a list of texts. -/
def quoteList (ss : List String) : String :=
  "[" ++ ", ".intercalate (ss.map quote) ++ "]"

/-- The form of a byte that is no part of a character inside a quoted text. -/
private def quoteByte (b : UInt8) : List Char :=
  let digits := (hexDigits b.toNat).map Char.toUpper
  ['\\', 'x'] ++ List.replicate (2 - digits.length) '0' ++ digits

/-- The quoted form of a byte string that need not be text. -/
def quoteBytes (bs : Bytes) : String :=
  match bs.decode? with
  | some s => quote s
  | none => String.ofList ('"' :: ((Bytes.pieces bs).flatMap fun
      | .char c => quoteChar c
      | .unreadable bytes => bytes.flatMap quoteByte) ++ ['"'])

/-- The quoted form of a path that may be absent. -/
def quoteBytes? : Option Bytes → String
  | none => "None"
  | some bs => s!"Some({quoteBytes bs})"

end ImageSwap.Text
