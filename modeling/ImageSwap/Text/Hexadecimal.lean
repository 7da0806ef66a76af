/-!
# Hexadecimal digits

A number is written in base sixteen with lower-case letters; it is read with letters of either case.
-/

namespace ImageSwap.Text

/-- The lower-case hexadecimal digits of a number, without leading zeros. -/
def hexDigits (n : Nat) : List Char := Nat.toDigits 16 n

/-- The value of a hexadecimal digit. -/
def hexValue? (c : Char) : Option Nat :=
  if c.isDigit then some (c.toNat - '0'.toNat)
  else if 'a' ≤ c && c ≤ 'f' then some (c.toNat - 'a'.toNat + 10)
  else if 'A' ≤ c && c ≤ 'F' then some (c.toNat - 'A'.toNat + 10)
  else none

/-- Whether a character is a hexadecimal digit. -/
def isHexDigit (c : Char) : Bool := (hexValue? c).isSome

/-- The number that hexadecimal digits spell. -/
def numberOfHex? (digits : List Char) : Option Nat := do
  let values ← digits.mapM hexValue?
  return values.foldl (fun n v => n * 16 + v) 0

/-- The character with the number that hexadecimal digits spell. -/
def charOfHex? (digits : List Char) : Option Char := do
  let n ← numberOfHex? digits
  if n.isValidChar then some (Char.ofNat n) else none

end ImageSwap.Text
