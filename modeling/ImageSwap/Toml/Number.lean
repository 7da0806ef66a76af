import ImageSwap.Toml.Text

/-!
# TOML numbers

Integers are signed and have 64 bits; they are written in base ten without leading zeros, or
unsigned in base sixteen, eight or two. A float has a fraction or an exponent, or is one of the
words for infinity and for no number. Single underscores may stand between digits.
-/

namespace ImageSwap.Toml

/-- A digit of a base and the digits that follow it, put after those already read backwards; an
underscore must stand between two digits. -/
private def digitsOnto (isDigit : Char → Bool) (read : List Char) : Reader (List Char)
  | '_' :: d :: rest =>
    if isDigit d then digitsOnto isDigit (d :: read) rest else none
  | ['_'] => none
  | d :: rest =>
    if isDigit d then digitsOnto isDigit (d :: read) rest else some (read.reverse, d :: rest)
  | [] => some (read.reverse, [])

/-- One or more digits, without the underscores between them. -/
def readDigits (isDigit : Char → Bool) : Reader (List Char)
  | d :: rest => if isDigit d then digitsOnto isDigit [d] rest else none
  | [] => none

/-- A sign, true when it is a minus. -/
private def readSign : List Char → Bool × List Char
  | '-' :: rest => (true, rest)
  | '+' :: rest => (false, rest)
  | cs => (false, cs)

/-- The digits before a fraction: a single zero, or digits that begin with none. -/
private def readWhole : Reader (List Char)
  | '0' :: rest => some (['0'], rest)
  | cs => readDigits Char.isDigit cs

/-- The number that digits spell in a base. -/
def digitsValue (base : Nat) (digits : List Char) : Nat :=
  digits.foldl (fun n d => n * base + (Text.hexValue? d).getD 0) 0

/-- An integer that fits into 64 bits with its sign. -/
private def fit? (n : Int) : Option Int :=
  if Int64.minValue.toInt ≤ n ∧ n ≤ Int64.maxValue.toInt then some n else none

/-- Digits of a base after its mark. -/
private def readInBase (base : Nat) (isDigit : Char → Bool) : Reader Int := fun cs => do
  let (digits, rest) ← readDigits isDigit cs
  return (← fit? (digitsValue base digits), rest)

/-- An integer. -/
def readInteger : Reader Int
  | '0' :: 'x' :: rest => readInBase 16 Text.isHexDigit rest
  | '0' :: 'o' :: rest => readInBase 8 (fun c => '0' ≤ c && c ≤ '7') rest
  | '0' :: 'b' :: rest => readInBase 2 (fun c => c == '0' || c == '1') rest
  | cs => do
    let (negative, rest) := readSign cs
    let (digits, rest) ← readWhole rest
    let n := digitsValue 10 digits
    return (← fit? (if negative then -(n : Int) else n), rest)

/-- A fraction with its point. -/
private def readFraction : Reader (List Char)
  | '.' :: rest => readDigits Char.isDigit rest
  | _ => none

/-- An exponent with its letter. -/
private def readExponent : Reader Int
  | e :: rest =>
    if e == 'e' || e == 'E' then do
      let (negative, rest) := readSign rest
      let (digits, rest) ← readDigits Char.isDigit rest
      let n := digitsValue 10 digits
      return (if negative then -(n : Int) else n, rest)
    else none
  | [] => none

/-- The words for the values that have no digits. -/
private def readSpecial (negative : Bool) : Reader Decimal.Binary64
  | 'i' :: 'n' :: 'f' :: rest => some (.infinite negative, rest)
  | 'n' :: 'a' :: 'n' :: rest => some (.notANumber, rest)
  | _ => none

/-- A float with digits, after its sign. Beyond the greatest positive float there is none. -/
private def readDecimal (negative : Bool) : Reader Decimal.Binary64 := fun cs => do
  let (whole, rest) ← readWhole cs
  let (fraction, rest) ← (readFraction rest).or (some ([], rest))
  let exponent? := readExponent rest
  if fraction = [] ∧ exponent? = none then none
  else
    let (exponent, rest) := exponent?.getD (0, rest)
    let digits := digitsValue 10 (whole ++ fraction)
    let x := Decimal.Binary64.ofDecimal negative digits (exponent - fraction.length)
    if x = .infinite false then none else some (x, rest)

/-- A float. -/
def readFloat : Reader Decimal.Binary64 := fun cs =>
  let (negative, rest) := readSign cs
  (readDecimal negative rest).or (readSpecial negative rest)

end ImageSwap.Toml
