/-!
# Binary numbers of 64 bits

The numbers that a double-precision format holds: a mantissa of 53 bits times a power of two, the
two infinities, and a value that is no number. A decimal is rounded to the nearest of them, and of
two equally near to the one with an even mantissa, in exact arithmetic throughout.
-/

namespace ImageSwap.Decimal

/-- A value of the double-precision format. A finite one is `mantissa * 2 ^ exponent`, where the
mantissa lies between `2 ^ 52` and `2 ^ 53` unless the exponent is the least there is. -/
inductive Binary64 where
  | finite (negative : Bool) (mantissa : Nat) (exponent : Int)
  | infinite (negative : Bool)
  | notANumber
  deriving DecidableEq, Repr

/-- The number of decimal digits of a natural number, 1 for zero. -/
def digitCount (n : Nat) : Nat := (Nat.toDigits 10 n).length

/-- A quotient rounded to the nearest whole number, a tie to the even one. -/
def roundDiv (num den : Nat) : Nat :=
  let q := num / den
  let twice := 2 * (num % den)
  if den < twice ∨ twice = den ∧ q % 2 = 1 then q + 1 else q

namespace Binary64

/-- The least exponent. -/
def leastExponent : Int := -1074

/-- The greatest exponent. -/
def greatestExponent : Int := 971

/-- The least mantissa above the least exponent. -/
def leastNormal : Nat := Nat.pow 2 52

/-- The quotient of `num / den` by a power of two, as a fraction. -/
private def scaled (num den : Nat) (exponent : Int) : Nat × Nat :=
  if 0 ≤ exponent then (num, den * Nat.pow 2 exponent.toNat)
  else (num * Nat.pow 2 (-exponent).toNat, den)

/-- The value nearest to a positive fraction. -/
private def ofFraction (negative : Bool) (num den : Nat) : Binary64 :=
  let guess : Int := (num.log2 : Int) - den.log2 - 52
  let (n, d) := scaled num den guess
  let guess := if n / d < leastNormal then guess - 1 else guess
  let exponent := max guess leastExponent
  let (n, d) := scaled num den exponent
  let mantissa := roundDiv n d
  let (mantissa, exponent) :=
    if mantissa = 2 * leastNormal then (leastNormal, exponent + 1) else (mantissa, exponent)
  if greatestExponent < exponent then infinite negative
  else finite negative mantissa exponent

/-- A finite value as a fraction. -/
private def fraction (mantissa : Nat) (exponent : Int) : Nat × Nat :=
  if 0 ≤ exponent then (mantissa * Nat.pow 2 exponent.toNat, 1)
  else (mantissa, Nat.pow 2 (-exponent).toNat)

/-- The value nearest to the product of a value and a natural number. -/
def times (v : Binary64) (n : Nat) : Binary64 :=
  match v with
  | finite negative mantissa exponent =>
    let (num, den) := fraction mantissa exponent
    if num * n = 0 then finite negative 0 leastExponent else ofFraction negative (num * n) den
  | v => v

/-- The value nearest to the quotient of a value by a natural number other than zero. -/
def dividedBy (v : Binary64) (n : Nat) : Binary64 :=
  match v with
  | finite negative mantissa exponent =>
    let (num, den) := fraction mantissa exponent
    if num = 0 then finite negative 0 leastExponent else ofFraction negative num (den * n)
  | v => v

/-- The value nearest to a natural number. -/
def ofNat (negative : Bool) (n : Nat) : Binary64 :=
  if n = 0 then finite negative 0 leastExponent else ofFraction negative n 1

/-- Whether a value is zero, of either sign. -/
def isZero : Binary64 → Bool
  | finite _ mantissa _ => mantissa = 0
  | _ => false

/-- The natural number that a value is, if it is one. -/
def toNat? : Binary64 → Option Nat
  | finite false mantissa exponent =>
    let (num, den) := fraction mantissa exponent
    if num % den = 0 then some (num / den) else none
  | _ => none

/-- The value nearest to `digits * 10 ^ exponent`. Decimals far outside the range of the format
are told by their length alone. -/
def ofDecimal (negative : Bool) (digits : Nat) (exponent : Int) : Binary64 :=
  let magnitude := exponent + digitCount digits
  if digits = 0 ∨ magnitude < -330 then finite negative 0 leastExponent
  else if 330 < magnitude then infinite negative
  else if 0 ≤ exponent then ofFraction negative (digits * Nat.pow 10 exponent.toNat) 1
  else ofFraction negative digits (Nat.pow 10 (-exponent).toNat)

end Binary64

end ImageSwap.Decimal
