import ImageSwap.Decimal.Binary64

/-!
# The shortest decimal of a binary number

A finite number is written with the fewest digits that still round to it. Of two such decimals the
nearer one is taken; of two equally near, the format that is written says which. In positional
notation there is at least one digit after the point; in scientific notation there is always a sign
of the power.
-/

namespace ImageSwap.Decimal

/-- A positive decimal, `digits * 10 ^ exponent`. -/
structure Digits where
  digits : Nat
  exponent : Int
  deriving DecidableEq, Repr

/-- Which of two decimals equally near to a value is taken. -/
inductive Tie where
  | toGreater
  | toEven
  deriving DecidableEq, Repr

/-- Four times a finite value as a fraction, so that halves of its last place are whole. -/
private def quadruple (mantissa : Nat) (exponent : Int) : Nat × Nat :=
  if 0 ≤ exponent then (4 * mantissa * Nat.pow 2 exponent.toNat, 1)
  else (4 * mantissa, Nat.pow 2 (-exponent).toNat)

/-- Four times a decimal and four times a binary number on a common denominator. -/
private def onOneGrid (d : Digits) (mantissa : Nat) (exponent : Int) : Nat × Nat :=
  let (num, den) := quadruple mantissa exponent
  if 0 ≤ d.exponent then (4 * d.digits * Nat.pow 10 d.exponent.toNat * den, num)
  else (4 * d.digits * den, num * Nat.pow 10 (-d.exponent).toNat)

/-- Whether a decimal rounds to the binary number `mantissa * 2 ^ exponent`. The value below is
half as far away when the mantissa is the least of its exponent. -/
private def roundsTo (d : Digits) (mantissa : Nat) (exponent : Int) : Bool :=
  let (decimal, value) := onOneGrid d mantissa exponent
  let unit := value / mantissa / 4
  let below := if mantissa = Binary64.leastNormal ∧ Binary64.leastExponent < exponent
    then unit else 2 * unit
  let above := 2 * unit
  if mantissa % 2 = 0 then value - below ≤ decimal && decimal ≤ value + above
  else value - below < decimal && decimal < value + above

/-- The distance of a decimal from a binary number, in units that both are multiples of. -/
private def distance (d : Digits) (mantissa : Nat) (exponent : Int) : Nat :=
  let (decimal, value) := onOneGrid d mantissa exponent
  if decimal ≤ value then value - decimal else decimal - value

/-- The power of ten of the first digit of a binary number. -/
private def leadingPower (mantissa : Nat) (exponent : Int) : Int :=
  let (num, den) := quadruple mantissa exponent
  (digitCount (num * Nat.pow 10 400 / (4 * den)) : Int) - 401

/-- How many times a power of ten goes into a binary number. -/
private def floorOn (power : Int) (mantissa : Nat) (exponent : Int) : Nat :=
  let (num, den) := quadruple mantissa exponent
  if 0 ≤ power then num / (4 * den * Nat.pow 10 power.toNat)
  else num * Nat.pow 10 (-power).toNat / (4 * den)

/-- The decimal that follows `d` on its grid; a power of ten begins the next grid. -/
private def next (d : Digits) : Digits :=
  if d.digits = 9 then ⟨1, d.exponent + 1⟩ else ⟨d.digits + 1, d.exponent⟩

/-- Whether the greater of two decimals that follow each other is taken of a tie. -/
private def Tie.takesGreater (tie : Tie) (greater : Digits) : Bool :=
  match tie with
  | toGreater => true
  | toEven => greater.digits % 2 == 0

/-- The decimal with `count` digits that rounds to a binary number, the nearer one of two. -/
private def withCount? (tie : Tie) (mantissa : Nat) (exponent : Int) (count : Nat) :
    Option Digits :=
  let power := leadingPower mantissa exponent - count + 1
  let low : Digits := ⟨floorOn power mantissa exponent, power⟩
  let hits := [low, next low].filter (roundsTo · mantissa exponent)
  match hits with
  | [a, b] =>
    let fromLess := distance a mantissa exponent
    let fromGreater := distance b mantissa exponent
    let takesGreater := fromGreater < fromLess || fromGreater == fromLess && tie.takesGreater b
    if takesGreater then some b else some a
  | hits => hits.head?

/-- The decimal of fewest digits that rounds to a binary number other than zero. -/
def shortestDigits (tie : Tie) (mantissa : Nat) (exponent : Int) : Digits :=
  ((List.range 17).findSome? fun n => withCount? tie mantissa exponent (n + 1)).getD ⟨0, 0⟩

/-- A decimal in positional notation, with at least one digit after the point. -/
def Digits.text (d : Digits) : String :=
  let digits := Nat.toDigits 10 d.digits
  if 0 ≤ d.exponent then
    String.ofList (digits ++ List.replicate d.exponent.toNat '0') ++ ".0"
  else
    let places := (-d.exponent).toNat
    if places < digits.length then
      let whole := digits.length - places
      String.ofList (digits.take whole ++ '.' :: digits.drop whole)
    else
      "0." ++ String.ofList (List.replicate (places - digits.length) '0' ++ digits)

/-- The power of ten of the first digit. -/
def Digits.leadingPower (d : Digits) : Int := d.exponent + digitCount d.digits - 1

/-- A decimal in scientific notation: the first digit, the others after a point if there are any,
and the signed power of ten of the first digit. -/
def Digits.scientific (d : Digits) : String :=
  let digits := Nat.toDigits 10 d.digits
  let rest := if 1 < digits.length then '.' :: digits.drop 1 else []
  let sign := if d.leadingPower < 0 then "-" else "+"
  String.ofList (digits.take 1 ++ rest) ++ s!"e{sign}{d.leadingPower.natAbs}"

/-- The text of a value, in positional notation. -/
def Binary64.text : Binary64 → String
  | finite negative mantissa exponent =>
    let sign := if negative then "-" else ""
    if mantissa = 0 then sign ++ "0.0"
    else sign ++ (shortestDigits .toGreater mantissa exponent).text
  | infinite negative => if negative then "-inf" else "inf"
  | notANumber => "NaN"

end ImageSwap.Decimal
