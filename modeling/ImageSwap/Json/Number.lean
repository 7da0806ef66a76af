import ImageSwap.Json.Basic

/-!
# Numbers of JSON documents

A whole number that fits into 64 bits is read exactly. Any other number is read with double
precision: as many of its digits as fit into 64 bits are kept, and the number that they spell is
multiplied or divided by a power of ten, with one rounding for the digits, one for the power and
one for the result. A number that is too large for this has no value.
-/

namespace ImageSwap.Json

open Decimal (Binary64)

/-- The greatest whole number that is read exactly. -/
def greatestWhole : Nat := UInt64.size - 1

/-- The digits kept of a number, and the power of ten that they are to be multiplied by. -/
structure Scaled where
  digits : Nat := 0
  power : Int := 0
  deriving DecidableEq, Repr

namespace Scaled

/-- Whether one more digit can be kept. -/
def hasRoom (s : Scaled) (digit : Nat) : Bool := s.digits * 10 + digit ≤ greatestWhole

/-- The value of a digit. -/
def valueOf (digit : Char) : Nat := digit.toNat - '0'.toNat

/-- The number that the digits before a point spell, and whether all of them are kept. -/
def ofWhole (digits : List Char) : Scaled × Bool :=
  digits.foldl (fun (s, all) c =>
    if all && s.hasRoom (valueOf c) then ({ s with digits := s.digits * 10 + valueOf c }, true)
    else ({ s with power := s.power + 1 }, false)) ({}, true)

/-- The number with more digits after its point. Once a digit has no room, the rest are dropped. -/
def addFraction (s : Scaled) : List Char → Scaled
  | [] => s
  | c :: cs =>
    if s.hasRoom (valueOf c) then
      addFraction ⟨s.digits * 10 + valueOf c, s.power - 1⟩ cs
    else s

/-- The greatest power of ten that double precision has a value for. -/
private def greatestPower : Nat := 308

/-- The double-precision value nearest to a power of ten. -/
private def tenTo (n : Nat) : Nat := ((Binary64.ofNat false (Nat.pow 10 n)).toNat?).getD 1

/-- A value divided by a power of ten, in steps of the greatest one; `n` bounds their number. -/
private def divide : Nat → Binary64 → Nat → Binary64
  | 0, v, _ => v
  | n + 1, v, power =>
    if power ≤ greatestPower then v.dividedBy (tenTo power)
    else if v.isZero then v
    else divide n (v.dividedBy (tenTo greatestPower)) (power - greatestPower)

/-- The double-precision value that a number is read as, unless it is too large. Four steps bring
any value that fits into 64 bits down to zero. -/
def value? (s : Scaled) (negative : Bool) : Option Binary64 :=
  let v := Binary64.ofNat negative s.digits
  if s.power < 0 then some (divide 4 v (-s.power).toNat)
  else if s.power ≤ greatestPower then
    match v.times (tenTo s.power.toNat) with
    | .infinite _ => none
    | v => some v
  else if v.isZero then some v
  else none

end Scaled

/-- The value of a number without fraction and exponent. A negative zero is no whole number. -/
def ofWhole? (negative : Bool) (digits : List Char) : Option Json :=
  let (s, all) := Scaled.ofWhole digits
  if !all then (s.value? negative).map real
  else if !negative then some (int s.digits)
  else if 0 < s.digits ∧ Int64.minValue.toInt ≤ -s.digits then some (int (-s.digits))
  else (s.value? true).map real

end ImageSwap.Json
