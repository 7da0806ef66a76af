/-!
# Sets of characters

A set of characters is a list of ranges of their numbers. In normal form the ranges ascend, and
there is a gap between each and the next; every operation yields the normal form.
-/

namespace ImageSwap.Regex

/-- A set of characters, by ranges of their numbers. -/
abbrev CharSet := List (Nat × Nat)

namespace CharSet

/-- The number of the last character. -/
def lastChar : Nat := 0x10ffff

/-- The set of all characters from one to another. -/
def range (low high : Char) : CharSet := [(low.toNat, high.toNat)]

/-- Ranges in ascending order with those joined that overlap or touch. -/
private def join : CharSet → CharSet
  | [] => []
  | (low, high) :: rest =>
    match join rest with
    | (low', high') :: rest =>
      if low' ≤ high + 1 then (low, max high high') :: rest
      else (low, high) :: (low', high') :: rest
    | [] => [(low, high)]

/-- The normal form of ranges. -/
def normal (ranges : List (Nat × Nat)) : CharSet :=
  join (ranges.mergeSort fun a b => a.1 < b.1 ∨ a.1 = b.1 ∧ a.2 ≤ b.2)

/-- The characters of either of two sets. -/
def union (a b : CharSet) : CharSet := normal (a ++ b)

/-- The characters of both of two sets. -/
def inter (a b : CharSet) : CharSet :=
  normal (a.flatMap fun (low, high) => b.filterMap fun (low', high') =>
    if max low low' ≤ min high high' then some (max low low', min high high') else none)

/-- The gaps between ascending ranges from a number on. -/
private def gaps (next : Nat) : CharSet → CharSet
  | [] => if next ≤ lastChar then [(next, lastChar)] else []
  | (low, high) :: rest =>
    if next < low then (next, low - 1) :: gaps (high + 1) rest else gaps (high + 1) rest

/-- The characters that are not in a set. -/
def complement (a : CharSet) : CharSet := gaps 0 a

/-- The characters of one set that are not in another. -/
def diff (a b : CharSet) : CharSet := inter a (complement b)

/-- The characters that are in one of two sets only. -/
def symmDiff (a b : CharSet) : CharSet := diff (union a b) (inter a b)

/-- Whether all characters of a set are ASCII. -/
def isAscii (a : CharSet) : Bool := a.all fun (_, high) => high < 0x80

/-- The only character of a set, if it has but one. -/
def single? : CharSet → Option Char
  | [(low, high)] => if low = high then some (Char.ofNat low) else none
  | _ => none

/-- The letters of a set from `first` to `last`, moved to where those of the other case are. -/
private def moved (a : CharSet) (first last : Char) (move : Nat → Nat) : CharSet :=
  (inter a (range first last)).map fun (low, high) => (move low, move high)

/-- A set with the other case of every ASCII letter in it. -/
def foldCase (a : CharSet) : CharSet :=
  normal (a ++ moved a 'a' 'z' (· - 32) ++ moved a 'A' 'Z' (· + 32))

end CharSet

end ImageSwap.Regex
