import ImageSwap.Toml.Value

/-!
# TOML dates and times

A date of the Gregorian calendar, a time of day, or both with an optional offset. Only their form
matters here: a reader tells where one ends.
-/

namespace ImageSwap.Toml

/-- The number of a fixed count of decimal digits, when it lies within bounds. -/
private def readField (count low high : Nat) : Reader Nat := fun cs =>
  let digits := cs.take count
  let n := digits.foldl (fun n d => n * 10 + (d.toNat - '0'.toNat)) 0
  if digits.length = count ∧ digits.all Char.isDigit ∧ low ≤ n ∧ n ≤ high then
    some (n, cs.drop count)
  else none

/-- A given character. -/
private def readMark (mark : Char) : Reader Unit
  | c :: rest => if c == mark then some ((), rest) else none
  | [] => none

/-- The number of days of a month. -/
def daysIn (year month : Nat) : Nat :=
  let leap := year % 4 = 0 ∧ (year % 100 ≠ 0 ∨ year % 400 = 0)
  if month = 2 then if leap then 29 else 28
  else if month = 4 ∨ month = 6 ∨ month = 9 ∨ month = 11 then 30
  else 31

/-- A day of the calendar. -/
private def readDate : Reader Unit := fun cs => do
  let (year, rest) ← readField 4 0 9999 cs
  let (_, rest) ← readMark '-' rest
  let (month, rest) ← readField 2 1 12 rest
  let (_, rest) ← readMark '-' rest
  let (_, rest) ← readField 2 1 (daysIn year month) rest
  return ((), rest)

/-- A fraction of a second, or nothing. -/
private def skipFraction : List Char → List Char
  | '.' :: d :: rest => if d.isDigit then rest.dropWhile Char.isDigit else '.' :: d :: rest
  | cs => cs

/-- A time of day; a minute may have a leap second. -/
private def readTime : Reader Unit := fun cs => do
  let (_, rest) ← readField 2 0 23 cs
  let (_, rest) ← readMark ':' rest
  let (_, rest) ← readField 2 0 59 rest
  let (_, rest) ← readMark ':' rest
  let (_, rest) ← readField 2 0 60 rest
  return ((), skipFraction rest)

/-- An offset from universal time. -/
private def readOffset : Reader Unit
  | 'Z' :: rest | 'z' :: rest => some ((), rest)
  | '+' :: rest | '-' :: rest => do
    let (_, rest) ← readField 2 0 23 rest
    let (_, rest) ← readMark ':' rest
    let (_, rest) ← readField 2 0 59 rest
    return ((), rest)
  | _ => none

/-- A time of day and an optional offset after a date. -/
private def readTimeAfterDate : Reader Unit
  | 'T' :: rest | 't' :: rest | ' ' :: rest => do
    let (_, rest) ← readTime rest
    (readOffset rest).or (some ((), rest))
  | _ => none

/-- A date, a date and a time, or a time. -/
def readMoment : Reader Unit := fun cs =>
  match readDate cs with
  | some (_, rest) => (readTimeAfterDate rest).or (some ((), rest))
  | none => readTime cs

end ImageSwap.Toml
