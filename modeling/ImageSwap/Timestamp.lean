/-!
# Moments and their calendar form

A moment is a count of seconds since the first day of 1970 with the nanoseconds that follow. It is
written in the proleptic Gregorian calendar as date and time joined by `T`, with a fraction of 0,
3, 6 or 9 digits, whichever is the shortest that is exact, and a closing `Z`. Nanoseconds beyond
one second stand for a leap second, which only the last second of a minute can have.
-/

namespace ImageSwap

/-- A day of the proleptic Gregorian calendar. -/
structure Date where
  year : Int
  month : Nat
  day : Nat
  deriving DecidableEq, Repr

namespace Date

/-- The day that lies `days` days after the first day of 1970. A year is counted from its March,
so that a leap day is the last of its year, and 400 such years always have 146097 days. -/
def ofDays (days : Int) : Date :=
  let fromMarch := days + 719468
  let cycle := fromMarch.fdiv 146097
  let dayOfCycle := (fromMarch.fmod 146097).toNat
  let yearOfCycle :=
    (dayOfCycle - dayOfCycle / 1460 + dayOfCycle / 36524 - dayOfCycle / 146096) / 365
  let dayOfYear := dayOfCycle - (365 * yearOfCycle + yearOfCycle / 4 - yearOfCycle / 100)
  let monthFromMarch := (5 * dayOfYear + 2) / 153
  let day := dayOfYear - (153 * monthFromMarch + 2) / 5 + 1
  let month := if monthFromMarch < 10 then monthFromMarch + 3 else monthFromMarch - 9
  let year := (yearOfCycle : Int) + cycle * 400 + if month ≤ 2 then 1 else 0
  ⟨year, month, day⟩

end Date

/-- A moment: seconds since the first day of 1970, and nanoseconds. -/
structure Timestamp where
  seconds : Int
  nanos : Nat
  deriving DecidableEq, Repr

namespace Timestamp

/-- The day on which a moment falls. -/
def date (t : Timestamp) : Date := .ofDays (t.seconds.fdiv 86400)

/-- The second of its day on which a moment falls. -/
def secondOfDay (t : Timestamp) : Nat := (t.seconds.fmod 86400).toNat

/-- A moment of the calendar, when there is one: the year is in range, and only the last second
of a minute is followed by a leap second. -/
def ofUnix? (seconds : Int) (nanos : Nat) : Option Timestamp :=
  let t : Timestamp := ⟨seconds, nanos⟩
  let leap := 1000000000 ≤ nanos
  if t.date.year < -262143 ∨ 262142 < t.date.year then none
  else if 2000000000 ≤ nanos ∨ leap ∧ t.secondOfDay % 60 ≠ 59 then none
  else some t

/-- A number with zeros before it, up to a width. -/
private def padded (width n : Nat) : String :=
  let digits := toString n
  String.ofList (List.replicate (width - digits.length) '0') ++ digits

/-- A year: four digits, with a sign and as many digits as it takes outside 0 to 9999. -/
private def yearText (year : Int) : String :=
  if year < 0 then "-" ++ padded 4 year.natAbs
  else if 9999 < year then s!"+{year}"
  else padded 4 year.toNat

/-- The fraction of a second with its point, without needless groups of three zeros. -/
private def fractionText (nanos : Nat) : String :=
  if nanos = 0 then ""
  else if nanos % 1000000 = 0 then "." ++ padded 3 (nanos / 1000000)
  else if nanos % 1000 = 0 then "." ++ padded 6 (nanos / 1000)
  else "." ++ padded 9 nanos

/-- The calendar form of a moment. -/
def text (t : Timestamp) : String :=
  let date := t.date
  let second := t.secondOfDay
  let leap := t.nanos / 1000000000
  let day := s!"{yearText date.year}-{padded 2 date.month}-{padded 2 date.day}"
  let minute := s!"{padded 2 (second / 3600)}:{padded 2 (second / 60 % 60)}"
  let rest := s!"{padded 2 (second % 60 + leap)}{fractionText (t.nanos % 1000000000)}"
  s!"{day}T{minute}:{rest}Z"

/-- The calendar form of a moment to the second, as log records carry it. -/
def textToSecond (t : Timestamp) : String := text ⟨t.seconds, 0⟩

private theorem newline_notMem_digits (n : Nat) : '\n' ∉ Nat.toDigits 10 n := fun h =>
  absurd (Nat.isDigit_of_mem_toDigits (b := 10) (by decide) (by decide) h) (by decide)

private theorem newline_notMem_padded (width n : Nat) : '\n' ∉ (padded width n).toList := by
  simp [padded, newline_notMem_digits]

private theorem newline_notMem_yearText (year : Int) : '\n' ∉ (yearText year).toList := by
  unfold yearText
  split
  · simp [newline_notMem_padded]
  · split
    · next hlate =>
      obtain ⟨n, rfl⟩ := Int.eq_ofNat_of_zero_le (by omega : 0 ≤ year)
      change '\n' ∉ ("+" ++ n.repr).toList
      simp [newline_notMem_digits]
    · exact newline_notMem_padded 4 _

private theorem newline_notMem_fractionText (nanos : Nat) :
    '\n' ∉ (fractionText nanos).toList := by
  unfold fractionText
  split
  · simp
  · split
    · simp [newline_notMem_padded]
    · split <;> simp [newline_notMem_padded]

/-- A moment is written on one line. -/
theorem newline_notMem_text (t : Timestamp) : '\n' ∉ t.text.toList := by
  obtain ⟨year, month, day, hour, minute, second, nanos, htext⟩ :
      ∃ year month day hour minute second nanos, t.text =
        (yearText year ++ "-" ++ padded 2 month ++ "-" ++ padded 2 day) ++ "T" ++
          (padded 2 hour ++ ":" ++ padded 2 minute) ++ ":" ++
          (padded 2 second ++ fractionText nanos) ++ "Z" := ⟨_, _, _, _, _, _, _, rfl⟩
  simp [htext, newline_notMem_yearText, newline_notMem_padded, newline_notMem_fractionText]

theorem newline_notMem_textToSecond (t : Timestamp) : '\n' ∉ t.textToSecond.toList :=
  newline_notMem_text _

end Timestamp

end ImageSwap
