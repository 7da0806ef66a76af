import ImageSwap.Regex.Fault
import ImageSwap.Text.CharClass

/-!
# Going through a pattern

A cursor stands between two characters of a pattern. It goes forward only. Where white space and
comments are passed over, a comment reaches from a number sign to the end of its line.
-/

namespace ImageSwap.Regex

/-- A place in a pattern: the number of characters before it, and what follows. -/
structure Cursor where
  offset : Nat
  rest : List Char
  deriving DecidableEq, Repr

namespace Cursor

/-- The start of a pattern. -/
def ofPattern (pattern : List Char) : Cursor := ⟨0, pattern⟩

/-- The empty stretch at a cursor. -/
def here (c : Cursor) : Span := ⟨c.offset, c.offset⟩

/-- The stretch of the character that follows. -/
def charSpan (c : Cursor) : Span := ⟨c.offset, c.offset + 1⟩

/-- The stretch from an earlier place up to a cursor. -/
def spanSince (c : Cursor) (start : Nat) : Span := ⟨start, c.offset⟩

/-- Whether nothing follows. -/
def atEnd (c : Cursor) : Bool := c.rest.isEmpty

/-- Whether a certain character follows. -/
def isAt (c : Cursor) (x : Char) : Bool := c.rest.head? == some x

/-- The cursor behind the next character. -/
def bump (c : Cursor) : Cursor :=
  match c.rest with
  | [] => c
  | _ :: rest => ⟨c.offset + 1, rest⟩

/-- The cursor behind some characters, if it is they that follow. -/
def bumpOver? (c : Cursor) (text : List Char) : Option Cursor :=
  if text.isPrefixOf c.rest then some ⟨c.offset + text.length, c.rest.drop text.length⟩ else none

/-- The place behind white space and comments, when it lies in a comment or not. -/
private def skipFrom (inComment : Bool) (offset : Nat) : List Char → Cursor
  | [] => ⟨offset, []⟩
  | x :: rest =>
    if inComment then skipFrom (x != '\n') (offset + 1) rest
    else if x == '#' then skipFrom true (offset + 1) rest
    else if Text.isWhiteSpace x then skipFrom false (offset + 1) rest
    else ⟨offset, x :: rest⟩

/-- The cursor behind white space and comments, if these are to be passed over. -/
def skip (spaced : Bool) (c : Cursor) : Cursor :=
  if spaced then skipFrom false c.offset c.rest else c

/-- The cursor behind the next character and what is to be passed over after it. -/
def advance (spaced : Bool) (c : Cursor) : Cursor := c.bump.skip spaced

/-- The character after the next one. -/
def peek? (c : Cursor) : Option Char := (c.rest.drop 1).head?

/-- What follows once white space and the signs that begin a comment are passed over. -/
private def peekFrom (inComment : Bool) : List Char → Option Char
  | [] => none
  | x :: rest =>
    if Text.isWhiteSpace x then peekFrom inComment rest
    else if !inComment && x == '#' then peekFrom true rest
    else some x

/-- The character after the next one, beyond white space where that is passed over. Of a comment
only the sign that begins it is passed over; if nothing else follows, it is what follows at once. -/
def peekBeyond? (spaced : Bool) (c : Cursor) : Option Char :=
  if spaced then (peekFrom false (c.rest.drop 1)).or c.peek? else c.peek?

/-- The characters from a cursor on that pass a test, put after those already taken backwards. The
number bounds how many there are. -/
private def takeOnto (spaced : Bool) (test : Char → Bool) :
    Nat → List Char → Cursor → List Char × Cursor
  | 0, taken, c => (taken.reverse, c)
  | n + 1, taken, c =>
    match c.rest with
    | [] => (taken.reverse, c)
    | x :: _ =>
      if test x then takeOnto spaced test n (x :: taken) (c.advance spaced)
      else (taken.reverse, c)

/-- The characters from a cursor on that pass a test, and the cursor behind them. -/
def takeWhile (spaced : Bool) (test : Char → Bool) (c : Cursor) : List Char × Cursor :=
  takeOnto spaced test c.rest.length [] c

/-- The number that decimal digits spell. -/
private def decimalValue (digits : List Char) : Nat :=
  digits.foldl (fun n d => n * 10 + (d.toNat - '0'.toNat)) 0

/-- The greatest count that a pattern may write. -/
private def greatestCount : Nat := UInt32.size - 1

/-- A count, which may have white space around it, and the cursor behind it. Whether there is a
count or not, the cursor goes on. -/
def readCount (spaced : Bool) (c : Cursor) : Except Fault Nat × Cursor :=
  let (_, c) := c.takeWhile false Text.isWhiteSpace
  let (digits, behind) := c.takeWhile spaced Char.isDigit
  let span := behind.spanSince c.offset
  let (_, next) := behind.takeWhile spaced Text.isWhiteSpace
  let count := decimalValue digits
  if digits.isEmpty then (fault .repetitionNumber span, next)
  else if greatestCount < count then (fault .decimalTooLarge span, next)
  else (.ok count, next)

end Cursor

end ImageSwap.Regex
