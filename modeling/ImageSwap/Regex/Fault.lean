import ImageSwap.Text.Split

/-!
# Faults of patterns

A pattern that is no regular expression is refused with a reason and the stretch of the pattern that
the reason is about. A fault is shown with the pattern, line by line when it has several, and with
marks below the stretch.
-/

namespace ImageSwap.Regex

/-- A stretch of a pattern, by the number of characters before its start and before its end. -/
structure Span where
  start : Nat
  stop : Nat
  deriving DecidableEq, Repr

/-- Why a pattern is refused. -/
inductive Reason where
  | backreference
  | byteAboveAscii
  | caselessLetters
  | decimalTooLarge
  | escapeInSet
  | escapeUnfinished
  | escapeUnknown
  | flagDangling
  | flagDuplicate
  | flagNegatedTwice
  | flagUnfinished
  | flagUnknown
  | groupUnclosed
  | groupUnopened
  | hexDigit
  | hexEmpty
  | hexNoCharacter
  | lookAround
  | nameDuplicate
  | nameEmpty
  | nameInvalid
  | nameUnfinished
  | nesting (limit : Nat)
  | propertyInvalid
  | propertyUnknown
  | propertyValueUnknown
  | rangeLimit
  | rangeReversed
  | repetitionMissing
  | repetitionNumber
  | repetitionReversed
  | repetitionUnclosed
  | setUnclosed
  | unicodeInBytes
  | unicodeShorthand
  | wordEdgeOrCountUnfinished
  | wordEdgeUnclosed
  | wordEdgeUnknown
  deriving DecidableEq, Repr

/-- A reason in words. -/
def Reason.message : Reason → String
  | backreference => "backreferences are not supported"
  | byteAboveAscii => "pattern can match invalid UTF-8"
  | caselessLetters =>
    "Unicode-aware case insensitivity matching is not available " ++
      "(make sure the unicode-case feature is enabled)"
  | decimalTooLarge => "decimal literal invalid"
  | escapeInSet => "invalid escape sequence found in character class"
  | escapeUnfinished => "incomplete escape sequence, reached end of pattern prematurely"
  | escapeUnknown => "unrecognized escape sequence"
  | flagDangling => "dangling flag negation operator"
  | flagDuplicate => "duplicate flag"
  | flagNegatedTwice => "flag negation operator repeated"
  | flagUnfinished => "expected flag but got end of regex"
  | flagUnknown => "unrecognized flag"
  | groupUnclosed => "unclosed group"
  | groupUnopened => "unopened group"
  | hexDigit => "invalid hexadecimal digit"
  | hexEmpty => "hexadecimal literal empty"
  | hexNoCharacter => "hexadecimal literal is not a Unicode scalar value"
  | lookAround => "look-around, including look-ahead and look-behind, is not supported"
  | nameDuplicate => "duplicate capture group name"
  | nameEmpty => "empty capture group name"
  | nameInvalid => "invalid capture group character"
  | nameUnfinished => "unclosed capture group name"
  | nesting limit => s!"exceed the maximum number of nested parentheses/brackets ({limit})"
  | propertyInvalid => "invalid Unicode character class"
  | propertyUnknown => "Unicode property not found"
  | propertyValueUnknown => "Unicode property value not found"
  | rangeLimit => "invalid range boundary, must be a literal"
  | rangeReversed => "invalid character class range, the start must be <= the end"
  | repetitionMissing => "repetition operator missing expression"
  | repetitionNumber => "repetition quantifier expects a valid decimal"
  | repetitionReversed => "invalid repetition count range, the start must be <= the end"
  | repetitionUnclosed => "unclosed counted repetition"
  | setUnclosed => "unclosed character class"
  | unicodeInBytes => "Unicode not allowed here"
  | unicodeShorthand =>
    "Unicode-aware Perl class not found (make sure the unicode-perl feature is enabled)"
  | wordEdgeOrCountUnfinished =>
    "found either the beginning of a special word boundary or a bounded repetition on a \\b " ++
      "with an opening brace, but no closing brace"
  | wordEdgeUnclosed =>
    "special word boundary assertion is either unclosed or contains an invalid character"
  | wordEdgeUnknown =>
    "unrecognized special word boundary assertion, valid choices are: start, end, start-half " ++
      "or end-half"

/-- Why a pattern is no regular expression, and where. -/
structure Fault where
  reason : Reason
  span : Span
  /-- An earlier stretch that the reason is about as well. -/
  other : Option Span := none
  deriving DecidableEq, Repr

/-- The result of refusing a pattern. -/
def fault (reason : Reason) (span : Span) : Except Fault α := .error { reason, span }

namespace Fault

/-- The lines of a pattern without their ends. What follows the last line end is a line unless it
is empty. -/
private def lines (pattern : List Char) : List (List Char) :=
  let parts := Text.split '\n' pattern
  let ended := parts.dropLast.map fun line =>
    if line.getLast? = some '\r' then line.dropLast else line
  match parts.getLast? with
  | none | some [] => ended
  | some last => ended ++ [last]

/-- The line and the column of the place behind the given number of characters. -/
private def place (pattern : List Char) (offset : Nat) : Nat × Nat :=
  let before := pattern.take offset
  (before.count '\n' + 1, (before.reverse.takeWhile (· != '\n')).length + 1)

/-- The stretches of a fault in the order of the pattern. -/
private def spans (f : Fault) : List Span :=
  match f.other with
  | none => [f.span]
  | some other => if other.start ≤ f.span.start then [other, f.span] else [f.span, other]

/-- The marks below a line, at least one for each of the stretches on it. -/
private def marks (columns : List (Nat × Nat)) : List Char :=
  columns.foldl (fun line (start, stop) =>
    line ++ List.replicate (start - 1 - line.length) ' ' ++
      List.replicate (max 1 (stop - start)) '^') []

/-- The stretches of a fault, from line and column to line and column. -/
private def placedSpans (f : Fault) (pattern : List Char) : List ((Nat × Nat) × (Nat × Nat)) :=
  f.spans.map fun s => (place pattern s.start, place pattern s.stop)

/-- The lines of a pattern, each under its label, with the marks of a fault. -/
private def annotated (f : Fault) (pattern : List Char) (label : Nat → List Char) :
    List (List Char) :=
  let placed := f.placedSpans pattern
  (lines pattern).zipIdx.flatMap fun (line, i) =>
    let label := label (i + 1)
    let columns := placed.filterMap fun ((first, start), (last, stop)) =>
      if first = i + 1 ∧ last = i + 1 then some (start, stop) else none
    let below := if columns = [] then []
      else [List.replicate label.length ' ' ++ marks columns]
    (label ++ line) :: below

/-- The notes about the stretches that go on over the end of a line. -/
private def notes (f : Fault) (pattern : List Char) : List (List Char) :=
  (f.placedSpans pattern).filterMap fun ((first, start), (last, stop)) =>
    if first = last then none
    else some
      s!"on line {first} (column {start}) through line {last} (column {stop - 1})".toList

/-- The label of a line, its number at the given width. -/
private def numberLabel (width line : Nat) : List Char :=
  let digits := (toString line).toList
  List.replicate (width - digits.length) ' ' ++ digits ++ [':', ' ']

/-- A fault in words, with the pattern. -/
def message (f : Fault) (pattern : List Char) : String :=
  let shown :=
    if pattern.contains '\n' then
      let width := (toString (Text.split '\n' pattern).length).length
      let divider := List.replicate 79 '~'
      divider :: f.annotated pattern (numberLabel width) ++ divider :: f.notes pattern
    else f.annotated pattern fun _ => List.replicate 4 ' '
  let shown := String.ofList (shown.flatMap fun line => line ++ ['\n'])
  s!"regex parse error:\n{shown}error: {f.reason.message}"

end Fault

end ImageSwap.Regex
