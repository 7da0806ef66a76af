import ImageSwap.Toml.Value

/-!
# Pointing into a document

A complaint about a value quotes the line on which the value begins and underlines the value on it.
Lines and columns count from one, columns in characters; the underline has one mark for each byte
of the value that its first line holds, and at least one.
-/

namespace ImageSwap.Toml

/-- What is wrong with a document, and where. -/
structure Complaint where
  span : Span
  text : String
  deriving DecidableEq, Repr

/-- The number of bytes that characters take. -/
def byteCount (cs : List Char) : Nat := cs.foldl (fun n c => n + c.utf8Size) 0

/-- The characters between the ends of a stretch of text. -/
def Span.chars (span : Span) : List Char :=
  span.start.take (span.start.length - span.stop.length)

/-- The complaint in words, with the line of the document that it is about. -/
def Complaint.report (c : Complaint) (document : List Char) : String :=
  let before := document.take (document.length - c.span.start.length)
  let lineNumber := toString (before.count '\n' + 1)
  let column := (before.reverse.takeWhile (· != '\n')).length
  let line := (document.drop (before.length - column)).takeWhile (· != '\n')
  let marks := max 1 (min (byteCount c.span.chars) (byteCount line - column))
  let blanks n := String.ofList (List.replicate n ' ')
  let gutter := blanks (lineNumber.length + 1) ++ "|"
  let underline := blanks (column + 1) ++ String.ofList (List.replicate marks '^')
  s!"TOML parse error at line {lineNumber}, column {column + 1}\n" ++
    s!"{gutter}\n{lineNumber} | {String.ofList line}\n{gutter}{underline}\n{c.text}\n"

end ImageSwap.Toml
