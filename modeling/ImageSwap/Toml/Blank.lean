import ImageSwap.Toml.Value

/-!
# Blanks, comments and line ends

Lines end in a line feed with or without a carriage return before it. A comment runs from a hash
sign to the end of its line. Controls other than the tab are allowed nowhere.
-/

namespace ImageSwap.Toml

/-- Whether a character may stand in a comment or, quotes and escapes apart, in a string. -/
def isPlain (c : Char) : Bool := c == '\t' || (0x20 ≤ c.toNat && c.toNat != 0x7f)

/-- Whether a character is a blank within a line. -/
def isBlank (c : Char) : Bool := c == ' ' || c == '\t'

/-- The text without the blanks it begins with. -/
def skipBlanks (cs : List Char) : List Char := cs.dropWhile isBlank

/-- What follows the end of a line, if the text begins with one. -/
def afterNewline? : List Char → Option (List Char)
  | '\n' :: rest => some rest
  | '\r' :: '\n' :: rest => some rest
  | _ => none

/-- What follows a comment, if the text begins with one; else the text itself. -/
def skipComment : List Char → List Char
  | '#' :: rest => rest.dropWhile isPlain
  | cs => cs

/-- What follows the end of a line after blanks and a comment, if only these come before it. The
end of the text ends a line as well. -/
def endLine? (cs : List Char) : Option (List Char) :=
  match skipComment (skipBlanks cs) with
  | [] => some []
  | cs => afterNewline? cs

theorem length_dropWhile_le (p : α → Bool) (l : List α) : (l.dropWhile p).length ≤ l.length :=
  (List.dropWhile_suffix p).length_le

theorem length_of_afterNewline? {cs rest : List Char} (h : afterNewline? cs = some rest) :
    rest.length < cs.length := by
  unfold afterNewline? at h
  split at h <;> simp at h <;> subst h <;> simp only [List.length_cons] <;> omega

/-- The text without the blanks, line ends and whole comments it begins with. -/
def skipGaps (cs : List Char) : List Char :=
  match cs with
  | [] => []
  | c :: rest =>
    if isBlank c then skipGaps rest
    else if c == '#' then
      match _h : afterNewline? (rest.dropWhile isPlain) with
      | some next => skipGaps next
      | none => c :: rest
    else match _h : afterNewline? (c :: rest) with
      | some next => skipGaps next
      | none => c :: rest
termination_by cs.length
decreasing_by
  · simp
  · have := length_of_afterNewline? _h
    have := length_dropWhile_le isPlain rest
    simp only [List.length_cons]
    omega
  · exact length_of_afterNewline? _h

end ImageSwap.Toml
