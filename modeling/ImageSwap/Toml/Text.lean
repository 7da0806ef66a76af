import ImageSwap.Text.Hexadecimal
import ImageSwap.Toml.Blank

/-!
# TOML strings

A string between double quotes may hold escapes, one between single quotes is taken as it stands.
Tripled quotes enclose strings of several lines: a line end right after them is dropped, line ends
are read as line feeds, and up to two quotes may stand before the closing three.
-/

namespace ImageSwap.Toml

/-- The character that an escape stands for, after its backslash. -/
def readEscape : Reader Char
  | 'b' :: rest => some ('\x08', rest)
  | 't' :: rest => some ('\t', rest)
  | 'n' :: rest => some ('\n', rest)
  | 'f' :: rest => some ('\x0c', rest)
  | 'r' :: rest => some ('\r', rest)
  | '"' :: rest => some ('"', rest)
  | '\\' :: rest => some ('\\', rest)
  | 'u' :: rest =>
    if 4 ≤ rest.length then (Text.charOfHex? (rest.take 4)).map (·, rest.drop 4) else none
  | 'U' :: rest =>
    if 8 ≤ rest.length then (Text.charOfHex? (rest.take 8)).map (·, rest.drop 8) else none
  | _ => none

theorem length_of_readEscape {cs rest : List Char} {c : Char}
    (h : readEscape cs = some (c, rest)) : rest.length < cs.length := by
  unfold readEscape at h
  split at h
  all_goals first
    | (simp only [Option.some.injEq, Prod.mk.injEq] at h; obtain ⟨-, rfl⟩ := h; simp)
    | (split at h
       · obtain ⟨_, _, h⟩ := Option.map_eq_some_iff.mp h
         simp only [Prod.mk.injEq] at h
         obtain ⟨-, rfl⟩ := h
         simp only [List.length_drop, List.length_cons]
         omega
       · simp at h)
    | simp at h

/-- The rest of a string after its double quote, put after the characters already read
backwards. -/
def basicOnto (read : List Char) (cs : List Char) : Option (String × List Char) :=
  match cs with
  | [] => none
  | '"' :: rest => some (String.ofList read.reverse, rest)
  | '\\' :: rest =>
    match _h : readEscape rest with
    | some (c, rest) => basicOnto (c :: read) rest
    | none => none
  | c :: rest => if isPlain c then basicOnto (c :: read) rest else none
termination_by cs.length
decreasing_by
  · have := length_of_readEscape _h
    simp only [List.length_cons]
    omega
  · simp

/-- The rest of a string after its single quote. -/
def readLiteral : Reader String := fun cs =>
  let isInside c := isPlain c && c != '\''
  match cs.dropWhile isInside with
  | '\'' :: rest => some (String.ofList (cs.takeWhile isInside), rest)
  | _ => none

/-- The text without the line end it may begin with. -/
def dropNewline (cs : List Char) : List Char := (afterNewline? cs).getD cs

/-- The end of a string of several lines at three quotes, after up to two more quotes of its own. -/
private def closeLines (quote : Char) (read rest : List Char) : String × List Char :=
  let more := (rest.takeWhile (· == quote)).take 2
  (String.ofList (more ++ read).reverse, rest.drop more.length)

/-- The text without the blanks and line ends it begins with. -/
private def skipBlankLines : List Char → List Char
  | '\r' :: '\n' :: rest => skipBlankLines rest
  | c :: rest => if isBlank c || c == '\n' then skipBlankLines rest else c :: rest
  | [] => []

/-- What follows a line end that a backslash hides, with the blanks and empty lines after it. -/
private def afterHiddenNewline? (cs : List Char) : Option (List Char) :=
  (afterNewline? (skipBlanks cs)).map skipBlankLines

/-- The rest of a string of several lines after its double quotes, put after the characters
already read backwards. The number bounds the characters still to be read. -/
private def basicLinesOnto : Nat → List Char → Reader String
  | 0, _, _ => none
  | n + 1, read, cs =>
    match cs with
    | [] => none
    | '"' :: '"' :: '"' :: rest => some (closeLines '"' read rest)
    | '"' :: rest => basicLinesOnto n ('"' :: read) rest
    | '\\' :: rest =>
      match afterHiddenNewline? rest with
      | some rest => basicLinesOnto n read rest
      | none => do
        let (c, rest) ← readEscape rest
        basicLinesOnto n (c :: read) rest
    | c :: rest =>
      match afterNewline? (c :: rest) with
      | some rest => basicLinesOnto n ('\n' :: read) rest
      | none => if isPlain c then basicLinesOnto n (c :: read) rest else none

/-- The rest of a string of several lines after its single quotes, put after the characters
already read backwards. The number bounds the characters still to be read. -/
private def literalLinesOnto : Nat → List Char → Reader String
  | 0, _, _ => none
  | n + 1, read, cs =>
    match cs with
    | [] => none
    | '\'' :: '\'' :: '\'' :: rest => some (closeLines '\'' read rest)
    | c :: rest =>
      match afterNewline? (c :: rest) with
      | some rest => literalLinesOnto n ('\n' :: read) rest
      | none => if isPlain c then literalLinesOnto n (c :: read) rest else none

/-- A string in any of its four forms. -/
def readString : Reader String
  | '"' :: '"' :: '"' :: rest => basicLinesOnto (rest.length + 1) [] (dropNewline rest)
  | '"' :: rest => basicOnto [] rest
  | '\'' :: '\'' :: '\'' :: rest => literalLinesOnto (rest.length + 1) [] (dropNewline rest)
  | '\'' :: rest => readLiteral rest
  | _ => none

end ImageSwap.Toml
