import ImageSwap.Proofs.WrittenStrings

/-!
# Reading back written statements

A bare name is read up to the first character that may not belong to it, an assignment up to the end
of its value, and a statement that stands on a line of its own up to the next line.
-/

namespace ImageSwap

namespace Toml

/-- A name that can be written without quotes. -/
def Bare (name : String) : Prop := name.toList ≠ [] ∧ ∀ c ∈ name.toList, isBare c = true

variable {name : String} {cs rest : List Char} {n : Nat}

theorem skipBlanks_of_solid {c : Char} (h : isSolid c = true) :
    skipBlanks (c :: cs) = c :: cs := by
  simp only [isSolid, Bool.and_eq_true, Bool.not_eq_true'] at h
  simp [skipBlanks, h.1.1.1]

theorem isSolid_of_isBare {c : Char} (h : isBare c = true) : isSolid c = true := by
  have hne (d : Char) (hd : isBare d = false) : c ≠ d := by
    rintro rfl
    exact absurd h (by simp [hd])
  simp [isSolid, isBlank, hne ' ' (by decide), hne '\t' (by decide), hne '#' (by decide),
    hne '\n' (by decide), hne '\r' (by decide)]

/-- A bare name begins with a character that it may consist of. -/
theorem Bare.eq_cons (h : Bare name) : ∃ c tail, name.toList = c :: tail ∧ isBare c = true := by
  obtain ⟨hne, hbare⟩ := h
  obtain ⟨c, tail, hchars⟩ := List.exists_cons_of_ne_nil hne
  exact ⟨c, tail, hchars, hbare c (by simp [hchars])⟩

/-- A bare name is read up to the first character that may not belong to it. -/
theorem readName_bare (h : Bare name) (hrest : rest.takeWhile isBare = []) :
    readName (name.toList ++ rest) = some (name, rest) := by
  have htake : (name.toList ++ rest).takeWhile isBare = name.toList := by
    rw [List.takeWhile_append_of_pos h.2, hrest, List.append_nil]
  have hdrop : (name.toList ++ rest).dropWhile isBare = rest := by
    have hsplit := List.takeWhile_append_dropWhile (p := isBare) (l := name.toList ++ rest)
    rw [htake] at hsplit
    exact List.append_cancel_left hsplit
  obtain ⟨c, tail, hchars, hc⟩ := h.eq_cons
  rw [hchars, List.cons_append] at htake hdrop
  have hread : readName (c :: (tail ++ rest)) = some (String.ofList (c :: tail), rest) := by
    rw [readName, htake, hdrop]
    · rfl
    all_goals
      intro _ hquote
      rw [(List.cons.inj hquote).1] at hc
      exact absurd hc (by decide)
  rw [hchars, List.cons_append, hread, ← hchars, String.ofList_toList]

theorem readPart_bare (h : Bare name) (hrest : rest.takeWhile isBare = []) :
    readPart (name.toList ++ rest) =
      some (⟨name, ⟨name.toList ++ rest, rest⟩⟩, skipBlanks rest) := by
  have hskip : skipBlanks (name.toList ++ rest) = name.toList ++ rest := by
    obtain ⟨c, tail, hchars, hc⟩ := h.eq_cons
    rw [hchars]
    exact skipBlanks_of_solid (isSolid_of_isBare hc)
  rw [readPart, hskip, Reader.spanned, readName_bare h hrest]
  rfl

/-- A bare name is read as a key unless a point follows. -/
theorem readKey_bare (h : Bare name) (hrest : rest.takeWhile isBare = [])
    (hpoint : ∀ more, skipBlanks rest ≠ '.' :: more) :
    readKey (n + 1) (name.toList ++ rest) =
      some (([], ⟨name, ⟨name.toList ++ rest, rest⟩⟩), skipBlanks rest) := by
  rw [readKey, readPart_bare h hrest]
  simp only [Option.bind_eq_bind, Option.bind_some]
  rfl

/-- A bare key is read up to the equals sign. -/
theorem readKey_equals (n : Nat) (rest : List Char) (h : Bare name) :
    ∃ span, readKey (n + 1) (name.toList ++ ' ' :: '=' :: rest) =
      some (([], ⟨name, span⟩), '=' :: rest) := by
  have hskip : skipBlanks (' ' :: '=' :: rest) = '=' :: rest := rfl
  rw [← hskip]
  exact ⟨_, readKey_bare h rfl (by simp [hskip])⟩

/-- A bare name with a point after it is read as the first part of a key. -/
theorem readKey_point (n : Nat) (cs : List Char) (h : Bare name) :
    readKey (n + 1) (name.toList ++ '.' :: cs) = (readKey n cs).map fun ((path, key), rest) =>
      ((⟨name, ⟨name.toList ++ '.' :: cs, '.' :: cs⟩⟩ :: path, key), rest) := by
  have hskip : skipBlanks ('.' :: cs) = '.' :: cs := skipBlanks_of_solid (by decide)
  rw [readKey, readPart_bare h rfl, hskip]
  simp only [Option.bind_eq_bind, Option.bind_some]
  cases readKey n cs <;> rfl

/-- An assignment is read when its key is, up to the equals sign, and then its value. -/
theorem readAssignment_of_key {item : Reader (Span × Value)} {path : List Key} {key : Key}
    {span : Span} {value : Value} {c : Char} {after : List Char}
    (hkey : readKey nestingLimit cs = some ((path, key), '=' :: ' ' :: c :: after))
    (hc : isSolid c = true) (hvalue : item (c :: after) = some ((span, value), rest)) :
    readAssignment item cs = some (.assign path key span value, rest) := by
  have hskip : skipBlanks (' ' :: c :: after) = c :: after := skipBlanks_of_solid hc
  rw [readAssignment, hkey]
  simp only [Option.bind_eq_bind, Option.bind_some, hskip, hvalue]
  rfl

/-! ### Lines -/

/-- A line that begins with a bare name is read as an assignment. -/
theorem readStatement_bare {c : Char} (hc : isBare c = true) :
    readStatement (c :: cs) =
      readAssignment (Reader.spanned (readValue nestingLimit)) (c :: cs) := by
  have hne : c ≠ '[' := by
    rintro rfl
    exact absurd hc (by decide)
  simp [readStatement, hne]

/-- The ways to end a line. -/
def IsLineEnd (lineEnd : List Char) : Prop := lineEnd = ['\n'] ∨ lineEnd = ['\r', '\n']

theorem endLine?_lineEnd {lineEnd : List Char} (h : IsLineEnd lineEnd) :
    endLine? (lineEnd ++ rest) = some rest := by
  rcases h with rfl | rfl <;> rfl

theorem endLine?_of_solid {c : Char} (h : isSolid c = true) : endLine? (c :: cs) = none := by
  have hcomment : skipComment (c :: cs) = c :: cs := by
    simp only [isSolid, Bool.and_eq_true, bne_iff_ne] at h
    simp [skipComment, h.1.1.2]
  rw [endLine?, skipBlanks_of_solid h, hcomment]
  exact afterNewline?_of_solid h

/-- A statement that stands on a line of its own is read with the end of the line. -/
theorem linesOnto_line {read : List Statement} {statement : Statement} {lineEnd : List Char}
    {c : Char} (hend : IsLineEnd lineEnd) (hc : isSolid c = true)
    (hread : readStatement (c :: cs) = some (statement, lineEnd ++ rest)) :
    linesOnto (n + 1) read (c :: cs) = linesOnto n (statement :: read) rest := by
  rw [linesOnto, skipBlanks_of_solid hc]
  simp only [endLine?_of_solid hc, hread, Option.bind_eq_bind, Option.bind_some,
    endLine?_lineEnd hend]

/-- A text of one line is read as its statement. -/
theorem linesOnto_single {statement : Statement} {lineEnd : List Char} {c : Char}
    (hend : IsLineEnd lineEnd) (hc : isSolid c = true)
    (hread : readStatement (c :: cs) = some (statement, lineEnd)) :
    linesOnto ((c :: cs).length + 1) [] (c :: cs) = some [statement] := by
  rw [← List.append_nil lineEnd] at hread
  rw [linesOnto_line hend hc hread]
  rfl

theorem linesOnto_nil (read : List Statement) : linesOnto (n + 1) read [] = some read.reverse :=
  rfl

end Toml

end ImageSwap
