import ImageSwap.Toml.Document
import Mathlib.Tactic.Common

/-!
# Reading back written strings

A text is written between double quotes, with a backslash before quotes and backslashes and with
controls by their numbers; texts are written in a row between brackets. Each is read back as what
was written, whatever follows that does not begin with another quote.
-/

namespace ImageSwap.Toml

/-- The four hexadecimal digits of a number that has no more, with letters of either case. -/
def fourDigits (upper : Bool) (n : Nat) : List Char :=
  let digits := (Text.hexDigits n).map fun d => if upper then d.toUpper else d
  List.replicate (4 - digits.length) '0' ++ digits

/-- The form of a character inside a string. -/
def writeChar (upper : Bool) (c : Char) : List Char :=
  if c = '"' ∨ c = '\\' then ['\\', c]
  else if c.toNat < 0x20 ∨ c.toNat = 0x7f then '\\' :: 'u' :: fourDigits upper c.toNat
  else [c]

/-- The form of a text as a string. -/
def writeString (upper : Bool) (text : String) : List Char :=
  '"' :: text.toList.flatMap (writeChar upper) ++ ['"']

/-- The forms of texts as strings with commas between them. -/
def writeRow (upper : Bool) (texts : List String) : List Char :=
  List.intercalate [',', ' '] (texts.map (writeString upper))

/-- The form of texts as an array of strings. -/
def writeStrings (upper : Bool) (texts : List String) : List Char :=
  '[' :: writeRow upper texts ++ [']']

variable {upper : Bool} {cs rest : List Char} {n : Nat}

/-- A control's number is read as the control. -/
theorem readEscape_fourDigits (upper : Bool) (rest : List Char) (hn : n < 0x20 ∨ n = 0x7f) :
    readEscape ('u' :: fourDigits upper n ++ rest) = some (Char.ofNat n, rest) := by
  have hlow : ∀ upper, ∀ n < 0x20, (fourDigits upper n).length = 4 ∧
      Text.charOfHex? (fourDigits upper n) = some (Char.ofNat n) := by decide
  have hhigh : ∀ upper, (fourDigits upper 0x7f).length = 4 ∧
      Text.charOfHex? (fourDigits upper 0x7f) = some (Char.ofNat 0x7f) := by decide
  obtain ⟨hlength, hchar⟩ : (fourDigits upper n).length = 4 ∧
      Text.charOfHex? (fourDigits upper n) = some (Char.ofNat n) := by
    rcases hn with hn | rfl
    · exact hlow upper n hn
    · exact hhigh upper
  have hlong : 4 ≤ (fourDigits upper n ++ rest).length := by simp [hlength]
  rw [List.cons_append, readEscape, if_pos hlong, List.take_left' hlength,
    List.drop_left' hlength, hchar]
  rfl

theorem basicOnto_backslash {read : List Char} {c : Char} (h : readEscape cs = some (c, rest)) :
    basicOnto read ('\\' :: cs) = basicOnto (c :: read) rest := by
  rw [basicOnto]
  split
  · next hread =>
    rw [h] at hread
    cases hread
    rfl
  · next hread =>
    rw [h] at hread
    cases hread

/-- A written character is read as the character. -/
theorem basicOnto_writeChar (read : List Char) (c : Char) :
    basicOnto read (writeChar upper c ++ rest) = basicOnto (c :: read) rest := by
  unfold writeChar
  split
  · next hc =>
    refine basicOnto_backslash ?_
    rcases hc with rfl | rfl <;> rfl
  · next hc =>
    simp only [not_or] at hc
    split
    · next hcontrol =>
      have hread := readEscape_fourDigits upper rest hcontrol
      rw [Char.ofNat_toNat] at hread
      exact basicOnto_backslash hread
    · next hplain =>
      have hisPlain : isPlain c = true := by
        simp only [isPlain, Bool.or_eq_true, Bool.and_eq_true, decide_eq_true_eq, bne_iff_ne]
        omega
      rw [List.singleton_append, basicOnto]
      · simp only [hisPlain, if_true]
      · exact hc.1
      · exact hc.2

/-- Written characters are read up to the quote that ends them. -/
theorem basicOnto_flatMap (upper : Bool) (read cs rest : List Char) :
    basicOnto read (cs.flatMap (writeChar upper) ++ '"' :: rest) =
      some (String.ofList (read.reverse ++ cs), rest) := by
  induction cs generalizing read with
  | nil => simp [basicOnto]
  | cons c cs ih =>
    rw [List.flatMap_cons, List.append_assoc, basicOnto_writeChar, ih]
    simp

/-- What a written character begins with is no quote. -/
theorem writeChar_eq_cons (upper : Bool) (c : Char) :
    ∃ first more, writeChar upper c = first :: more ∧ first ≠ '"' := by
  unfold writeChar
  split
  · exact ⟨_, _, rfl, by decide⟩
  · next hc =>
    split
    · exact ⟨_, _, rfl, by decide⟩
    · exact ⟨_, _, rfl, fun h => hc (.inl h)⟩

/-- A written string is read as its text. -/
theorem readString_writeString (text : String) (hrest : rest.head? ≠ some '"') :
    readString (writeString upper text ++ rest) = some (text, rest) := by
  have hread := basicOnto_flatMap upper [] text.toList rest
  rw [List.reverse_nil, List.nil_append, String.ofList_toList] at hread
  simp only [writeString, List.cons_append, List.append_assoc, List.nil_append]
  rw [readString, hread]
  -- Three quotes would begin a string of several lines.
  rintro more hmore
  cases htext : text.toList with
  | nil =>
    rw [htext, List.flatMap_nil, List.nil_append, List.cons.injEq] at hmore
    exact hrest (by rw [hmore.2]; rfl)
  | cons c cs =>
    obtain ⟨first, rest', hfirst, hne⟩ := writeChar_eq_cons upper c
    rw [htext, List.flatMap_cons, hfirst] at hmore
    exact hne (List.cons.inj hmore).1

/-- A value that begins with a double quote is a string. -/
theorem readValue_of_quote (depth : Nat) {text : String}
    (h : readString ('"' :: cs) = some (text, rest)) :
    readValue depth ('"' :: cs) = some (.string text, rest) := by
  have hscalar : readScalar ('"' :: cs) = some (.string text, rest) := by
    simp [readScalar, h]
  rw [← hscalar]
  cases depth <;> rfl

theorem readValue_writeString (depth : Nat) (text : String) (hrest : rest.head? ≠ some '"') :
    readValue depth (writeString upper text ++ rest) = some (.string text, rest) :=
  readValue_of_quote depth (readString_writeString text hrest)

/-! ### Arrays of strings -/

/-- Whether a character is neither a blank nor begins a comment or a line end. -/
def isSolid (c : Char) : Bool := !isBlank c && c != '#' && c != '\n' && c != '\r'

theorem afterNewline?_of_solid {c : Char} (h : isSolid c = true) :
    afterNewline? (c :: cs) = none := by
  simp only [isSolid, Bool.and_eq_true, bne_iff_ne] at h
  simp [afterNewline?, h.1.2, h.2]

theorem skipGaps_of_solid {c : Char} (h : isSolid c = true) : skipGaps (c :: cs) = c :: cs := by
  have hnewline : afterNewline? (c :: cs) = none := afterNewline?_of_solid h
  simp only [isSolid, Bool.and_eq_true, bne_iff_ne, Bool.not_eq_true'] at h
  rw [skipGaps]
  simp only [h.1.1.1, Bool.false_eq_true, if_false, beq_iff_eq, if_neg h.1.1.2]
  split
  · next next hnext =>
    rw [hnewline] at hnext
    cases hnext
  · rfl

theorem skipGaps_blank : skipGaps (' ' :: cs) = skipGaps cs := by
  rw [skipGaps]
  rfl

section Elements

variable {item : Reader (Option Span × Value)} {read : List (Option Span × Value)}
  {element : Option Span × Value} {after : List Char}

theorem elementsOnto_blank (hn : 0 < n) :
    elementsOnto item n read (' ' :: cs) = elementsOnto item n read cs := by
  obtain ⟨n, rfl⟩ := Nat.exists_eq_succ_of_ne_zero (Nat.ne_of_gt hn)
  rw [elementsOnto, elementsOnto, skipGaps_blank]

theorem elementsOnto_bracket : elementsOnto item (n + 1) read (']' :: rest) =
    some (read.reverse, rest) := by
  rw [elementsOnto, skipGaps_of_solid (by decide)]
  rfl

/-- An element is read, and what follows it tells whether there are more. -/
theorem elementsOnto_item (hitem : item ('"' :: cs) = some (element, after)) :
    elementsOnto item (n + 1) read ('"' :: cs) =
      match skipGaps after with
      | ',' :: rest => elementsOnto item n (element :: read) rest
      | ']' :: rest => some ((element :: read).reverse, rest)
      | _ => none := by
  rw [elementsOnto, skipGaps_of_solid (by decide)]
  split
  · next h => cases h
  · rw [hitem]
    rfl

theorem elementsOnto_last (hitem : item ('"' :: cs) = some (element, ']' :: rest)) :
    elementsOnto item (n + 1) read ('"' :: cs) = some ((element :: read).reverse, rest) := by
  rw [elementsOnto_item hitem, skipGaps_of_solid (by decide)]
  rfl

theorem elementsOnto_more (hitem : item ('"' :: cs) = some (element, ',' :: ' ' :: rest))
    (hn : 0 < n) :
    elementsOnto item (n + 1) read ('"' :: cs) = elementsOnto item n (element :: read) rest := by
  rw [elementsOnto_item hitem, skipGaps_of_solid (by decide)]
  exact elementsOnto_blank hn

/-- The elements of an array of strings are read back one by one. -/
theorem elementsOnto_writeRow (read : List (Option Span × Value)) (texts : List String)
    (hitem : ∀ (text : String) (rest : List Char), rest.head? ≠ some '"' →
      ∃ own, item (writeString upper text ++ rest) = some ((own, .string text), rest))
    (hn : (writeRow upper texts).length < n) :
    ∃ elements, elements.map (·.2) = texts.map Value.string ∧
      elementsOnto item n read (writeRow upper texts ++ ']' :: rest) =
        some (read.reverse ++ elements, rest) := by
  obtain ⟨n, rfl⟩ := Nat.exists_eq_succ_of_ne_zero (Nat.ne_of_gt (Nat.zero_lt_of_lt hn))
  induction texts generalizing read n with
  | nil => exact ⟨[], rfl, by rw [List.append_nil]; exact elementsOnto_bracket⟩
  | cons text texts ih =>
    rcases texts with _ | ⟨next, texts⟩
    · obtain ⟨own, hread⟩ := hitem text (']' :: rest) (by simp)
      refine ⟨[(own, .string text)], rfl, ?_⟩
      rw [writeRow, List.map_singleton, List.intercalate_singleton, ← List.reverse_cons]
      exact elementsOnto_last hread
    · have hrow : writeRow upper (text :: next :: texts) =
          writeString upper text ++ [',', ' '] ++ writeRow upper (next :: texts) :=
        List.intercalate_cons_cons
      rw [hrow] at hn ⊢
      obtain ⟨own, hread⟩ := hitem text
        (',' :: ' ' :: (writeRow upper (next :: texts) ++ ']' :: rest)) (by simp)
      have hlength : (writeRow upper (next :: texts)).length < n := by
        simp only [List.length_append, List.length_cons] at hn
        omega
      obtain ⟨n, rfl⟩ := Nat.exists_eq_succ_of_ne_zero (Nat.ne_of_gt (Nat.zero_lt_of_lt hlength))
      obtain ⟨elements, hsame, helements⟩ := ih ((own, .string text) :: read) n hlength
      refine ⟨(own, .string text) :: elements, by rw [List.map_cons, hsame]; rfl, ?_⟩
      have hmore : elementsOnto item (n + 1 + 1) read (writeString upper text ++
          ',' :: ' ' :: (writeRow upper (next :: texts) ++ ']' :: rest)) =
            some (((own, .string text) :: read).reverse ++ elements, rest) :=
        (elementsOnto_more hread (Nat.succ_pos n)).trans helements
      rw [List.reverse_cons, List.append_assoc] at hmore
      rw [List.append_assoc, List.append_assoc]
      exact hmore

end Elements

/-- A written array of strings is read as an array of their texts. -/
theorem readValue_writeStrings (upper : Bool) (rest : List Char) (depth : Nat)
    (texts : List String) :
    ∃ elements, elements.map (·.2) = texts.map Value.string ∧
      readValue (depth + 1) (writeStrings upper texts ++ rest) =
        some (.array .inline elements, rest) := by
  let item : Reader (Option Span × Value) := fun cs =>
    (Reader.spanned (readValue depth) cs).bind fun read =>
      some ((some read.1.1, read.1.2), read.2)
  have hitem : ∀ (text : String) (rest : List Char), rest.head? ≠ some '"' →
      ∃ own, item (writeString upper text ++ rest) = some ((own, .string text), rest) := by
    intro text rest hrest
    refine ⟨some ⟨writeString upper text ++ rest, rest⟩, ?_⟩
    simp [item, Reader.spanned, readValue_writeString depth text hrest]
  have hlength : (writeRow upper texts).length <
      (writeRow upper texts ++ ']' :: rest).length + 1 := by
    simp only [List.length_append]
    omega
  obtain ⟨elements, hsame, helements⟩ := elementsOnto_writeRow [] texts hitem hlength
  refine ⟨elements, hsame, ?_⟩
  simp only [writeStrings, List.cons_append, List.append_assoc, List.nil_append]
  have hread (cs : List Char) : readValue (depth + 1) ('[' :: cs) =
      (elementsOnto item (cs.length + 1) [] cs).bind fun read =>
        some (.array .inline read.1, read.2) := by
    rw [readValue]
    rfl
  rw [hread, helements]
  rfl

end ImageSwap.Toml
