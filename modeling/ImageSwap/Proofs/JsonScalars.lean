import ImageSwap.Json.Decoder
import ImageSwap.Json.Printer
import Mathlib.Tactic.Common

/-!
# Reading back written texts and numbers

A text is written between quotes with the quote, the backslash and the controls escaped, and is read
back as what was written. A whole number that fits into 64 bits is read back too, as long as nothing
follows that would go on with it.
-/

namespace ImageSwap.Json

variable {c : Char} {rest : List Char} {n : Nat}

/-- The four hexadecimal digits that a control is written with. -/
def controlDigits (n : Nat) : List Char :=
  (if n < 0x10 then ['0', '0', '0'] else ['0', '0']) ++ Text.hexDigits n

/-- A control's number is read as the control. -/
theorem unicodeEscape_controlDigits (rest : List Char) (hn : n < 0x20) :
    unicodeEscape (controlDigits n ++ rest) = .ok (Char.ofNat n, rest) := by
  have hcontrol : ∀ n < 0x20, (controlDigits n).length = 4 ∧ byteCount (controlDigits n) = 4 ∧
      Text.numberOfHex? (controlDigits n) = some n := by decide
  obtain ⟨hlength, hbytes, hvalue⟩ := hcontrol n hn
  have hquad : hexQuad (controlDigits n ++ rest) = .ok (n, rest) := by
    rw [hexQuad, List.take_left' hlength, List.drop_left' hlength, hbytes, hvalue]
    rfl
  have hhigh : ¬(0xd800 ≤ n ∧ n ≤ 0xdbff) := by omega
  have hlow : ¬(0xdc00 ≤ n ∧ n ≤ 0xdfff) := by omega
  simp only [unicodeEscape, hquad, bind, Except.bind, if_neg hlow, if_neg hhigh]

theorem textOnto_plain (read : List Char) (hquote : c ≠ '"') (hbackslash : c ≠ '\\')
    (hc : ¬c.toNat < 0x20) : textOnto (n + 1) read (c :: rest) = textOnto n (c :: read) rest := by
  rw [textOnto]
  · exact if_neg hc
  all_goals simp [hquote, hbackslash]

/-- A written character is read as the character. -/
theorem textOnto_escapeChar (n : Nat) (read : List Char) (c : Char) (rest : List Char) :
    textOnto (n + 1) read (escapeChar c ++ rest) = textOnto n (c :: read) rest := by
  have hcontrol (hc : c.toNat < 0x20) :
      textOnto (n + 1) read ('\\' :: 'u' :: (controlDigits c.toNat ++ rest)) =
        textOnto n (c :: read) rest := by
    have hread := unicodeEscape_controlDigits rest hc
    rw [Char.ofNat_toNat] at hread
    simp only [textOnto, hread, bind, Except.bind]
  unfold escapeChar
  split
  case h_8 hquote hbackslash _ _ _ _ _ =>
    split
    · next hc =>
      rw [controlDigits, if_pos hc] at hcontrol
      exact hcontrol (by omega)
    · next hc =>
      rw [controlDigits, if_neg hc] at hcontrol
      split
      · next hlow => exact hcontrol hlow
      · next hplain => exact textOnto_plain read hquote hbackslash hplain
  all_goals rfl

/-- Written characters are read up to the quote that ends them. -/
theorem textOnto_flatMap (read cs rest : List Char) (hn : cs.length < n) :
    textOnto n read (cs.flatMap escapeChar ++ '"' :: rest) =
      .ok (String.ofList (read.reverse ++ cs), rest) := by
  induction cs generalizing read n with
  | nil =>
    obtain ⟨n, rfl⟩ := Nat.exists_eq_add_of_lt hn
    simp [textOnto]
  | cons c cs ih =>
    obtain ⟨n, rfl⟩ := Nat.exists_eq_add_of_lt hn
    rw [List.flatMap_cons, List.append_assoc, textOnto_escapeChar, ih]
    · simp
    · simp
      omega

theorem escapeChar_ne_nil (c : Char) : escapeChar c ≠ [] := by
  unfold escapeChar
  split
  case h_8 =>
    split
    · simp
    · split <;> simp
  all_goals simp

theorem length_le_flatMap_escapeChar (cs : List Char) :
    cs.length ≤ (cs.flatMap escapeChar).length := by
  induction cs with
  | nil => simp
  | cons c cs ih =>
    have hpos := List.length_pos_iff.mpr (escapeChar_ne_nil c)
    rw [List.flatMap_cons, List.length_append, List.length_cons]
    omega

/-- A written text is read as the text. -/
theorem readText_flatMap (text : String) (rest : List Char) :
    readText (text.toList.flatMap escapeChar ++ '"' :: rest) = .ok (text, rest) := by
  have hlength := length_le_flatMap_escapeChar text.toList
  rw [readText, textOnto_flatMap]
  · simp
  · simp only [List.length_append, List.length_cons]
    omega

/-- Nothing that would go on with a number. -/
def EndsNumber (rest : List Char) : Prop :=
  ∀ c ∈ rest.head?, c.isDigit = false ∧ c ≠ '.' ∧ c ≠ 'e' ∧ c ≠ 'E'

theorem Scaled.valueOf_digitChar {d : Nat} (hd : d < 10) : valueOf (Nat.digitChar d) = d := by
  have hvalue : ∀ d < 10, valueOf (Nat.digitChar d) = d := by decide
  exact hvalue d hd

/-- Every digit of a number that is read exactly has room. -/
theorem Scaled.ofWhole_toDigits (hn : n ≤ greatestWhole) :
    ofWhole (Nat.toDigits 10 n) = ({ digits := n }, true) := by
  induction n using Nat.strongRecOn with
  | ind n ih =>
    by_cases hsmall : n < 10
    · rw [Nat.toDigits_of_lt_base hsmall]
      simp [ofWhole, hasRoom, valueOf_digitChar hsmall, hn]
    · have hlast := valueOf_digitChar (Nat.mod_lt n (by decide : 10 > 0))
      have hsplit : n / 10 * 10 + n % 10 = n := Nat.div_add_mod' n 10
      have hread := ih (n / 10) (by omega) (by omega)
      rw [ofWhole] at hread ⊢
      rw [Nat.toDigits_of_base_le (by decide) (by omega), List.foldl_append, hread]
      simp [hasRoom, hlast, hsplit, hn]

theorem isDigit_of_mem_toDigits : ∀ c ∈ Nat.toDigits 10 n, c.isDigit = true :=
  fun _ hc => Nat.isDigit_of_mem_toDigits (b := 10) (by decide) (by decide) hc

/-- A number begins with a digit, and a positive number with no zero. -/
theorem toDigits_eq_cons (n : Nat) :
    ∃ d ds, Nat.toDigits 10 n = d :: ds ∧ d.isDigit = true ∧ (0 < n → d ≠ '0') := by
  induction n using Nat.strongRecOn with
  | ind n ih =>
    by_cases hsmall : n < 10
    · have hdigit : ∀ n < 10, (Nat.digitChar n).isDigit = true ∧
          (0 < n → Nat.digitChar n ≠ '0') := by decide
      exact ⟨_, [], Nat.toDigits_of_lt_base hsmall, hdigit n hsmall⟩
    · obtain ⟨d, ds, hds, hd, hpos⟩ := ih (n / 10) (by omega)
      refine ⟨d, ds ++ [Nat.digitChar (n % 10)], ?_, hd, fun _ => hpos (by omega)⟩
      rw [Nat.toDigits_of_base_le (by decide) (by omega), hds, List.cons_append]

/-- The digits of a number are read up to what is no digit. -/
theorem digits1_toDigits (n : Nat) (hrest : ∀ c ∈ rest.head?, c.isDigit = false) :
    digits1 (Nat.toDigits 10 n ++ rest) = .ok (Nat.toDigits 10 n, rest) := by
  have htake : (Nat.toDigits 10 n ++ rest).takeWhile Char.isDigit = Nat.toDigits 10 n := by
    rw [List.takeWhile_append_of_pos isDigit_of_mem_toDigits]
    cases rest with
    | nil => simp
    | cons c rest => simp [hrest c rfl]
  have hdrop : (Nat.toDigits 10 n ++ rest).dropWhile Char.isDigit = rest := by
    rw [List.dropWhile_append_of_pos isDigit_of_mem_toDigits]
    cases rest with
    | nil => rfl
    | cons c rest => simp [hrest c rfl]
  obtain ⟨d, ds, hds, hd, -⟩ := toDigits_eq_cons n
  rw [hds] at htake hdrop ⊢
  rw [List.cons_append] at htake hdrop ⊢
  rw [digits1, if_pos hd, htake, hdrop]

theorem integerDigits_toDigits (n : Nat) (hrest : ∀ c ∈ rest.head?, c.isDigit = false) :
    integerDigits (Nat.toDigits 10 n ++ rest) = .ok (Nat.toDigits 10 n, rest) := by
  by_cases hn : n = 0
  · subst hn
    cases rest with
    | nil => rfl
    | cons c rest => exact if_neg (by simp [hrest c rfl])
  · obtain ⟨d, ds, hds, -, hpos⟩ := toDigits_eq_cons n
    rw [integerDigits]
    · exact digits1_toDigits n hrest
    · rintro c more h
      rw [hds] at h
      exact hpos (Nat.pos_of_ne_zero hn) (List.cons.inj h).1

/-- The digits of a number are read as the number, with a sign if it has one. -/
theorem unsigned_toDigits {negative : Bool} (hn : n ≤ greatestWhole)
    (hnegative : negative = true → 0 < n ∧ Int64.minValue.toInt ≤ -n) (hrest : EndsNumber rest) :
    unsigned negative (Nat.toDigits 10 n ++ rest) =
      .ok (int (if negative then -n else n), rest) := by
  have hvalue : ofWhole? negative (Nat.toDigits 10 n) =
      some (int (if negative then -n else n)) := by
    simp only [ofWhole?, Scaled.ofWhole_toDigits hn]
    cases negative with
    | false => rfl
    | true => exact if_pos (hnegative rfl)
  rw [unsigned, integerDigits_toDigits n fun c hc => (hrest c hc).1]
  simp only [bind, Except.bind]
  split
  · exact absurd rfl (hrest _ rfl).2.1
  · exact absurd rfl (hrest _ rfl).2.2.1
  · exact absurd rfl (hrest _ rfl).2.2.2
  · rw [hvalue]

theorem greatestWhole_eq : greatestWhole = 18446744073709551615 := rfl

/-- The whole numbers that are read exactly: those that fit into 64 bits with a sign or without. -/
def Whole (n : Int) : Prop := Int64.minValue.toInt ≤ n ∧ n < UInt64.size

theorem whole_iff {n : Int} :
    Whole n ↔ -9223372036854775808 ≤ n ∧ n < 18446744073709551616 := Iff.rfl

@[simp] theorem whole_toNat (n : UInt8) : Whole n.toNat := by
  have hn := n.toNat_lt
  rw [whole_iff]
  omega

theorem toList_toString_negSucc (n : Nat) :
    (toString (Int.negSucc n)).toList = '-' :: Nat.toDigits 10 (n + 1) :=
  (String.toList_append ..).trans (congrArg _ Nat.toList_repr)

/-- A written number begins with a digit or a minus. -/
theorem toString_eq_cons (n : Int) :
    ∃ c cs, (toString n).toList = c :: cs ∧ (c == '-' || c.isDigit) = true := by
  cases n with
  | ofNat n =>
    obtain ⟨d, ds, hds, hd, -⟩ := toDigits_eq_cons n
    exact ⟨d, ds, Nat.toList_repr.trans hds, by simp [hd]⟩
  | negSucc n => exact ⟨'-', _, toList_toString_negSucc n, rfl⟩

/-- A written number is read as the number. -/
theorem readNumber_toString {n : Int} (hn : Whole n) (hrest : EndsNumber rest) :
    readNumber ((toString n).toList ++ rest) = .ok (int n, rest) := by
  obtain ⟨hlow, hhigh⟩ := whole_iff.mp hn
  cases n with
  | ofNat n =>
    have hdigits : (toString (Int.ofNat n)).toList = Nat.toDigits 10 n := Nat.toList_repr
    rw [Int.ofNat_eq_natCast] at hhigh
    have hread : unsigned false (Nat.toDigits 10 n ++ rest) = .ok (int n, rest) :=
      unsigned_toDigits (by rw [greatestWhole_eq]; omega) nofun hrest
    rw [hdigits, readNumber]
    · exact hread
    · rintro more h
      obtain ⟨d, ds, hds, hd, -⟩ := toDigits_eq_cons n
      rw [hds] at h
      rw [(List.cons.inj h).1] at hd
      cases hd
  | negSucc n =>
    have hread : unsigned true (Nat.toDigits 10 (n + 1) ++ rest) =
        .ok (int (Int.negSucc n), rest) :=
      unsigned_toDigits (by rw [greatestWhole_eq]; omega) (fun _ => ⟨by omega, hn.1⟩) hrest
    rw [toList_toString_negSucc, List.cons_append, readNumber]
    exact hread

end ImageSwap.Json
