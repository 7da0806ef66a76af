/-!
# Byte strings and their text

Paths, arguments and environment values are byte strings that need not be text. A byte string is
cut into characters and stretches that cannot be read; `decode?` refuses any such stretch, and
`lossy` shows each as one replacement character. `decode?` inverts `ofString` on both sides.
-/

namespace ImageSwap

/-- A string of bytes, with no promise that it is text. -/
abbrev Bytes := List UInt8

namespace Bytes

/-- The UTF-8 encoding of a text. -/
def ofString (s : String) : Bytes := s.toByteArray.data.toList

/-- The text that a byte string encodes, if it is UTF-8 throughout. -/
def decode? (bs : Bytes) : Option String := String.fromUTF8? ⟨bs.toArray⟩

@[simp] theorem decode?_ofString (s : String) : decode? (ofString s) = some s := by
  have h : (⟨(ofString s).toArray⟩ : ByteArray) = s.toByteArray := by simp [ofString]
  simp only [decode?, String.fromUTF8?, h, dif_pos s.isValidUTF8]
  rfl

theorem ofString_of_decode? {bs : Bytes} {s : String} (h : decode? bs = some s) :
    ofString s = bs := by
  simp only [decode?, String.fromUTF8?] at h
  split at h
  · simp only [Option.some.injEq] at h
    subst h
    exact List.toList_toArray
  · simp at h

/-- A text is encoded in one way only. -/
theorem ofString_injective {s t : String} (h : ofString s = ofString t) : s = t := by
  have := decode?_ofString s
  rw [h, decode?_ofString] at this
  exact (Option.some.inj this).symm

/-- Byte strings are texts throughout exactly when they encode them one by one. -/
theorem mapM_decode?_eq_some_iff {words : List Bytes} {texts : List String} :
    words.mapM decode? = some texts ↔ words = texts.map ofString := by
  induction words generalizing texts with
  | nil => simp [eq_comm]
  | cons word words ih =>
    rw [List.mapM_cons]
    constructor
    · intro h
      obtain ⟨text, htext, h⟩ := Option.bind_eq_some_iff.mp h
      obtain ⟨texts, htexts, h⟩ := Option.bind_eq_some_iff.mp h
      cases h
      rw [List.map_cons, ofString_of_decode? htext, ← ih.mp htexts]
    · intro h
      cases texts with
      | nil => cases h
      | cons text texts =>
        obtain ⟨rfl, hwords⟩ := List.cons.inj h
        rw [decode?_ofString, ih.mpr hwords]
        rfl

/-- Each byte as the character of the same number. -/
def toOctets (bs : Bytes) : List Char := bs.map fun b => Char.ofNat b.toNat

/-- Each character as the byte of the same number. -/
def ofOctets (cs : List Char) : Bytes := cs.map fun c => c.toNat.toUInt8

/-- The number of continuation bytes that a character's first byte asks for, and the range of the
first of them. -/
private def continuation (b : UInt8) : Option (Nat × UInt8 × UInt8) :=
  if 0xc2 ≤ b && b ≤ 0xdf then some (1, 0x80, 0xbf)
  else if b == 0xe0 then some (2, 0xa0, 0xbf)
  else if b == 0xed then some (2, 0x80, 0x9f)
  else if 0xe1 ≤ b && b ≤ 0xef then some (2, 0x80, 0xbf)
  else if b == 0xf0 then some (3, 0x90, 0xbf)
  else if 0xf1 ≤ b && b ≤ 0xf3 then some (3, 0x80, 0xbf)
  else if b == 0xf4 then some (3, 0x80, 0x8f)
  else none

/-- A character, or bytes that begin no character. -/
inductive Piece where
  | char (c : Char)
  | unreadable (bytes : Bytes)
  deriving DecidableEq, Repr

/-- The character that a piece is, if it is one. -/
def Piece.char? : Piece → Option Char
  | char c => some c
  | unreadable _ => none

/-- The longest run of at most `n` continuation bytes, the first of them between `lo` and `hi`. -/
private def takeContinuation : Nat → UInt8 → UInt8 → Bytes → Bytes
  | n + 1, lo, hi, b :: bs =>
    if lo ≤ b && b ≤ hi then b :: takeContinuation n 0x80 0xbf bs else []
  | _, _, _, _ => []

/-- The first piece of a byte string that begins with `b` and goes on with `bs`. -/
private def firstPiece (b : UInt8) (bs : Bytes) : Piece × Nat :=
  if b < 0x80 then (.char (Char.ofNat b.toNat), 0)
  else match continuation b with
    | none => (.unreadable [b], 0)
    | some (n, lo, hi) =>
      let more := takeContinuation n lo hi bs
      if more.length = n then
        let lead := b.toNat % Nat.pow 2 (6 - n)
        (.char (Char.ofNat (more.foldl (fun code m => code * 64 + m.toNat % 64) lead)), n)
      else (.unreadable (b :: more), more.length)

/-- The pieces of a byte string in order, put before those already read backwards. -/
private def piecesOnto (read : List Piece) : Bytes → List Piece
  | [] => read.reverse
  | b :: bs =>
    piecesOnto ((firstPiece b bs).1 :: read) (bs.drop (firstPiece b bs).2)
termination_by bs => bs.length
decreasing_by simp only [List.length_drop, List.length_cons]; omega

/-- The characters and unreadable stretches of a byte string, each stretch as long as some
character could still have begun with it. -/
def pieces (bs : Bytes) : List Piece := piecesOnto [] bs

/-- The characters of a byte string before the first stretch that cannot be read. -/
def readable (bs : Bytes) : List Char :=
  ((pieces bs).takeWhile (·.char?.isSome)).filterMap Piece.char?

/-- The text of a byte string, with one replacement character for each unreadable stretch. -/
def lossy (bs : Bytes) : String :=
  match decode? bs with
  | some s => s
  | none => String.ofList ((pieces bs).map fun
      | .char c => c
      | .unreadable _ => '\uFFFD')

@[simp] theorem lossy_ofString (s : String) : lossy (ofString s) = s := by
  simp [lossy]

private theorem pieces_nil : pieces [] = [] := by
  simp [pieces, piecesOnto]

private theorem piecesOnto_eq (read : List Piece) (bs : Bytes) :
    piecesOnto read bs = read.reverse ++ pieces bs := by
  induction hlength : bs.length using Nat.strongRecOn generalizing read bs with
  | ind length ih =>
    cases bs with
    | nil => simp [pieces, piecesOnto]
    | cons b bs =>
      have hshorter : (bs.drop (firstPiece b bs).2).length < length := by
        simp only [List.length_drop, List.length_cons] at hlength ⊢
        omega
      rw [pieces, piecesOnto, piecesOnto, ih _ hshorter _ _ rfl, ih _ hshorter [_] _ rfl]
      simp

private theorem pieces_cons (b : UInt8) (bs : Bytes) :
    pieces (b :: bs) = (firstPiece b bs).1 :: pieces (bs.drop (firstPiece b bs).2) := by
  rw [pieces, piecesOnto, piecesOnto_eq]
  rfl

private theorem pieces_of_lt {bs : Bytes} (h : ∀ b ∈ bs, b < 0x80) :
    pieces bs = (toOctets bs).map .char := by
  induction bs with
  | nil => simp [toOctets, pieces_nil]
  | cons b bs ih =>
    have hfirst : firstPiece b bs = (.char (Char.ofNat b.toNat), 0) := by
      rw [firstPiece, if_pos (h b List.mem_cons_self)]
    rw [pieces_cons, hfirst, List.drop_zero, ih fun b hb => h b (List.mem_cons_of_mem _ hb)]
    rfl

/-- There are no more pieces than bytes. -/
private theorem length_pieces_le (bs : Bytes) : (pieces bs).length ≤ bs.length := by
  induction hlength : bs.length using Nat.strongRecOn generalizing bs with
  | ind length ih =>
    cases bs with
    | nil => simp [pieces_nil]
    | cons b bs =>
      have hdrop := List.length_drop (i := (firstPiece b bs).2) (l := bs)
      rw [List.length_cons] at hlength
      have hrest := ih _ (by omega) (bs.drop (firstPiece b bs).2) rfl
      rw [pieces_cons, List.length_cons]
      omega

private theorem length_takeContinuation_le (n : Nat) (lo hi : UInt8) (bs : Bytes) :
    (takeContinuation n lo hi bs).length ≤ bs.length := by
  induction n generalizing lo hi bs with
  | zero => simp [takeContinuation]
  | succ n ih =>
    cases bs with
    | nil => simp [takeContinuation]
    | cons b bs =>
      rw [takeContinuation]
      split
      · simpa using ih 0x80 0xbf bs
      · simp

private theorem continuation_pos {b : UInt8} {n : Nat} {lo hi : UInt8}
    (h : continuation b = some (n, lo, hi)) : 0 < n := by
  simp only [continuation] at h
  repeat' split at h
  all_goals cases h
  all_goals decide

/-- A character takes a byte of its own number, or more than one byte. -/
private theorem firstPiece_char {b : UInt8} {bs : Bytes} {c : Char}
    (h : (firstPiece b bs).1 = .char c) :
    (firstPiece b bs).2 ≤ bs.length ∧
      ((firstPiece b bs).2 = 0 → c = Char.ofNat b.toNat) := by
  rw [firstPiece] at h ⊢
  by_cases hb : b < 0x80
  · rw [if_pos hb] at h ⊢
    cases h
    exact ⟨Nat.zero_le _, fun _ => rfl⟩
  · rw [if_neg hb] at h ⊢
    cases hcontinuation : continuation b with
    | none =>
      rw [hcontinuation] at h
      cases h
    | some found =>
      obtain ⟨n, lo, hi⟩ := found
      have hpos := continuation_pos hcontinuation
      have hle := length_takeContinuation_le n lo hi bs
      simp only [hcontinuation] at h ⊢
      by_cases hn : (takeContinuation n lo hi bs).length = n
      · rw [if_pos hn]
        exact ⟨by omega, fun hzero => by omega⟩
      · rw [if_neg hn] at h
        cases h

private theorem toUInt8_toNat_ofNat (b : UInt8) : (Char.ofNat b.toNat).toNat.toUInt8 = b := by
  have hb := b.toNat_lt
  have hvalid : b.toNat.isValidChar := Or.inl (by omega)
  have hchar : (Char.ofNat b.toNat).toNat = b.toNat := by
    rw [Char.ofNat, dif_pos hvalid]
    rfl
  rw [hchar]
  exact UInt8.ofNat_toNat

private theorem eq_ofOctets_of_pieces {bs : Bytes} {cs : List Char} (h : pieces bs = cs.map .char)
    (hlength : bs.length ≤ cs.length) : bs = ofOctets cs := by
  induction cs generalizing bs with
  | nil => exact List.eq_nil_of_length_eq_zero (Nat.le_zero.mp hlength)
  | cons c cs ih =>
    cases bs with
    | nil => simp [pieces_nil] at h
    | cons b bs =>
      rw [pieces_cons, List.map_cons, List.cons.injEq] at h
      obtain ⟨hfirst, hrest⟩ := h
      obtain ⟨hle, hzero⟩ := firstPiece_char hfirst
      have hcount := length_pieces_le (bs.drop (firstPiece b bs).2)
      rw [hrest, List.length_map, List.length_drop] at hcount
      simp only [List.length_cons] at hlength
      have hnone : (firstPiece b bs).2 = 0 := by omega
      obtain rfl := hzero hnone
      rw [hnone, List.drop_zero] at hrest
      rw [ih hrest (by omega), ofOctets, ofOctets, List.map_cons, toUInt8_toNat_ofNat]

private theorem exists_eq_append (ps : List Piece) :
    ∃ rest, ps = ((ps.takeWhile (·.char?.isSome)).filterMap Piece.char?).map .char ++ rest := by
  induction ps with
  | nil => exact ⟨[], rfl⟩
  | cons piece ps ih =>
    cases piece with
    | unreadable => exact ⟨_, rfl⟩
    | char c =>
      obtain ⟨rest, hrest⟩ := ih
      exact ⟨rest, congrArg (.char c :: ·) hrest⟩

/-- Bytes below the first that can begin a longer character are characters. -/
theorem readable_of_lt {bs : Bytes} (h : ∀ b ∈ bs, b < 0x80) : readable bs = toOctets bs := by
  rw [readable, pieces_of_lt h]
  induction toOctets bs with
  | nil => rfl
  | cons c cs ih => simpa [Piece.char?] using ih

/-- A byte string with as many readable characters as bytes holds the bytes of their numbers. -/
theorem eq_ofOctets_readable {bs : Bytes} (h : bs.length ≤ (readable bs).length) :
    bs = ofOctets (readable bs) := by
  obtain ⟨rest, hpieces⟩ := exists_eq_append (pieces bs)
  rw [← readable] at hpieces
  have hcount := length_pieces_le bs
  rw [hpieces, List.length_append, List.length_map] at hcount
  have hrest : rest = [] := List.eq_nil_of_length_eq_zero (by omega)
  rw [hrest, List.append_nil] at hpieces
  exact eq_ofOctets_of_pieces hpieces h

end Bytes

end ImageSwap
