import ImageSwap.Proofs.JsonScalars
import ImageSwap.Output

/-!
# The two forms of a document

The two forms of a value differ only in the blanks between their parts: both come of one form that
takes its blanks from a layout. The compact form stays on one line, since texts have their line
breaks escaped.
-/

namespace ImageSwap.Json

/-- The values that hold only numbers that are read exactly, and that are nested at most so deep. -/
inductive FitsIn : Nat → Json → Prop where
  | null {depth : Nat} : FitsIn depth null
  | bool {depth : Nat} {b : Bool} : FitsIn depth (bool b)
  | int {depth : Nat} {n : Int} (h : Whole n) : FitsIn depth (int n)
  | str {depth : Nat} {s : String} : FitsIn depth (str s)
  | arr {depth : Nat} {elements : List Json} (h : ∀ v ∈ elements, FitsIn depth v) :
    FitsIn (depth + 1) (arr elements)
  | obj {depth : Nat} {members : List (String × Json)} (h : ∀ m ∈ members, FitsIn depth m.2) :
    FitsIn (depth + 1) (obj members)

attribute [simp] FitsIn.null FitsIn.bool FitsIn.str

@[simp] theorem fitsIn_int_iff {depth : Nat} {n : Int} : FitsIn depth (int n) ↔ Whole n :=
  ⟨fun | .int h => h, .int⟩

@[simp] theorem fitsIn_arr_iff {depth : Nat} {elements : List Json} :
    FitsIn (depth + 1) (arr elements) ↔ ∀ v ∈ elements, FitsIn depth v :=
  ⟨fun | .arr h => h, .arr⟩

@[simp] theorem fitsIn_obj_iff {depth : Nat} {members : List (String × Json)} :
    FitsIn (depth + 1) (obj members) ↔ ∀ m ∈ members, FitsIn depth m.2 :=
  ⟨fun | .obj h => h, .obj⟩

@[simp] theorem fitsIn_str? (depth : Nat) (s : Option String) : FitsIn depth (str? s) := by
  cases s <;> simp [str?]

/-- Whether a character is one that may stand between the parts of a document. -/
def isBlank (c : Char) : Bool := c == ' ' || c == '\n' || c == '\t' || c == '\r'

/-- The blanks that a form of documents puts between their parts. -/
structure Layout where
  /-- What stands before an element, a member or a closing bracket on a level. -/
  gap : Nat → List Char
  /-- What stands between a colon and the value after it. -/
  afterColon : List Char
  isBlank_gap : ∀ level, (gap level).all isBlank
  isBlank_afterColon : afterColon.all isBlank

namespace Layout

/-- Everything on one line. -/
def line : Layout where
  gap _ := []
  afterColon := []
  isBlank_gap _ := rfl
  isBlank_afterColon := rfl

/-- Every part on its own line. -/
def block : Layout where
  gap := newline
  afterColon := [' ']
  isBlank_gap level := by simp [newline, isBlank]
  isBlank_afterColon := rfl

end Layout

mutual
/-- The form of a value with the blanks of a layout. -/
def laidOut (l : Layout) (level : Nat) : Json → List Char
  | arr [] => ['[', ']']
  | arr (v :: vs) =>
    '[' :: l.gap (level + 1) ++ laidOut l (level + 1) v ++ laidOutElements l level vs
  | obj [] => ['\x7b', '\x7d']
  | obj ((name, v) :: rest) =>
    '\x7b' :: l.gap (level + 1) ++ textChars name ++ ':' :: l.afterColon ++
      laidOut l (level + 1) v ++ laidOutMembers l level rest
  | v => scalarChars v

/-- The elements that follow the first, with the bracket that closes them. -/
def laidOutElements (l : Layout) (level : Nat) : List Json → List Char
  | [] => l.gap level ++ [']']
  | v :: vs => ',' :: l.gap (level + 1) ++ laidOut l (level + 1) v ++ laidOutElements l level vs

/-- The members that follow the first, with the brace that closes them. -/
def laidOutMembers (l : Layout) (level : Nat) : List (String × Json) → List Char
  | [] => l.gap level ++ ['\x7d']
  | (name, v) :: rest =>
    ',' :: l.gap (level + 1) ++ textChars name ++ ':' :: l.afterColon ++
      laidOut l (level + 1) v ++ laidOutMembers l level rest
end

mutual
theorem laidOut_line (level : Nat) : ∀ v, laidOut .line level v = compactChars v
  | arr [] => by simp [laidOut, compactChars]
  | arr (v :: vs) => by
    simp [laidOut, compactChars, Layout.line, ← laidOut_line (level + 1) v,
      ← laidOutElements_line level vs]
  | obj [] => by simp [laidOut, compactChars]
  | obj ((name, v) :: rest) => by
    simp [laidOut, compactChars, Layout.line, ← laidOut_line (level + 1) v,
      ← laidOutMembers_line level rest]
  | null | bool _ | int _ | real _ | str _ => by simp [laidOut, compactChars]

theorem laidOutElements_line (level : Nat) :
    ∀ vs, laidOutElements .line level vs = compactElements vs
  | [] => by simp [laidOutElements, compactElements, Layout.line]
  | v :: vs => by
    simp [laidOutElements, compactElements, Layout.line, ← laidOut_line (level + 1) v,
      ← laidOutElements_line level vs]

theorem laidOutMembers_line (level : Nat) :
    ∀ members, laidOutMembers .line level members = compactMembers members
  | [] => by simp [laidOutMembers, compactMembers, Layout.line]
  | (name, v) :: rest => by
    simp [laidOutMembers, compactMembers, Layout.line, ← laidOut_line (level + 1) v,
      ← laidOutMembers_line level rest]
end

mutual
theorem laidOut_block (level : Nat) : ∀ v, laidOut .block level v = indentedChars level v
  | arr [] => by simp [laidOut, indentedChars]
  | arr (v :: vs) => by
    simp [laidOut, indentedChars, Layout.block, ← laidOut_block (level + 1) v,
      ← laidOutElements_block level vs]
  | obj [] => by simp [laidOut, indentedChars]
  | obj ((name, v) :: rest) => by
    simp [laidOut, indentedChars, Layout.block, ← laidOut_block (level + 1) v,
      ← laidOutMembers_block level rest]
  | null | bool _ | int _ | real _ | str _ => by simp [laidOut, indentedChars]

theorem laidOutElements_block (level : Nat) :
    ∀ vs, laidOutElements .block level vs = indentedElements level vs
  | [] => by simp [laidOutElements, indentedElements, Layout.block]
  | v :: vs => by
    simp [laidOutElements, indentedElements, Layout.block, ← laidOut_block (level + 1) v,
      ← laidOutElements_block level vs]

theorem laidOutMembers_block (level : Nat) :
    ∀ members, laidOutMembers .block level members = indentedMembers level members
  | [] => by simp [laidOutMembers, indentedMembers, Layout.block]
  | (name, v) :: rest => by
    simp [laidOutMembers, indentedMembers, Layout.block, ← laidOut_block (level + 1) v,
      ← laidOutMembers_block level rest]
end

variable {depth : Nat} {v : Json}

theorem newline_notMem_escapeChar (c : Char) : '\n' ∉ escapeChar c := by
  have hdigits : ∀ n < 0x20, '\n' ∉ Text.hexDigits n := by decide
  unfold escapeChar
  split
  case h_8 hnewline _ _ =>
    split
    · next hc => simpa using hdigits c.toNat (by omega)
    · split
      · next hc => simpa using hdigits c.toNat hc
      · simpa using Ne.symm hnewline
  all_goals decide

theorem newline_notMem_textChars (s : String) : '\n' ∉ textChars s := by
  simp [textChars, newline_notMem_escapeChar]

theorem newline_notMem_toString (n : Int) : '\n' ∉ (toString n).toList := by
  have hdigits (n : Nat) : '\n' ∉ Nat.toDigits 10 n :=
    fun h => absurd (isDigit_of_mem_toDigits _ h) (by decide)
  cases n with
  | ofNat n => exact fun h => hdigits n (Nat.toList_repr ▸ h)
  | negSucc n =>
    rw [toList_toString_negSucc]
    simp [hdigits]

/-- The compact form of a value stays on one line. -/
theorem newline_notMem_compactChars (h : FitsIn depth v) : '\n' ∉ compactChars v := by
  have helements {vs : List Json} (h : ∀ v ∈ vs, '\n' ∉ compactChars v) :
      '\n' ∉ compactElements vs := by
    induction vs with
    | nil => simp [compactElements]
    | cons v vs ih =>
      obtain ⟨hv, hvs⟩ := List.forall_mem_cons.mp h
      simp [compactElements, hv, ih hvs]
  have hmembers {ms : List (String × Json)} (h : ∀ m ∈ ms, '\n' ∉ compactChars m.2) :
      '\n' ∉ compactMembers ms := by
    induction ms with
    | nil => simp [compactMembers]
    | cons m ms ih =>
      obtain ⟨hm, hms⟩ := List.forall_mem_cons.mp h
      simp [compactMembers, newline_notMem_textChars, hm, ih hms]
  induction h with
  | null => simp [compactChars, scalarChars]
  | @bool _ b => cases b <;> simp [compactChars, scalarChars]
  | int => simpa [compactChars, scalarChars] using newline_notMem_toString _
  | str => simpa [compactChars, scalarChars] using newline_notMem_textChars _
  | @arr _ elements _ ih =>
    cases elements with
    | nil => simp [compactChars]
    | cons v vs =>
      obtain ⟨hv, hvs⟩ := List.forall_mem_cons.mp ih
      simp [compactChars, hv, helements hvs]
  | @obj _ members _ ih =>
    cases members with
    | nil => simp [compactChars]
    | cons m ms =>
      obtain ⟨hm, hms⟩ := List.forall_mem_cons.mp ih
      simp [compactChars, newline_notMem_textChars, hm, hmembers hms]

/-! ## Sorted members -/

theorem sortedElements_eq_map (vs : List Json) : sortedElements vs = vs.map sorted := by
  induction vs with
  | nil => rw [sortedElements, List.map_nil]
  | cons v vs ih => rw [sortedElements, ih, List.map_cons]

theorem sortedMembers_eq_map (ms : List (String × Json)) :
    sortedMembers ms = ms.map fun m => (m.1, m.2.sorted) := by
  induction ms with
  | nil => rw [sortedMembers, List.map_nil]
  | cons m ms ih => rw [sortedMembers, ih, List.map_cons]

theorem mem_sortMembers {m : String × Json} {ms : List (String × Json)} :
    m ∈ sortMembers ms ↔ m ∈ ms := List.mem_mergeSort

theorem FitsIn.sorted (h : FitsIn depth v) : FitsIn depth v.sorted := by
  induction h with
  | null => exact .null
  | bool => exact .bool
  | int hn => exact .int hn
  | str => exact .str
  | arr _ ih =>
    rw [Json.sorted, sortedElements_eq_map]
    exact .arr (by simpa using ih)
  | obj _ ih =>
    rw [Json.sorted, sortedMembers_eq_map]
    refine .obj fun m hm => ?_
    obtain ⟨m, hmem, rfl⟩ := List.mem_map.mp (mem_sortMembers.mp hm)
    exact ih m hmem

end ImageSwap.Json
