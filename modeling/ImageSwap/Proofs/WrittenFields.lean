import ImageSwap.Proofs.ConfigSchema
import ImageSwap.Proofs.WrittenStatements

/-!
# Reading back the fields of a request

The table `exec` has two fields. Each is written as a bare name with its value, read back as an
assignment of that value, collected into the members of the table, and from there sets its part of
the request.
-/

namespace ImageSwap.Config

open Toml

/-- A field of the table `exec`. -/
inductive Field where
  | program (text : String)
  | args (texts : List String)
  deriving DecidableEq, Repr

namespace Field

/-- The name of a field. -/
def name : Field → String
  | program _ => "program"
  | args _ => "args"

/-- The form of a field's value. -/
def writeValue (upper : Bool) : Field → List Char
  | program text => writeString upper text
  | args texts => writeStrings upper texts

/-- The form of a field. -/
def write (upper : Bool) (f : Field) : List Char :=
  f.name.toList ++ ' ' :: '=' :: ' ' :: f.writeValue upper

/-- The form of a field outside its table. -/
def writeDotted (upper : Bool) (f : Field) : List Char :=
  "exec".toList ++ '.' :: f.write upper

/-- A value is that of a field. -/
def Means : Field → Value → Prop
  | program text, value => IsText value text
  | args texts, value => IsTexts value texts

/-- The request after setting a field. -/
def apply (r : Request) : Field → Request
  | program text => { r with program := text }
  | args texts => { r with args := texts }

/-- A member of a table is a field. -/
def Fits (f : Field) (m : Key × Option Span × Value) : Prop :=
  m.1.name = f.name ∧ f.Means m.2.2

/-- A statement gives a field to the table at a path. -/
def Assigned (path : List String) (f : Field) : Statement → Prop
  | .assign keys key _ value =>
    keys.map (·.name) = path ∧ key.name = f.name ∧ f.Means value
  | .header .. => False

variable {upper : Bool} {cs rest : List Char} {n : Nat} {f : Field} {fields : List Field}

theorem bare_exec : Bare "exec" := ⟨by decide, List.all_eq_true.mp (by decide)⟩

theorem bare_name (f : Field) : Bare f.name := by
  have hprogram : Bare "program" := ⟨by decide, List.all_eq_true.mp (by decide)⟩
  have hargs : Bare "args" := ⟨by decide, List.all_eq_true.mp (by decide)⟩
  cases f
  · exact hprogram
  · exact hargs

/-- A written field begins with its name. -/
theorem write_eq_cons (f : Field) (upper : Bool) :
    ∃ c tail, f.write upper = c :: tail ∧ isBare c = true := by
  obtain ⟨c, tail, hchars, hc⟩ := f.bare_name.eq_cons
  exact ⟨c, _, by rw [write, hchars, List.cons_append], hc⟩

/-! ### Setting the request -/

/-- A member that is a field sets it. -/
theorem addMember_of_fits {r : Request} {m : Key × Option Span × Value} (h : f.Fits m) :
    addMember r m = .ok (f.apply r) := by
  obtain ⟨key, own, value⟩ := m
  obtain ⟨hname, hmeans⟩ := h
  refine addMember_eq_ok_iff.mpr ?_
  cases f with
  | program text => exact .inl ⟨hname, hmeans, rfl⟩
  | args texts => exact .inr ⟨hname, hmeans, rfl⟩

/-- Members that are fields set them one after the other. -/
theorem foldlM_addMember_of_fits {r : Request} {members : Members}
    (h : List.Forall₂ Fits fields members) :
    members.foldlM addMember r = .ok (fields.foldl apply r) := by
  induction h generalizing r with
  | nil => rfl
  | cons hfits _ ih =>
    rw [List.foldlM_cons, addMember_of_fits hfits, List.foldl_cons]
    exact ih

/-- A document that has the table `exec` and nothing else configures what its fields set. -/
theorem ofMembers_of_fits {key : Key} {own : Option Span} {origin : TableOrigin} {inner : Members}
    (hname : key.name = "exec") (h : List.Forall₂ Fits fields inner) :
    ofMembers [(key, own, .table origin inner)] = .ok (fields.foldl apply {}) := by
  refine except_bind_eq_ok_iff.mpr ⟨fields.foldl apply {}, ?_, rfl⟩
  simp only [if_pos hname]
  exact foldlM_addMember_of_fits h

/-! ### Reading one field -/

/-- The value of a field is read back, and begins with no blank. -/
theorem readValue_writeValue (f : Field) (upper : Bool) (depth : Nat)
    (hrest : rest.head? ≠ some '"') :
    ∃ value c tail, f.Means value ∧ f.writeValue upper ++ rest = c :: tail ∧ isSolid c = true ∧
      readValue (depth + 1) (c :: tail) = some (value, rest) := by
  cases f with
  | program text =>
    exact ⟨.string text, _, _, rfl, rfl, by decide, readValue_writeString (depth + 1) text hrest⟩
  | args texts =>
    obtain ⟨elements, hsame, hread⟩ := readValue_writeStrings upper rest depth texts
    exact ⟨.array .inline elements, _, _, ⟨_, _, rfl, hsame⟩, rfl, by decide, hread⟩

/-- A field is read back once its key is. -/
theorem readAssignment_of_readKey {depth : Nat} {path : List Key} {key : Key}
    (hrest : rest.head? ≠ some '"') (hname : key.name = f.name)
    (hkey : readKey nestingLimit cs =
      some ((path, key), '=' :: ' ' :: (f.writeValue upper ++ rest))) :
    ∃ statement, f.Assigned (path.map (·.name)) statement ∧
      readAssignment (Reader.spanned (readValue (depth + 1))) cs = some (statement, rest) := by
  obtain ⟨value, c, tail, hmeans, hbegin, hc, hread⟩ :=
    f.readValue_writeValue upper depth hrest
  rw [hbegin] at hkey
  have hvalue : Reader.spanned (readValue (depth + 1)) (c :: tail) =
      some ((⟨c :: tail, rest⟩, value), rest) := by
    rw [Reader.spanned, hread]
    rfl
  refine ⟨_, ?_, readAssignment_of_key hkey hc hvalue⟩
  exact ⟨rfl, hname, hmeans⟩

/-- A field is read back. -/
theorem readAssignment_write (f : Field) (upper : Bool) (depth : Nat) (rest : List Char)
    (hrest : rest.head? ≠ some '"') :
    ∃ statement, f.Assigned [] statement ∧
      readAssignment (Reader.spanned (readValue (depth + 1))) (f.write upper ++ rest) =
        some (statement, rest) := by
  obtain ⟨span, hkey⟩ := readKey_equals 78 (' ' :: (f.writeValue upper ++ rest)) f.bare_name
  rw [write, List.append_assoc]
  exact readAssignment_of_readKey hrest rfl hkey

/-- A field outside its table is read back. -/
theorem readAssignment_writeDotted (f : Field) (upper : Bool) (depth : Nat) (rest : List Char)
    (hrest : rest.head? ≠ some '"') :
    ∃ statement, f.Assigned ["exec"] statement ∧
      readAssignment (Reader.spanned (readValue (depth + 1))) (f.writeDotted upper ++ rest) =
        some (statement, rest) := by
  obtain ⟨span, hkey⟩ := readKey_equals 77 (' ' :: (f.writeValue upper ++ rest)) f.bare_name
  have hpoint := readKey_point 78
    (f.name.toList ++ ' ' :: '=' :: ' ' :: (f.writeValue upper ++ rest)) bare_exec
  rw [hkey] at hpoint
  rw [writeDotted, write]
  simp only [List.append_assoc, List.cons_append]
  exact readAssignment_of_readKey hrest rfl hpoint

end Field

end ImageSwap.Config
