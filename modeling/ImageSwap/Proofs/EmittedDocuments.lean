import ImageSwap.Proofs.PrintedOutput

/-!
# Documents for people and for programs

A result is printed on one line or as an indented document, with its members in the order of their
names. Both are read back as one value, and no way into that value tells it from the result: the same
names and places lead to the same texts, numbers and words. A result whose members are in order
already is read back as it was.
-/

namespace ImageSwap

namespace Json

variable {v : Json} {depth : Nat} {name : String} {members : List (String × Json)}

/-! ## Values that are emitted -/

/-- The values made of null, truth values, whole numbers of 64 bits, texts, arrays, and objects that
give no name twice. -/
inductive Emittable : Json → Prop where
  | null : Emittable null
  | bool {b : Bool} : Emittable (bool b)
  | int {n : Int} (h : Whole n) : Emittable (int n)
  | str {s : String} : Emittable (str s)
  | arr {elements : List Json} (h : ∀ v ∈ elements, Emittable v) : Emittable (arr elements)
  | obj {members : List (String × Json)} (distinct : (members.map Prod.fst).Nodup)
    (h : ∀ m ∈ members, Emittable m.2) : Emittable (obj members)

attribute [simp] Emittable.null Emittable.bool Emittable.str

@[simp] theorem emittable_int_iff {n : Int} : Emittable (int n) ↔ Whole n :=
  ⟨fun | .int h => h, .int⟩

@[simp] theorem emittable_arr_iff {elements : List Json} :
    Emittable (arr elements) ↔ ∀ v ∈ elements, Emittable v :=
  ⟨fun | .arr h => h, .arr⟩

@[simp] theorem emittable_obj_iff :
    Emittable (obj members) ↔ (members.map Prod.fst).Nodup ∧ ∀ m ∈ members, Emittable m.2 :=
  ⟨fun | .obj distinct h => ⟨distinct, h⟩, fun ⟨distinct, h⟩ => .obj distinct h⟩

@[simp] theorem emittable_str? (s : Option String) : Emittable (str? s) := by
  cases s <;> simp [str?]

mutual
/-- How deep arrays and objects are nested in a value. -/
def height : Json → Nat
  | arr elements => heightOfElements elements + 1
  | obj members => heightOfMembers members + 1
  | _ => 0

/-- The greatest height of the elements of an array. -/
def heightOfElements : List Json → Nat
  | [] => 0
  | v :: vs => max v.height (heightOfElements vs)

/-- The greatest height of the values in an object. -/
def heightOfMembers : List (String × Json) → Nat
  | [] => 0
  | (_, v) :: rest => max v.height (heightOfMembers rest)
end

theorem height_le_of_mem_elements {elements : List Json} (h : v ∈ elements) :
    v.height ≤ heightOfElements elements := by
  induction elements with
  | nil => cases h
  | cons first rest ih =>
    rw [heightOfElements]
    rcases List.mem_cons.mp h with rfl | h
    · exact Nat.le_max_left ..
    · exact Nat.le_trans (ih h) (Nat.le_max_right ..)

theorem height_le_of_mem_members {m : String × Json} (h : m ∈ members) :
    m.2.height ≤ heightOfMembers members := by
  induction members with
  | nil => cases h
  | cons first rest ih =>
    rw [heightOfMembers]
    rcases List.mem_cons.mp h with rfl | h
    · exact Nat.le_max_left ..
    · exact Nat.le_trans (ih h) (Nat.le_max_right ..)

/-- A reader that allows for the height of an emitted value can read it. -/
theorem Emittable.fitsIn (h : Emittable v) (hdepth : v.height ≤ depth) : FitsIn depth v := by
  induction h generalizing depth with
  | null => exact .null
  | bool => exact .bool
  | int hn => exact .int hn
  | str => exact .str
  | arr _ ih =>
    rw [height] at hdepth
    obtain ⟨depth, rfl⟩ := Nat.exists_eq_add_of_le' (Nat.le_trans (Nat.le_add_left 1 _) hdepth)
    refine .arr fun v hv => ih v hv ?_
    have hle := height_le_of_mem_elements hv
    omega
  | obj _ _ ih =>
    rw [height] at hdepth
    obtain ⟨depth, rfl⟩ := Nat.exists_eq_add_of_le' (Nat.le_trans (Nat.le_add_left 1 _) hdepth)
    refine .obj fun m hm => ih m hm ?_
    have hle := height_le_of_mem_members hm
    omega

/-! ## Values that hold the same -/

/-- A way from a value into one that it holds. -/
inductive Selector where
  | element (index : Nat)
  | member (name : String)

/-- The value that one step leads to. -/
def child? : Json → Selector → Option Json
  | arr elements, .element index => elements[index]?
  | obj members, .member name => members.lookup name
  | _, _ => none

/-- The value that a row of steps leads to. -/
def descendant? : List Selector → Json → Option Json
  | [], v => some v
  | selector :: path, v => (v.child? selector).bind (descendant? path)

/-- What a value is apart from the values that it holds: one of these is only counted. -/
inductive Head where
  | null
  | bool (b : Bool)
  | int (n : Int)
  | real (value : Decimal.Binary64)
  | str (s : String)
  | arr (size : Nat)
  | obj (size : Nat)

/-- What a value is apart from the values that it holds. -/
def head : Json → Head
  | null => .null
  | bool b => .bool b
  | int n => .int n
  | real value => .real value
  | str s => .str s
  | arr elements => .arr elements.length
  | obj members => .obj members.length

/-- No way into two values tells them apart. The order of members is not seen on any. -/
def SameData (v v' : Json) : Prop :=
  ∀ path, (descendant? path v).map head = (descendant? path v').map head

theorem lookup_eq_some_iff_mem (distinct : (members.map Prod.fst).Nodup) :
    members.lookup name = some v ↔ (name, v) ∈ members := by
  induction members with
  | nil => simp
  | cons first rest ih =>
    obtain ⟨other, value⟩ := first
    obtain ⟨hnew, hrest⟩ := List.nodup_cons.mp distinct
    rw [List.lookup_cons, List.mem_cons, Prod.mk.injEq, ← ih hrest]
    by_cases hname : name = other
    · subst hname
      have hnone : rest.lookup name ≠ some v := fun hsome =>
        hnew (List.mem_map.mpr ⟨(name, v), (ih hrest).mp hsome, rfl⟩)
      simp [hnone, eq_comm]
    · have hskip : (name == other) = false := beq_eq_false_iff_ne.mpr hname
      simp [hskip, hname]

theorem lookup_map_snd (f : Json → Json) (members : List (String × Json)) (name : String) :
    (members.map fun m => (m.1, f m.2)).lookup name = (members.lookup name).map f := by
  induction members with
  | nil => rfl
  | cons first rest ih =>
    rw [List.map_cons, List.lookup_cons, List.lookup_cons, ih]
    cases name == first.1 <;> rfl

/-- The order of members with distinct names is not seen by looking for a name. -/
theorem lookup_sortMembers (distinct : (members.map Prod.fst).Nodup) :
    (sortMembers members).lookup name = members.lookup name := by
  have hperm : (sortMembers members).Perm members := List.mergeSort_perm ..
  have hsorted : ((sortMembers members).map Prod.fst).Nodup :=
    (hperm.map Prod.fst).nodup_iff.mpr distinct
  ext v
  rw [lookup_eq_some_iff_mem hsorted, lookup_eq_some_iff_mem distinct, mem_sortMembers]

theorem head_sorted (v : Json) : v.sorted.head = v.head := by
  cases v with
  | arr elements => simp [sorted, head, sortedElements_eq_map]
  | obj members => simp [sorted, head, sortedMembers_eq_map, sortMembers]
  | _ => rfl

/-- A step leads to the same value, put in order. -/
theorem child?_sorted (h : Emittable v) (selector : Selector) :
    v.sorted.child? selector = (v.child? selector).map sorted := by
  cases h with
  | @arr elements =>
    rw [sorted, sortedElements_eq_map]
    cases selector with
    | element index => exact List.getElem?_map ..
    | member name => rfl
  | @obj members distinct =>
    rw [sorted, sortedMembers_eq_map]
    cases selector with
    | element index => rfl
    | member name =>
      have hmapped : ((members.map fun m => (m.1, m.2.sorted)).map Prod.fst).Nodup := by
        simpa [List.map_map, Function.comp_def] using distinct
      rw [child?, lookup_sortMembers hmapped, lookup_map_snd, child?]
  | _ => rfl

theorem Emittable.child? (h : Emittable v) {selector : Selector} {v' : Json}
    (hchild : v.child? selector = some v') : Emittable v' := by
  cases h with
  | arr h =>
    cases selector with
    | element index => exact h v' (List.mem_of_getElem? hchild)
    | member name => cases hchild
  | obj distinct h =>
    cases selector with
    | element index => cases hchild
    | member name => exact h (name, v') ((lookup_eq_some_iff_mem distinct).mp hchild)
  | _ => cases hchild

theorem descendant?_sorted (h : Emittable v) (path : List Selector) :
    descendant? path v.sorted = (descendant? path v).map sorted := by
  induction path generalizing v with
  | nil => rfl
  | cons selector path ih =>
    rw [descendant?, descendant?, child?_sorted h]
    cases hchild : v.child? selector with
    | none => rfl
    | some v' => exact ih (h.child? hchild)

/-- Putting the members in order changes nothing that a value holds. -/
theorem sameData_sorted (h : Emittable v) : SameData v.sorted v := by
  intro path
  rw [descendant?_sorted h, Option.map_map]
  exact congrArg (fun f => Option.map f (descendant? path v)) (funext head_sorted)

/-! ## Values in order -/

/-- The values in which the names of every object ascend. -/
inductive Ordered : Json → Prop where
  | null : Ordered null
  | bool {b : Bool} : Ordered (bool b)
  | int {n : Int} : Ordered (int n)
  | real {value : Decimal.Binary64} : Ordered (real value)
  | str {s : String} : Ordered (str s)
  | arr {elements : List Json} (h : ∀ v ∈ elements, Ordered v) : Ordered (arr elements)
  | obj {members : List (String × Json)} (ascending : members.Pairwise fun a b => a.1 < b.1)
    (h : ∀ m ∈ members, Ordered m.2) : Ordered (obj members)

theorem Ordered.sorted_eq (h : Ordered v) : v.sorted = v := by
  induction h with
  | arr _ ih =>
    rw [Json.sorted, sortedElements_eq_map, List.map_congr_left ih, List.map_id']
  | @obj members ascending _ ih =>
    have hsame : members.map (fun m => (m.1, m.2.sorted)) = members.map id :=
      List.map_congr_left fun m hm => Prod.ext rfl (ih m hm)
    have hascending : members.Pairwise fun a b => decide (a.1 ≤ b.1) = true :=
      ascending.imp fun h => decide_eq_true (String.not_lt.mp (String.lt_asymm h))
    rw [Json.sorted, sortedMembers_eq_map, hsame, List.map_id, sortMembers,
      List.mergeSort_of_pairwise hascending]
  | _ => rfl

end Json

/-! ## Results -/

section

open Json (Emittable)

variable {value : Json}

theorem ProcessReport.emittable_toJson {r : ProcessReport} (hpid : r.pid.InRange)
    (hparent : r.parent.InRange) : Emittable r.toJson := by
  simp [toJson, hpid.whole, hparent.whole]

theorem Resolution.emittable_of_toJson {r : Resolution} (h : r.toJson = .ok value) :
    Emittable value := by
  obtain ⟨path, hpath, hvalue⟩ := except_bind_eq_ok_iff.mp h
  cases hvalue
  obtain rfl | ⟨s, rfl⟩ := eq_null_or_str_of_pathJson hpath
  · simp
  · simp

theorem Guide.emittable_of_report {subcommand : Option String}
    (h : report subcommand = .ok value) : Emittable value := by
  cases subcommand with
  | none =>
    cases h
    simp [Summary.toJson]
  | some name =>
    rw [report] at h
    split at h
    · cases h
      simp [Detail.toJson, Parameter.toJson, ExitCode.toJson]
    · cases h

end

namespace Run

open Json (Emittable SameData Ordered)

/-- What a value is printed as, for programs and for people, carries the value: a reader that allows
for its height finds in both texts one and the same value, which holds the same. -/
structure Carried (v : Json) : Prop where
  oneLine : ∃ line, OutputFormat.json.document v = line ++ "\n" ∧ '\n' ∉ line.toList
  read : ∀ (format : OutputFormat) (depth : Nat), v.height ≤ depth →
    Json.readDocument depth (format.document v).toList = .ok v.sorted
  sameData : SameData v.sorted v
  sorted_eq : Ordered v → v.sorted = v

theorem readDocument_document {v : Json} (h : Emittable v) (format : OutputFormat) {depth : Nat}
    (hdepth : v.height ≤ depth) :
    Json.readDocument depth (format.document v).toList = .ok v.sorted := by
  have hfits := (h.fitsIn hdepth).sorted
  have hread (l : Json.Layout) :
      Json.readDocument depth (Json.laidOut l 0 v.sorted ++ ['\n']) = .ok v.sorted :=
    Json.readDocument_laidOut hfits l rfl
  cases format with
  | json =>
    have hread := hread .line
    rw [Json.laidOut_line] at hread
    simpa [OutputFormat.document, Json.compact] using hread
  | human =>
    have hread := hread .block
    rw [Json.laidOut_block] at hread
    simpa [OutputFormat.document, Json.indented] using hread

theorem carried_of_emittable {v : Json} (h : Emittable v) : Carried v := by
  refine ⟨⟨v.sorted.compact, rfl, ?_⟩, fun format depth => readDocument_document h format,
    Json.sameData_sorted h, Ordered.sorted_eq⟩
  rw [Json.compact, String.toList_ofList]
  exact Json.newline_notMem_compactChars (h.fitsIn (Nat.le_refl _)).sorted

/-- Where everything is taken, emitting a value prints its document and passes it on. -/
theorem effects_of_emit {w : World} (hw : w.AcceptsOutput) (format : OutputFormat) (v : Json)
    (j : Journal) : ((emit w format v).runOn j).2.effects =
      j.effects ++ [.print .stdout (format.document v), .flush] := by
  rcases hrun : (emit w format v).runOn j with ⟨result, after⟩
  obtain ⟨made, hmade, -, hdelivery⟩ := delivery_of_runOn hrun
  rw [hmade, (hdelivery.eq_done hw).2]

/-- Every value that is emitted is carried by its documents in both formats, and every report of a
process, every resolution and every page of the guide is such a value. -/
theorem carried_by_emission :
    (∀ v, Emittable v → Carried v) ∧
    (∀ w : World, w.AcceptsOutput → ∀ format v j, ((emit w format v).runOn j).2.effects =
      j.effects ++ [.print .stdout (format.document v), .flush]) ∧
    (∀ r : ProcessReport, r.pid.InRange → r.parent.InRange → Emittable r.toJson) ∧
    (∀ (r : Resolution) value, r.toJson = .ok value → Emittable value) ∧
    ∀ subcommand value, Guide.report subcommand = .ok value → Emittable value :=
  ⟨fun _ => carried_of_emittable, fun _ => effects_of_emit,
    fun _ => ProcessReport.emittable_toJson, fun _ _ => Resolution.emittable_of_toJson,
    fun _ _ => Guide.emittable_of_report⟩

end Run

end ImageSwap
