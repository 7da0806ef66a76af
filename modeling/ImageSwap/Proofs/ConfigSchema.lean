import ImageSwap.Config
import ImageSwap.Proofs.DistinctDocuments
import ImageSwap.Proofs.Results

/-!
# The schema of config files

Which documents configure a request, and which request, told without the order of their keys: what
is written must be of the right kind, what is left out keeps its default, and nothing else may be
there. Reading a config file accepts exactly these documents, because no name is given twice, and
refuses every other text in one way.

Every part of the schema can be decided from the shape of the value, so it can be tried on
documents.
-/

namespace ImageSwap.Config

open Toml

/-- A value is a text. -/
def IsText (value : Value) (text : String) : Prop := value = .string text

/-- A value is an array of texts and of nothing else. -/
def IsTexts (value : Value) (texts : List String) : Prop :=
  ∃ origin elements, value = .array origin elements ∧ elements.map (·.2) = texts.map .string

/-- What is written means `a`; what is left out means the default. -/
def Gives {α : Type} (found : Option (Option Span × Value)) (Means : Value → α → Prop)
    (default a : α) : Prop :=
  match found with
  | none => a = default
  | some (_, value) => Means value a

/-- A table that configures a request: it has no keys but `program` and `args`. -/
structure DescribesTable (members : Members) (r : Request) : Prop where
  known : ∀ name ∈ members.names, name = "program" ∨ name = "args"
  program : Gives (members.find? "program") IsText "pwd" r.program
  args : Gives (members.find? "args") IsTexts [] r.args

/-- An array that configures a request by its first two elements. -/
structure DescribesArray (elements : List (Option Span × Value)) (r : Request) : Prop where
  program : Gives elements[0]? IsText "pwd" r.program
  args : Gives elements[1]? IsTexts [] r.args

/-- A value of `exec` that configures a request. -/
def DescribesExec (value : Value) (r : Request) : Prop :=
  match value with
  | .table _ members => DescribesTable members r
  | .array _ elements => DescribesArray elements r
  | _ => False

/-- A document that configures a request: it has no key but `exec`. -/
structure Describes (members : Members) (r : Request) : Prop where
  known : ∀ name ∈ members.names, name = "exec"
  exec : Gives (members.find? "exec") DescribesExec {} r

theorem describesTable_iff {members : Members} {r : Request} :
    DescribesTable members r ↔
      (∀ name ∈ members.names, name = "program" ∨ name = "args") ∧
        Gives (members.find? "program") IsText "pwd" r.program ∧
        Gives (members.find? "args") IsTexts [] r.args :=
  ⟨fun ⟨h₁, h₂, h₃⟩ => ⟨h₁, h₂, h₃⟩, fun ⟨h₁, h₂, h₃⟩ => ⟨h₁, h₂, h₃⟩⟩

section Deciding

/-- An array is one of texts when its elements are these texts, one by one. -/
theorem isTexts_array_iff {origin : ArrayOrigin} {elements : List (Option Span × Value)}
    {texts : List String} :
    IsTexts (.array origin elements) texts ↔
      List.Forall₂ (fun element text => IsText element.2 text) elements texts := by
  have hpairs : elements.map (·.2) = texts.map .string ↔
      List.Forall₂ (fun element text => IsText element.2 text) elements texts := by
    rw [← List.forall₂_eq_eq_eq, List.forall₂_map_left_iff, List.forall₂_map_right_iff]
    exact Iff.rfl
  rw [← hpairs]
  constructor
  · rintro ⟨_, _, ⟨⟩, h⟩
    exact h
  · intro h
    exact ⟨origin, elements, rfl, h⟩

instance : ∀ value text, Decidable (IsText value text)
  | .string own, text => decidable_of_iff (own = text) ⟨congrArg Value.string, Value.string.inj⟩
  | .integer _, _ | .float _, _ | .boolean _, _ | .moment, _ | .array _ _, _ | .table _ _, _ =>
    isFalse nofun

instance : ∀ value texts, Decidable (IsTexts value texts)
  | .array _ _, _ => decidable_of_iff _ isTexts_array_iff.symm
  | .string _, _ | .integer _, _ | .float _, _ | .boolean _, _ | .moment, _ | .table _ _, _ =>
    isFalse nofun

instance {α : Type} {Means : Value → α → Prop} [DecidableEq α]
    [∀ value a, Decidable (Means value a)] {default a : α} :
    ∀ found, Decidable (Gives found Means default a)
  | none => inferInstanceAs (Decidable (a = default))
  | some (_, value) => inferInstanceAs (Decidable (Means value a))

instance (members : Members) (r : Request) : Decidable (DescribesTable members r) :=
  decidable_of_iff _ describesTable_iff.symm

instance (elements : List (Option Span × Value)) (r : Request) :
    Decidable (DescribesArray elements r) :=
  decidable_of_iff
    (Gives elements[0]? IsText "pwd" r.program ∧ Gives elements[1]? IsTexts [] r.args)
    ⟨fun ⟨h₁, h₂⟩ => ⟨h₁, h₂⟩, fun ⟨h₁, h₂⟩ => ⟨h₁, h₂⟩⟩

instance : ∀ value r, Decidable (DescribesExec value r)
  | .table _ members, r => inferInstanceAs (Decidable (DescribesTable members r))
  | .array _ elements, r => inferInstanceAs (Decidable (DescribesArray elements r))
  | .string _, _ | .integer _, _ | .float _, _ | .boolean _, _ | .moment, _ => isFalse nofun

instance (members : Members) (r : Request) : Decidable (Describes members r) :=
  decidable_of_iff
    ((∀ name ∈ members.names, name = "exec") ∧
      Gives (members.find? "exec") DescribesExec {} r)
    ⟨fun ⟨h₁, h₂⟩ => ⟨h₁, h₂⟩, fun ⟨h₁, h₂⟩ => ⟨h₁, h₂⟩⟩

end Deciding

section Reading

variable {span : Span} {value : Value} {members : Members} {r r' : Request}

theorem textOf_eq_ok_iff {text : String} : textOf span value = .ok text ↔ IsText value text := by
  cases value <;> simp [textOf, IsText, mismatch]

theorem textsOf_eq_ok_iff {texts : List String} :
    textsOf span value = .ok texts ↔ IsTexts value texts := by
  have helements (elements : List (Option Span × Value)) (texts : List String) :
      (elements.mapM fun e => textOf (e.1.getD span) e.2) = .ok texts ↔
        elements.map (·.2) = texts.map .string := by
    induction elements generalizing texts with
    | nil => cases texts <;> simp [pure, Except.pure]
    | cons e elements ih =>
      simp only [List.mapM_cons, except_bind_eq_ok_iff, textOf_eq_ok_iff, IsText, ih]
      cases texts <;> simp [pure, Except.pure]
  unfold textsOf
  split
  · next origin elements =>
    rw [helements]
    constructor
    · exact fun h => ⟨origin, elements, rfl, h⟩
    · rintro ⟨_, _, hsame, h⟩
      cases hsame
      exact h
  · next hother =>
    refine iff_of_false nofun ?_
    rintro ⟨origin, elements, rfl, -⟩
    exact hother _ _ rfl

/-- A member of the table `exec` sets the part of the request that it names. -/
theorem addMember_eq_ok_iff {key : Key} {own : Option Span} :
    addMember r (key, own, value) = .ok r' ↔
      key.name = "program" ∧ IsText value r'.program ∧ r'.args = r.args ∨
      key.name = "args" ∧ IsTexts value r'.args ∧ r'.program = r.program := by
  have hmap {α : Type} (x : Except Complaint α) (f : α → Request) :
      x.map f = .ok r' ↔ ∃ a, x = .ok a ∧ f a = r' := by
    cases x <;> simp [Except.map]
  rw [addMember]
  by_cases hprogram : key.name = "program"
  · rw [if_pos hprogram, hmap]
    constructor
    · rintro ⟨program, htext, rfl⟩
      exact .inl ⟨hprogram, textOf_eq_ok_iff.mp htext, rfl⟩
    · rintro (⟨-, htext, hkept⟩ | ⟨hargs, -⟩)
      · exact ⟨r'.program, textOf_eq_ok_iff.mpr htext, by rw [← hkept]⟩
      · exact absurd (hprogram.symm.trans hargs) (by decide)
  · rw [if_neg hprogram]
    by_cases hargs : key.name = "args"
    · rw [if_pos hargs, hmap]
      constructor
      · rintro ⟨args, htexts, rfl⟩
        exact .inr ⟨hargs, textsOf_eq_ok_iff.mp htexts, rfl⟩
      · rintro (⟨h, -⟩ | ⟨-, htexts, hkept⟩)
        · exact absurd h hprogram
        · exact ⟨r'.args, textsOf_eq_ok_iff.mpr htexts, by rw [← hkept]⟩
    · rw [if_neg hargs]
      refine iff_of_false nofun ?_
      rintro (⟨h, -⟩ | ⟨h, -⟩)
      · exact hprogram h
      · exact hargs h

/-- The members of the table `exec` configure a request in any order, since none is given twice. -/
theorem foldlM_addMember_eq_ok_iff (h : members.names.Nodup) :
    members.foldlM addMember r = .ok r' ↔
      (∀ name ∈ members.names, name = "program" ∨ name = "args") ∧
        Gives (members.find? "program") IsText r.program r'.program ∧
          Gives (members.find? "args") IsTexts r.args r'.args := by
  induction members generalizing r with
  | nil =>
    obtain ⟨program, args⟩ := r
    obtain ⟨program', args'⟩ := r'
    simp [Members.names, Members.find?, Gives, pure, Except.pure, eq_comm]
  | cons m members ih =>
    obtain ⟨key, own, value⟩ := m
    obtain ⟨hvacant, hrest⟩ := List.nodup_cons.mp h
    have hnone : Members.find? members key.name = none := Members.find?_eq_none_iff.mpr hvacant
    rw [List.foldlM_cons, except_bind_eq_ok_iff]
    simp only [addMember_eq_ok_iff, ih hrest, Members.names, List.map_cons, List.forall_mem_cons,
      Members.find?_cons]
    constructor
    · rintro ⟨r₁, ⟨hname, hvalue, hkept⟩ | ⟨hname, hvalue, hkept⟩, hknown, hprogram, hargs⟩
      · rw [← hname, hnone] at hprogram
        have hsame : r'.program = r₁.program := hprogram
        rw [hname, if_pos rfl, if_neg (by decide), ← hkept]
        exact ⟨⟨.inl rfl, hknown⟩, hsame ▸ hvalue, hargs⟩
      · rw [← hname, hnone] at hargs
        have hsame : r'.args = r₁.args := hargs
        rw [hname, if_pos rfl, if_neg (by decide), ← hkept]
        exact ⟨⟨.inr rfl, hknown⟩, hprogram, hsame ▸ hvalue⟩
    · rintro ⟨⟨hname | hname, hknown⟩, hprogram, hargs⟩
      · rw [hname, if_pos rfl] at hprogram
        rw [hname, if_neg (by decide)] at hargs
        rw [← hname, hnone]
        exact ⟨⟨r'.program, r.args⟩, .inl ⟨rfl, hprogram, rfl⟩, hname ▸ hknown, rfl, hargs⟩
      · rw [hname, if_neg (by decide)] at hprogram
        rw [hname, if_pos rfl] at hargs
        rw [← hname, hnone]
        exact ⟨⟨r.program, r'.args⟩, .inr ⟨rfl, hargs, rfl⟩, hname ▸ hknown, hprogram, rfl⟩

/-- The value of `exec` configures the request that the schema says. -/
theorem requestOf_eq_ok_iff (h : value.Distinct) :
    requestOf span value = .ok r ↔ DescribesExec value r := by
  unfold requestOf
  split
  · next origin members =>
    rw [foldlM_addMember_eq_ok_iff (Value.distinct_table_iff.mp h).names]
    exact describesTable_iff.symm
  · constructor
    · rintro ⟨⟩
      exact ⟨rfl, rfl⟩
    · rintro ⟨hprogram, hargs⟩
      have hdefault : r = ⟨"pwd", []⟩ := by rw [← hprogram, ← hargs]
      rw [hdefault]
  · next own program =>
    simp only [except_bind_eq_ok_iff, textOf_eq_ok_iff]
    constructor
    · rintro ⟨text, htext, ⟨⟩⟩
      exact ⟨htext, rfl⟩
    · rintro ⟨hprogram, hargs⟩
      have hdefault : r = ⟨r.program, []⟩ := by rw [← hargs]
      exact ⟨r.program, hprogram, congrArg _ hdefault.symm⟩
  · next own program own' args rest =>
    simp only [except_bind_eq_ok_iff, textOf_eq_ok_iff, textsOf_eq_ok_iff]
    constructor
    · rintro ⟨text, htext, texts, htexts, ⟨⟩⟩
      exact ⟨htext, htexts⟩
    · rintro ⟨hprogram, hargs⟩
      exact ⟨r.program, hprogram, r.args, hargs, rfl⟩
  · exact iff_of_false nofun id
  · next htable hempty hone hmore _ =>
    refine iff_of_false nofun ?_
    cases value with
    | table origin members => exact absurd rfl (htable origin members)
    | array origin elements =>
      rcases elements with _ | ⟨⟨own, program⟩, _ | ⟨⟨own', args⟩, rest⟩⟩
      · exact absurd rfl (hempty origin)
      · exact absurd rfl (hone origin own program)
      · exact absurd rfl (hmore origin own program own' args rest)
    | _ => exact id

/-- The members of a document configure the request that the schema says. -/
theorem ofMembers_eq_ok_iff (h : members.Distinct) :
    ofMembers members = .ok r ↔ Describes members r := by
  unfold ofMembers
  rcases members with _ | ⟨⟨key, own, value⟩, members⟩
  · constructor
    · rintro ⟨⟩
      exact ⟨by simp [Members.names], rfl⟩
    · rintro ⟨-, hdefault⟩
      exact congrArg _ (Eq.symm hdefault)
  · obtain ⟨hvacant, hrest⟩ := List.nodup_cons.mp h.names
    have hvalue : value.Distinct := h.values _ List.mem_cons_self
    rw [List.foldlM_cons, except_bind_eq_ok_iff]
    by_cases hname : key.name = "exec"
    · simp only [if_pos hname, requestOf_eq_ok_iff hvalue]
      rcases members with _ | ⟨⟨other, own', value'⟩, members⟩
      · have hfind : Members.find? [(key, own, value)] "exec" = some (own, value) := by
          rw [Members.find?_cons, if_pos hname]
        constructor
        · rintro ⟨_, hexec, ⟨⟩⟩
          exact ⟨by simp [Members.names, hname], hfind ▸ hexec⟩
        · rintro ⟨-, hexec⟩
          exact ⟨r, by rwa [hfind] at hexec, rfl⟩
      · -- A second name would have to be another one.
        have hother : other.name ≠ "exec" := by
          rintro hsame
          exact hvacant (by simp [hname, hsame])
        refine iff_of_false ?_ fun hr => hother (hr.known _ (by simp [Members.names]))
        rintro ⟨_, -, hfold⟩
        rw [List.foldlM_cons, except_bind_eq_ok_iff] at hfold
        obtain ⟨_, herror, -⟩ := hfold
        simp only [if_neg hother, unknownField, reduceCtorEq] at herror
    · refine iff_of_false ?_ fun hr => hname (hr.known _ (by simp [Members.names]))
      rintro ⟨_, herror, -⟩
      simp only [if_neg hname, unknownField, reduceCtorEq] at herror

end Reading

/-- A text configures a request exactly when it is a document that the schema allows for that
request, and every other text is refused as one that cannot be used, with exit status 2. -/
theorem parse_iff_describes (text : String) :
    (∀ r, parse text = .ok r ↔
      ∃ members, Toml.parse text.toList = some members ∧ Describes members r) ∧
    ∀ f, parse text = .error f →
      ∃ detail, f = .configParse ("invalid TOML: " ++ detail) ∧ f.exitStatus = 2 := by
  have hinvalid (detail : String) : invalid detail = .configParse ("invalid TOML: " ++ detail) :=
    rfl
  unfold parse
  cases hparse : Toml.parse text.toList with
  | none =>
    refine ⟨fun r => iff_of_false nofun ?_, ?_⟩
    · rintro ⟨members, hmembers, -⟩
      cases hmembers
    · rintro f ⟨⟩
      exact ⟨_, hinvalid _, rfl⟩
  | some members =>
    simp only [Option.some.injEq, exists_eq_left']
    refine ⟨fun r => ?_, fun f hf => ?_⟩
    · rw [except_mapError_eq_ok_iff, ofMembers_eq_ok_iff (distinct_of_parse hparse)]
    · obtain ⟨c, -, rfl⟩ := except_mapError_eq_error_iff.mp hf
      exact ⟨_, hinvalid _, rfl⟩

/-- Under a header, between braces, with dotted keys, and as an array of the two values: four
documents for one request. -/
theorem parse_fourLayouts :
    ∀ text ∈
      ["[exec]\nprogram = \"ls\"\nargs = [\"-l\"]\n",
        "exec = \x7b program = \"ls\", args = [\"-l\"] \x7d\n",
        "exec.program = \"ls\"\nexec.args = [\"-l\"]\n",
        "exec = [\"ls\", [\"-l\"]]\n"],
      parse text = .ok ⟨"ls", ["-l"]⟩ := by
  simp only [(parse_iff_describes _).1]
  decide +kernel

end ImageSwap.Config
