import ImageSwap.Proofs.WrittenFields

/-!
# Reading back a written configuration

A configuration is written as a table under a header, as a table between braces or with dotted keys,
its fields in either order or left out, with either line end and with or without a byte order mark.
Reading it back yields exactly the fields that were written, and the default for each that was not.
-/

namespace ImageSwap.Config

open Toml

namespace Field

variable {upper : Bool} {cs rest : List Char} {n : Nat} {fields : List Field}
  {statements : List Statement}

/-! ### Collecting fields -/

/-- A table takes a name that it does not give yet. -/
theorem assign_vacant {members : Members} {key : Key} {span : Span} {value : Value}
    (h : key.name ∉ members.names) :
    members.assign [] key span value = some (members ++ [(key, some span, value)]) := by
  have hnone := Members.find?_eq_none_iff.mpr h
  simp only [Members.assign, Members.updateAt, hnone]
  rfl

/-- A table that dotted keys made takes a name that it does not give yet. -/
theorem assign_dotted {key first last : Key} {own : Option Span} {span : Span} {inner : Members}
    {value : Value} (hname : first.name = last.name) (h : key.name ∉ inner.names) :
    Members.assign [(first, own, .table .dotted inner)] [last] key span value =
      some [(first, own, .table .dotted (inner ++ [(key, some span, value)]))] := by
  have hnone := Members.find?_eq_none_iff.mpr h
  have hfind : Members.find? [(first, own, .table .dotted inner)] last.name =
      some (own, .table .dotted inner) := by
    rw [Members.find?_cons, if_pos hname]
  simp only [Members.assign, Members.updateAt, hfind, hnone]
  simp [TableOrigin.isImplicit, Members.replace, hname]

/-- A statement that gives a field is an assignment to its name. -/
theorem Assigned.eq_assign {f : Field} {path : List String} {statement : Statement}
    (h : f.Assigned path statement) : ∃ keys key span value,
      statement = .assign keys key span value ∧ keys.map (·.name) = path ∧
        ∀ own, f.Fits (key, own, value) := by
  cases statement with
  | assign keys key span value => exact ⟨keys, key, span, value, rfl, h.1, fun _ => h.2⟩
  | header => exact h.elim

/-- A name that is new to a table, and the names after it, when all are given in order. -/
theorem new_names (members : Members) {f : Field} {m : Key × Option Span × Value}
    (hfits : f.Fits m) (h : (members.names ++ (f :: fields).map name).Nodup) :
    m.1.name ∉ members.names ∧
      (Members.names (members ++ [m]) ++ fields.map name).Nodup := by
  rw [List.map_cons, ← hfits.1] at h
  refine ⟨fun hmem => ?_, ?_⟩
  · exact (List.nodup_append.mp h).2.2 _ hmem _ List.mem_cons_self rfl
  · simpa [Members.names] using h

/-- Fields that a table does not give yet are put at its end. -/
theorem foldlM_add_assigned {d : Draft} (h : List.Forall₂ (Assigned []) fields statements)
    (hnew : (d.body.names ++ fields.map name).Nodup) :
    ∃ members, ∃ g : Span → Span, List.Forall₂ Fits fields members ∧
      statements.foldlM Draft.add d = some
        { d with
          heading := d.heading.map fun heading => { heading with span := g heading.span }
          body := d.body ++ members } := by
  induction h generalizing d with
  | nil => exact ⟨[], id, .nil, by simp⟩
  | @cons f statement fields statements hassigned _ ih =>
    obtain ⟨keys, key, span, value, rfl, hpath, hfits⟩ := hassigned.eq_assign
    have hkeys : keys = [] := by simpa using hpath
    obtain ⟨hvacant, hnew⟩ := new_names _ (hfits (some span)) hnew
    obtain ⟨members, g, hmembers, hfold⟩ := ih (d := { d with
      heading := d.heading.map fun heading =>
        { heading with span := ⟨heading.span.start, span.stop⟩ }
      body := d.body ++ [(key, some span, value)] }) hnew
    refine ⟨(key, some span, value) :: members, fun s => g ⟨s.start, span.stop⟩,
      .cons (hfits _) hmembers, ?_⟩
    rw [List.foldlM_cons, Draft.add, hkeys, assign_vacant hvacant]
    simpa [Function.comp_def] using hfold

/-- The fields that the statements of a table between braces give are its members. -/
theorem ofStatements_assigned (h : List.Forall₂ (Assigned []) fields statements)
    (hnodup : (fields.map name).Nodup) :
    ∃ members, List.Forall₂ Fits fields members ∧
      Members.ofStatements statements = some members := by
  obtain ⟨members, g, hmembers, hfold⟩ := foldlM_add_assigned (d := {}) h hnodup
  refine ⟨members, hmembers, ?_⟩
  rw [Members.ofStatements, hfold]
  rfl

/-- The fields below the header of the table `exec` are its members. -/
theorem ofStatements_header (key : Key) (span : Span)
    (h : List.Forall₂ (Assigned []) fields statements) (hnodup : (fields.map name).Nodup) :
    ∃ members own, List.Forall₂ Fits fields members ∧
      Members.ofStatements (.header .inline [] key span :: statements) =
        some [(key, own, .table .header members)] := by
  obtain ⟨members, g, hmembers, hfold⟩ := foldlM_add_assigned
    (d := { heading := some ⟨.inline, [], key, span⟩ }) h hnodup
  have hadd : Draft.add {} (.header .inline [] key span) =
      some { heading := some ⟨.inline, [], key, span⟩ } := rfl
  refine ⟨members, some (g span), hmembers, ?_⟩
  rw [Members.ofStatements, List.foldlM_cons, hadd]
  simp only [Option.bind_eq_bind, Option.bind_some, hfold]
  rfl

/-- Fields that dotted keys give to a table are put at its end. -/
theorem foldlM_add_dotted {key : Key} {inner : Members} (hkey : key.name = "exec")
    (h : List.Forall₂ (Assigned ["exec"]) fields statements)
    (hnew : (inner.names ++ fields.map name).Nodup) :
    ∃ members, List.Forall₂ Fits fields members ∧
      statements.foldlM Draft.add { body := [(key, none, .table .dotted inner)] } =
        some { body := [(key, none, .table .dotted (inner ++ members))] } := by
  induction h generalizing inner with
  | nil => exact ⟨[], .nil, by simp⟩
  | @cons f statement fields statements hassigned _ ih =>
    obtain ⟨keys, last, span, value, rfl, hpath, hfits⟩ := hassigned.eq_assign
    obtain ⟨table, rfl, htable⟩ : ∃ table, keys = [table] ∧ table.name = "exec" := by
      simpa [List.map_eq_singleton_iff] using hpath
    obtain ⟨hvacant, hnew⟩ := new_names _ (hfits (some span)) hnew
    obtain ⟨members, hmembers, hfold⟩ := ih hnew
    refine ⟨(last, some span, value) :: members, .cons (hfits _) hmembers, ?_⟩
    rw [List.foldlM_cons, Draft.add, assign_dotted (hkey.trans htable.symm) hvacant]
    simpa using hfold

/-- Fields with dotted keys are the members of the table `exec`, which is there if there are any. -/
theorem ofStatements_dotted (h : List.Forall₂ (Assigned ["exec"]) fields statements)
    (hnodup : (fields.map name).Nodup) :
    fields = [] ∧ Members.ofStatements statements = some [] ∨
      ∃ key members, key.name = "exec" ∧ List.Forall₂ Fits fields members ∧
        Members.ofStatements statements = some [(key, none, .table .dotted members)] := by
  cases h with
  | nil => exact .inl ⟨rfl, rfl⟩
  | @cons f statement fields statements hassigned hrest =>
    obtain ⟨keys, last, span, value, rfl, hpath, hfits⟩ := hassigned.eq_assign
    obtain ⟨table, rfl, htable⟩ : ∃ table, keys = [table] ∧ table.name = "exec" := by
      simpa [List.map_eq_singleton_iff] using hpath
    have hadd : Draft.add {} (.assign [table] last span value) =
        some { body := [(table, none, .table .dotted [(last, some span, value)])] } := rfl
    obtain ⟨-, hnew⟩ := new_names [] (hfits (some span)) hnodup
    obtain ⟨members, hmembers, hfold⟩ := foldlM_add_dotted htable hrest hnew
    refine .inr ⟨table, (last, some span, value) :: members, htable, .cons (hfits _) hmembers, ?_⟩
    rw [Members.ofStatements, List.foldlM_cons, hadd]
    rw [List.nil_append] at hfold
    simp only [Option.bind_eq_bind, Option.bind_some, hfold]
    rfl

/-! ### Reading fields one after the other -/

/-- Lines that give one field each are read back one by one. -/
theorem linesOnto_fields {line : Field → List Char} {path : List String} {lineEnd : List Char}
    (hend : IsLineEnd lineEnd)
    (hline : ∀ f, ∃ c tail, line f = c :: tail ∧ isBare c = true)
    (hread : ∀ (f : Field) (rest : List Char), rest.head? ≠ some '"' →
      ∃ statement, f.Assigned path statement ∧
        readAssignment (Reader.spanned (readValue nestingLimit)) (line f ++ rest) =
          some (statement, rest))
    (fields : List Field) (read : List Statement)
    (hn : (fields.flatMap fun f => line f ++ lineEnd).length < n) :
    ∃ statements, List.Forall₂ (Assigned path) fields statements ∧
      linesOnto n read (fields.flatMap fun f => line f ++ lineEnd) =
        some (read.reverse ++ statements) := by
  obtain ⟨n, rfl⟩ := Nat.exists_eq_succ_of_ne_zero (Nat.ne_of_gt (Nat.zero_lt_of_lt hn))
  induction fields generalizing read n with
  | nil => exact ⟨[], .nil, by rw [List.append_nil]; exact linesOnto_nil read⟩
  | cons f fields ih =>
    obtain ⟨c, tail, hbegin, hc⟩ := hline f
    have hquote : (lineEnd ++ fields.flatMap fun f => line f ++ lineEnd).head? ≠ some '"' := by
      rcases hend with rfl | rfl <;> simp
    obtain ⟨statement, hassigned, hstatement⟩ := hread f _ hquote
    rw [List.flatMap_cons, List.append_assoc] at hn ⊢
    rw [hbegin, List.cons_append] at hn hstatement ⊢
    rw [← readStatement_bare hc] at hstatement
    rw [linesOnto_line hend (isSolid_of_isBare hc) hstatement]
    have hlength : (fields.flatMap fun f => line f ++ lineEnd).length < n := by
      simp only [List.length_cons, List.length_append] at hn
      omega
    obtain ⟨n, rfl⟩ := Nat.exists_eq_succ_of_ne_zero (Nat.ne_of_gt (Nat.zero_lt_of_lt hlength))
    obtain ⟨statements, hstatements, hlines⟩ := ih (statement :: read) n hlength
    refine ⟨statement :: statements, .cons hassigned hstatements, ?_⟩
    simpa using hlines

/-- Blanks before a statement between braces are of no account. -/
theorem membersOnto_blank {item : Reader (Span × Value)} (read : List Statement) :
    membersOnto item n read (' ' :: cs) = membersOnto item n read cs := by
  have hassignment : readAssignment item (' ' :: cs) = readAssignment item cs := rfl
  cases n with
  | zero => rfl
  | succ n => rw [membersOnto, membersOnto, hassignment]

/-- The form of fields between braces. -/
def writeRow (upper : Bool) (fields : List Field) : List Char :=
  List.intercalate [',', ' '] (fields.map (write upper))

/-- The fields of a table between braces are read back one by one. -/
theorem membersOnto_writeRow (upper : Bool) (depth : Nat) (f : Field) (fields : List Field)
    (rest : List Char) (read : List Statement)
    (hn : (writeRow upper (f :: fields)).length < n) :
    ∃ statements, List.Forall₂ (Assigned []) (f :: fields) statements ∧
      membersOnto (Reader.spanned (readValue (depth + 1))) n read
        (writeRow upper (f :: fields) ++ ' ' :: '\x7d' :: rest) =
          some (read.reverse ++ statements, rest) := by
  obtain ⟨n, rfl⟩ := Nat.exists_eq_succ_of_ne_zero (Nat.ne_of_gt (Nat.zero_lt_of_lt hn))
  induction fields generalizing f read n with
  | nil =>
    obtain ⟨statement, hassigned, hstatement⟩ :=
      f.readAssignment_write upper depth (' ' :: '\x7d' :: rest) (by simp)
    refine ⟨[statement], .cons hassigned .nil, ?_⟩
    rw [writeRow, List.map_singleton, List.intercalate_singleton, membersOnto, hstatement]
    simp [skipBlanks, isBlank]
  | cons next fields ih =>
    have hrow : writeRow upper (f :: next :: fields) =
        f.write upper ++ [',', ' '] ++ writeRow upper (next :: fields) :=
      List.intercalate_cons_cons
    obtain ⟨statement, hassigned, hstatement⟩ := f.readAssignment_write upper depth
      (',' :: ' ' :: (writeRow upper (next :: fields) ++ ' ' :: '\x7d' :: rest)) (by simp)
    have hlength : (writeRow upper (next :: fields)).length < n := by
      rw [hrow] at hn
      simp only [List.length_append, List.length_cons] at hn
      omega
    obtain ⟨n, rfl⟩ := Nat.exists_eq_succ_of_ne_zero (Nat.ne_of_gt (Nat.zero_lt_of_lt hlength))
    obtain ⟨statements, hstatements, hmembers⟩ := ih next (statement :: read) n hlength
    refine ⟨statement :: statements, .cons hassigned hstatements, ?_⟩
    rw [hrow]
    simp only [List.append_assoc, List.cons_append, List.nil_append]
    have hskip : skipBlanks (',' :: ' ' :: (writeRow upper (next :: fields) ++
        ' ' :: '\x7d' :: rest)) = ',' :: ' ' :: (writeRow upper (next :: fields) ++
          ' ' :: '\x7d' :: rest) := skipBlanks_of_solid (by decide)
    rw [membersOnto, hstatement]
    simp only [Option.bind_eq_bind, Option.bind_some, hskip, membersOnto_blank, hmembers,
      List.reverse_cons, List.append_assoc, List.singleton_append]

theorem writeRow_eq_cons (upper : Bool) (f : Field) (fields : List Field) :
    ∃ c tail, writeRow upper (f :: fields) = c :: tail ∧ isBare c = true := by
  obtain ⟨c, tail, hwrite, hc⟩ := f.write_eq_cons upper
  cases fields with
  | nil =>
    rw [writeRow, List.map_singleton, List.intercalate_singleton, hwrite]
    exact ⟨c, _, rfl, hc⟩
  | cons next fields =>
    rw [writeRow, List.map_cons, List.map_cons, List.intercalate_cons_cons, hwrite]
    exact ⟨c, _, rfl, hc⟩

/-- The fields of a table between braces are read back, if there are any. -/
theorem readMembers_writeRow (upper : Bool) (depth : Nat) (fields : List Field)
    (rest : List Char) :
    ∃ statements, List.Forall₂ (Assigned []) fields statements ∧
      readMembers (Reader.spanned (readValue (depth + 1)))
        (' ' :: (writeRow upper fields ++ ' ' :: '\x7d' :: rest)) = some (statements, rest) := by
  rcases fields with _ | ⟨f, fields⟩
  · exact ⟨[], .nil, rfl⟩
  · have hlength : (writeRow upper (f :: fields)).length <
        (writeRow upper (f :: fields) ++ ' ' :: '\x7d' :: rest).length + 1 := by
      simp only [List.length_append]
      omega
    obtain ⟨statements, hstatements, hmembers⟩ :=
      membersOnto_writeRow upper depth f fields rest [] hlength
    obtain ⟨c, tail, hrow, hc⟩ := writeRow_eq_cons upper f fields
    rw [hrow, List.cons_append] at hmembers ⊢
    have hskip : skipBlanks (' ' :: c :: (tail ++ ' ' :: '\x7d' :: rest)) =
        c :: (tail ++ ' ' :: '\x7d' :: rest) := skipBlanks_of_solid (isSolid_of_isBare hc)
    refine ⟨statements, hstatements, ?_⟩
    rw [readMembers, hskip]
    split
    · next hbrace =>
      rw [(List.cons.inj hbrace).1] at hc
      exact absurd hc (by decide)
    · exact hmembers

/-- A table between braces is read back. -/
theorem readValue_braces (upper : Bool) (depth : Nat) (rest : List Char)
    (hnodup : (fields.map name).Nodup) :
    ∃ members, List.Forall₂ Fits fields members ∧
      readValue (depth + 2) ('\x7b' :: ' ' :: (writeRow upper fields ++ ' ' :: '\x7d' :: rest)) =
        some (.table .inline members, rest) := by
  obtain ⟨statements, hstatements, hmembers⟩ := readMembers_writeRow upper depth fields rest
  obtain ⟨members, hfits, hof⟩ := ofStatements_assigned hstatements hnodup
  refine ⟨members, hfits, ?_⟩
  rw [readValue, hmembers]
  simp only [Option.bind_eq_bind, Option.bind_some, hof]
  rfl

end Field

/-! ### The layouts -/

/-- The ways to write the table `exec`. -/
inductive TableForm where
  /-- Under its header. -/
  | header
  /-- Between braces. -/
  | inline
  /-- With dotted keys. -/
  | dotted
  deriving DecidableEq, Repr

/-- The choices in writing a configuration. -/
structure Layout where
  form : TableForm := .header
  /-- Whether the arguments stand before the program. -/
  argsFirst : Bool := false
  /-- Whether a carriage return stands at the end of each line. -/
  carriageReturn : Bool := false
  /-- Whether the text begins with a byte order mark. -/
  byteOrderMark : Bool := false
  /-- Whether the numbers of controls are written with upper-case digits. -/
  upper : Bool := false
  deriving DecidableEq, Repr

namespace Layout

/-- The end of a line. -/
def lineEnd (l : Layout) : List Char := if l.carriageReturn then ['\r', '\n'] else ['\n']

/-- The fields to be written, in order. -/
def fields (l : Layout) (program : Option String) (args : Option (List String)) : List Field :=
  let program := program.toList.map Field.program
  let args := args.toList.map Field.args
  if l.argsFirst then args ++ program else program ++ args

/-- The lines that give fields to the table `exec`. -/
def lines (l : Layout) (fields : List Field) : List Char :=
  match l.form with
  | .header =>
    '[' :: ("exec".toList ++ ']' :: (l.lineEnd ++
      fields.flatMap fun f => f.write l.upper ++ l.lineEnd))
  | .inline =>
    "exec".toList ++ ' ' :: '=' :: ' ' :: '\x7b' :: ' ' :: (Field.writeRow l.upper fields ++
      ' ' :: '\x7d' :: l.lineEnd)
  | .dotted => fields.flatMap fun f => f.writeDotted l.upper ++ l.lineEnd

/-- The text that configures a program and its arguments, each of which may be left out. -/
def text (l : Layout) (program : Option String) (args : Option (List String)) : String :=
  String.ofList ((if l.byteOrderMark then ['\uFEFF'] else []) ++ l.lines (l.fields program args))

theorem isLineEnd_lineEnd (l : Layout) : IsLineEnd l.lineEnd := by
  unfold lineEnd
  split
  · exact .inr rfl
  · exact .inl rfl

/-- Setting the fields that are written gives the configured request. -/
theorem foldl_apply_fields (l : Layout) (program : Option String) (args : Option (List String)) :
    (l.fields program args).foldl Field.apply {} = ⟨program.getD "pwd", args.getD []⟩ := by
  unfold fields
  cases program <;> cases args <;> split <;> rfl

/-- No field is written twice. -/
theorem nodup_fields (l : Layout) (program : Option String) (args : Option (List String)) :
    ((l.fields program args).map Field.name).Nodup := by
  unfold fields
  cases program <;> cases args <;> split <;> simp [Field.name]

/-- The document in a text without a byte order mark. -/
def document (cs : List Char) : Option Members := do
  let statements ← linesOnto (cs.length + 1) [] cs
  Members.ofStatements statements

variable {fields : List Field} {lineEnd : List Char}

/-- The header of the table `exec` is read back. -/
theorem readStatement_header (rest : List Char) :
    ∃ key span, key.name = "exec" ∧
      readStatement ('[' :: ("exec".toList ++ ']' :: rest)) =
        some (.header .inline [] key span, rest) := by
  have hskip : skipBlanks (']' :: rest) = ']' :: rest := skipBlanks_of_solid (by decide)
  have hkey := readKey_bare (n := 78) Field.bare_exec rfl
    (fun more hmore => absurd (hskip.symm.trans hmore) (by simp))
  rw [hskip] at hkey
  have hheader : readHeader .inline ("exec".toList ++ ']' :: rest) =
      some (([], ⟨"exec", ⟨"exec".toList ++ ']' :: rest, ']' :: rest⟩⟩), rest) := by
    rw [readHeader, nestingLimit, hkey]
    rfl
  refine ⟨⟨"exec", ⟨"exec".toList ++ ']' :: rest, ']' :: rest⟩⟩,
    ⟨'[' :: ("exec".toList ++ ']' :: rest), rest⟩, rfl, ?_⟩
  rw [readStatement, hheader]
  · rfl
  · simp

/-- Fields under a header are read back. -/
theorem document_header (upper : Bool) (hend : IsLineEnd lineEnd)
    (hnodup : (fields.map Field.name).Nodup) :
    ∃ members, document ('[' :: ("exec".toList ++ ']' :: (lineEnd ++
        fields.flatMap fun f => f.write upper ++ lineEnd))) = some members ∧
      ofMembers members = .ok (fields.foldl Field.apply {}) := by
  obtain ⟨key, span, hname, hheader⟩ :=
    readStatement_header (lineEnd ++ fields.flatMap fun f => f.write upper ++ lineEnd)
  have hlength : (fields.flatMap fun f => f.write upper ++ lineEnd).length <
      ('[' :: ("exec".toList ++ ']' :: (lineEnd ++
        fields.flatMap fun f => f.write upper ++ lineEnd))).length := by
    simp only [List.length_cons, List.length_append]
    omega
  obtain ⟨statements, hstatements, hlines⟩ := Field.linesOnto_fields hend
    (fun f => f.write_eq_cons upper)
    (fun f rest hrest => f.readAssignment_write upper 78 rest hrest) fields
    [.header .inline [] key span] hlength
  obtain ⟨inner, own, hfits, hof⟩ := Field.ofStatements_header key span hstatements hnodup
  refine ⟨[(key, own, .table .header inner)], ?_, Field.ofMembers_of_fits hname hfits⟩
  rw [document, linesOnto_line hend (by decide) hheader, hlines]
  exact hof

/-- Fields between braces are read back. -/
theorem document_inline (upper : Bool) (hend : IsLineEnd lineEnd)
    (hnodup : (fields.map Field.name).Nodup) :
    ∃ members, document ("exec".toList ++ ' ' :: '=' :: ' ' :: '\x7b' :: ' ' ::
        (Field.writeRow upper fields ++ ' ' :: '\x7d' :: lineEnd)) = some members ∧
      ofMembers members = .ok (fields.foldl Field.apply {}) := by
  obtain ⟨inner, hfits, hread⟩ := Field.readValue_braces upper 77 lineEnd hnodup
  obtain ⟨span', hbraces⟩ : ∃ span', Reader.spanned (readValue nestingLimit)
      ('\x7b' :: ' ' :: (Field.writeRow upper fields ++ ' ' :: '\x7d' :: lineEnd)) =
        some ((span', .table .inline inner), lineEnd) := by
    refine ⟨⟨'\x7b' :: ' ' :: (Field.writeRow upper fields ++ ' ' :: '\x7d' :: lineEnd), lineEnd⟩,
      ?_⟩
    rw [Reader.spanned, nestingLimit, hread]
    rfl
  obtain ⟨span, hkey⟩ := readKey_equals 78 (' ' :: '\x7b' :: ' ' ::
    (Field.writeRow upper fields ++ ' ' :: '\x7d' :: lineEnd)) Field.bare_exec
  obtain ⟨c, tail, hchars, hc⟩ := Field.bare_exec.eq_cons
  have hstatement := readAssignment_of_key hkey (by decide) hbraces
  rw [hchars, List.cons_append, ← readStatement_bare hc] at hstatement
  refine ⟨[(⟨"exec", span⟩, some span', .table .inline inner)], ?_,
    Field.ofMembers_of_fits rfl hfits⟩
  rw [document, hchars, List.cons_append,
    linesOnto_single hend (isSolid_of_isBare hc) hstatement]
  rfl

/-- Fields with dotted keys are read back. -/
theorem document_dotted (upper : Bool) (hend : IsLineEnd lineEnd)
    (hnodup : (fields.map Field.name).Nodup) :
    ∃ members, document (fields.flatMap fun f => f.writeDotted upper ++ lineEnd) = some members ∧
      ofMembers members = .ok (fields.foldl Field.apply {}) := by
  have hline (f : Field) : ∃ c tail, f.writeDotted upper = c :: tail ∧ isBare c = true := by
    obtain ⟨c, tail, hchars, hc⟩ := Field.bare_exec.eq_cons
    exact ⟨c, _, by rw [Field.writeDotted, hchars, List.cons_append], hc⟩
  obtain ⟨statements, hstatements, hlines⟩ := Field.linesOnto_fields hend hline
    (fun f rest hrest => f.readAssignment_writeDotted upper 78 rest hrest) fields []
    (Nat.lt_succ_self (fields.flatMap fun f => f.writeDotted upper ++ lineEnd).length)
  unfold document
  rw [hlines]
  rcases Field.ofStatements_dotted hstatements hnodup with
    ⟨rfl, hof⟩ | ⟨key, inner, hname, hfits, hof⟩
  · exact ⟨[], hof, rfl⟩
  · exact ⟨_, hof, Field.ofMembers_of_fits hname hfits⟩

/-- The lines are read back as a document with the fields in the table `exec`. -/
theorem document_lines (l : Layout) (hnodup : (fields.map Field.name).Nodup) :
    ∃ members, document (l.lines fields) = some members ∧
      ofMembers members = .ok (fields.foldl Field.apply {}) := by
  unfold lines
  split
  · exact document_header l.upper l.isLineEnd_lineEnd hnodup
  · exact document_inline l.upper l.isLineEnd_lineEnd hnodup
  · exact document_dotted l.upper l.isLineEnd_lineEnd hnodup

theorem head?_lines (l : Layout) : (l.lines fields).head? ≠ some '\uFEFF' := by
  obtain ⟨c, tail, hchars, hc⟩ := Field.bare_exec.eq_cons
  have hne : c ≠ '\uFEFF' := by
    rintro rfl
    exact absurd hc (by decide)
  unfold lines
  split
  · simp
  · simp [hchars, hne]
  · cases fields with
    | nil => simp
    | cons f fields => simp [Field.writeDotted, hchars, hne]

/-- A byte order mark is of no account. -/
theorem parse_toList (l : Layout) (program : Option String) (args : Option (List String)) :
    Toml.parse (l.text program args).toList = document (l.lines (l.fields program args)) := by
  have hmark : dropMark (l.text program args).toList = l.lines (l.fields program args) := by
    rw [text, String.toList_ofList]
    split
    · rfl
    · rw [List.nil_append, dropMark]
      rintro cs hcs
      exact l.head?_lines (by rw [hcs]; rfl)
  rw [Toml.parse, hmark]
  rfl

end Layout

/-- Whatever the layout, a written configuration is read back exactly, and what is left out has its
default; without overrides, the argument vector is the program with its arguments after it. -/
theorem parse_text (l : Layout) (program : Option String) (args : Option (List String)) :
    parse (l.text program args) = .ok ⟨program.getD "pwd", args.getD []⟩ ∧
      (parse (l.text program args)).map (fun r => (r.override {}).argv) =
        .ok (program.getD "pwd" :: args.getD []) := by
  have hparse : parse (l.text program args) = .ok ⟨program.getD "pwd", args.getD []⟩ := by
    obtain ⟨members, hmembers, hof⟩ := l.document_lines (l.nodup_fields program args)
    rw [l.foldl_apply_fields] at hof
    rw [parse, l.parse_toList, hmembers]
    simp only [hof]
    rfl
  refine ⟨hparse, ?_⟩
  rw [hparse]
  rfl

example : Layout.text {} (some "echo") (some ["a\"b", "\x01"]) =
    "[exec]\nprogram = \"echo\"\nargs = [\"a\\\"b\", \"\\u0001\"]\n" := by decide

end ImageSwap.Config
