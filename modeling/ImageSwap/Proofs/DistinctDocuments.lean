import ImageSwap.Proofs.DistinctNames

/-!
# A document gives no name twice

Whatever text a document is read from, none of its tables gives a name twice. A reader of values
makes only such values when the readers of the values inside do, and these are nested less deep.
-/

namespace ImageSwap.Toml

/-- Whatever a reader makes has a property. -/
def Reader.Makes {α : Type} (P : α → Prop) (reader : Reader α) : Prop :=
  ∀ cs a rest, reader cs = some (a, rest) → P a

section Readers

variable {cs rest : List Char} {n : Nat}

theorem Reader.Makes.spanned {α : Type} {P : α → Prop} {reader : Reader α} (h : reader.Makes P) :
    (Reader.spanned reader).Makes fun a => P a.2 := by
  intro cs a rest hread
  obtain ⟨⟨b, rest⟩, hb, ha⟩ := Option.bind_eq_some_iff.mp hread
  cases ha
  exact h _ _ _ hb

theorem makes_elementsOnto {item : Reader (Option Span × Value)}
    (hitem : item.Makes fun e => e.2.Distinct) {read elements : List (Option Span × Value)}
    (hread : ∀ e ∈ read, e.2.Distinct)
    (h : elementsOnto item n read cs = some (elements, rest)) : ∀ e ∈ elements, e.2.Distinct := by
  induction n generalizing read cs with
  | zero => cases h
  | succ n ih =>
    rw [elementsOnto] at h
    split at h
    · cases h
      exact fun e he => hread e (List.mem_reverse.mp he)
    · obtain ⟨⟨element, after⟩, helement, h⟩ := Option.bind_eq_some_iff.mp h
      have hcons : ∀ e ∈ element :: read, e.2.Distinct :=
        List.forall_mem_cons.mpr ⟨hitem _ _ _ helement, hread⟩
      dsimp only at h
      split at h
      · exact ih hcons h
      · cases h
        exact fun e he => hcons e (List.mem_reverse.mp he)
      · cases h

theorem makes_readAssignment {item : Reader (Span × Value)}
    (hitem : item.Makes fun e => e.2.Distinct) :
    (readAssignment item).Makes Statement.Distinct := by
  intro cs statement rest h
  obtain ⟨⟨⟨path, key⟩, after⟩, -, h⟩ := Option.bind_eq_some_iff.mp h
  dsimp only at h
  split at h
  · obtain ⟨⟨⟨span, value⟩, last⟩, hvalue, h⟩ := Option.bind_eq_some_iff.mp h
    cases h
    exact hitem _ _ _ hvalue
  · cases h

theorem makes_membersOnto {item : Reader (Span × Value)}
    (hitem : item.Makes fun e => e.2.Distinct) {read statements : List Statement}
    (hread : ∀ s ∈ read, s.Distinct)
    (h : membersOnto item n read cs = some (statements, rest)) :
    ∀ s ∈ statements, s.Distinct := by
  induction n generalizing read cs with
  | zero => cases h
  | succ n ih =>
    obtain ⟨⟨statement, after⟩, hstatement, h⟩ := Option.bind_eq_some_iff.mp h
    have hcons : ∀ s ∈ statement :: read, s.Distinct :=
      List.forall_mem_cons.mpr ⟨makes_readAssignment hitem _ _ _ hstatement, hread⟩
    dsimp only at h
    split at h
    · exact ih hcons h
    · cases h
      exact fun s hs => hcons s (List.mem_reverse.mp hs)
    · cases h

theorem makes_readMembers {item : Reader (Span × Value)}
    (hitem : item.Makes fun e => e.2.Distinct) :
    (readMembers item).Makes fun statements => ∀ s ∈ statements, s.Distinct := by
  intro cs statements rest h
  unfold readMembers at h
  split at h
  · cases h
    simp
  · exact makes_membersOnto hitem (by simp) h

theorem makes_readScalar : Reader.Makes Value.Distinct readScalar := by
  intro cs value rest h
  unfold readScalar at h
  split at h
  · cases h
    exact .boolean true
  · cases h
    exact .boolean false
  · split at h
    · obtain ⟨⟨s, after⟩, -, h⟩ := Option.map_eq_some_iff.mp h
      cases h
      exact .string s
    · rcases Option.or_eq_some_iff.mp h with h | ⟨-, h⟩
      · obtain ⟨⟨_, after⟩, -, h⟩ := Option.map_eq_some_iff.mp h
        cases h
        exact .moment
      · rcases Option.or_eq_some_iff.mp h with h | ⟨-, h⟩
        · obtain ⟨⟨x, after⟩, -, h⟩ := Option.map_eq_some_iff.mp h
          cases h
          exact .float x
        · obtain ⟨⟨i, after⟩, -, h⟩ := Option.map_eq_some_iff.mp h
          cases h
          exact .integer i
  · cases h

/-- The values that are read give no name twice, however deep they are nested. -/
theorem makes_readValue (depth : Nat) : Reader.Makes Value.Distinct (readValue depth) := by
  induction depth with
  | zero =>
    intro cs value rest h
    unfold readValue at h
    split at h
    · cases h
    · cases h
    · exact makes_readScalar _ _ _ h
  | succ depth ih =>
    intro cs value rest h
    unfold readValue at h
    split at h
    · obtain ⟨⟨elements, after⟩, helements, h⟩ := Option.bind_eq_some_iff.mp h
      cases h
      refine Value.distinct_array_iff.mpr (makes_elementsOnto ?_ (by simp) helements)
      intro cs element rest helement
      obtain ⟨⟨⟨span, value⟩, after⟩, hvalue, helement⟩ := Option.bind_eq_some_iff.mp helement
      cases helement
      exact ih.spanned _ _ _ hvalue
    · obtain ⟨⟨statements, after⟩, hstatements, h⟩ := Option.bind_eq_some_iff.mp h
      obtain ⟨members, hmembers, h⟩ := Option.bind_eq_some_iff.mp h
      cases h
      exact Value.distinct_table_iff.mpr (Members.distinct_ofStatements
        (makes_readMembers ih.spanned _ _ _ hstatements) hmembers)
    · exact makes_readScalar _ _ _ h

theorem makes_readStatement : Reader.Makes Statement.Distinct readStatement := by
  intro cs statement rest h
  unfold readStatement at h
  split at h
  · obtain ⟨⟨⟨path, key⟩, after⟩, -, h⟩ := Option.bind_eq_some_iff.mp h
    cases h
    trivial
  · obtain ⟨⟨⟨path, key⟩, after⟩, -, h⟩ := Option.bind_eq_some_iff.mp h
    cases h
    trivial
  · exact makes_readAssignment (makes_readValue nestingLimit).spanned _ _ _ h

theorem makes_linesOnto {read statements : List Statement} (hread : ∀ s ∈ read, s.Distinct)
    (h : linesOnto n read cs = some statements) : ∀ s ∈ statements, s.Distinct := by
  induction n generalizing read cs with
  | zero => cases h
  | succ n ih =>
    rw [linesOnto] at h
    split at h
    · cases h
      exact fun s hs => hread s (List.mem_reverse.mp hs)
    · split at h
      · exact ih hread h
      · obtain ⟨⟨statement, after⟩, hstatement, h⟩ := Option.bind_eq_some_iff.mp h
        obtain ⟨after, -, h⟩ := Option.bind_eq_some_iff.mp h
        exact ih (List.forall_mem_cons.mpr ⟨makes_readStatement _ _ _ hstatement, hread⟩) h

end Readers

/-- No table of a document gives a name twice. -/
theorem distinct_of_parse {text : List Char} {members : Members}
    (h : parse text = some members) : members.Distinct := by
  obtain ⟨statements, hstatements, hmembers⟩ := Option.bind_eq_some_iff.mp h
  exact Members.distinct_ofStatements (makes_linesOnto (by simp) hstatements) hmembers

end ImageSwap.Toml
