import ImageSwap.Proofs.JsonLayout

/-!
# Reading back written documents

Both forms of a value are read back as the value, whatever the blanks between its parts are, as long
as its numbers are whole and fit into 64 bits and it is not nested too deep.
-/

namespace ImageSwap.Json

variable {l : Layout} {level depth n : Nat} {v : Json} {s : String} {c : Char}
variable {cs blanks rest : List Char} {item : Reader Json}

/-! ## Blanks -/

theorem skipBlanks_append (hblanks : blanks.all isBlank) (cs : List Char) :
    skipBlanks (blanks ++ cs) = skipBlanks cs := by
  rw [List.all_eq_true] at hblanks
  exact List.dropWhile_append_of_pos hblanks

theorem skipBlanks_cons (hc : isBlank c = false) : skipBlanks (c :: cs) = c :: cs :=
  List.dropWhile_cons_of_neg (by simpa [isBlank] using hc)

theorem EndsNumber.append (hblanks : blanks.all isBlank) (h : EndsNumber rest) :
    EndsNumber (blanks ++ rest) := by
  cases blanks with
  | nil => exact h
  | cons b blanks =>
    have hb : isBlank b = true := by
      simp only [List.all_cons, Bool.and_eq_true] at hblanks
      exact hblanks.1
    simp only [isBlank, Bool.or_eq_true, beq_iff_eq] at hb
    rintro c hc
    cases hc
    rcases hb with ((rfl | rfl) | rfl) | rfl <;> decide

/-! ## The reader's steps -/

theorem readValue_append (hblanks : blanks.all isBlank) :
    readValue depth (blanks ++ cs) = readValue depth cs := by
  unfold readValue
  simp only [skipBlanks_append hblanks]

theorem readValue_textChars : readValue depth (textChars s ++ rest) = .ok (str s, rest) := by
  have hquote : skipBlanks (textChars s ++ rest) =
      '"' :: (s.toList.flatMap escapeChar ++ '"' :: rest) := by
    simp [textChars, skipBlanks_cons, isBlank]
  unfold readValue
  simp only [hquote, readText_flatMap, Except.map]

/-- What a number begins with is neither a blank nor the beginning or the end of something else. -/
theorem ne_of_beginsNumber (hc : (c == '-' || c.isDigit) = true) :
    isBlank c = false ∧ c ≠ ']' ∧ c ≠ 'n' ∧ c ≠ 't' ∧ c ≠ 'f' ∧ c ≠ '"' ∧ c ≠ '[' ∧
      c ≠ '\x7b' := by
  refine ⟨?_, ?_, ?_, ?_, ?_, ?_, ?_, ?_⟩
  · rw [← Bool.not_eq_true]
    intro hblank
    simp only [isBlank, Bool.or_eq_true, beq_iff_eq] at hblank
    rcases hblank with ((rfl | rfl) | rfl) | rfl <;> revert hc <;> decide
  all_goals
    rintro rfl
    revert hc
    decide

theorem readValue_toString {n : Int} (hn : Whole n) (hrest : EndsNumber rest) :
    readValue depth ((toString n).toList ++ rest) = .ok (int n, rest) := by
  obtain ⟨c, cs, hcs, hc⟩ := toString_eq_cons n
  have hread := readNumber_toString hn hrest
  rw [hcs, List.cons_append] at hread ⊢
  obtain ⟨hblank, -, hn, ht, hf, hquote, hbracket, hbrace⟩ := ne_of_beginsNumber hc
  unfold readValue
  simp only [skipBlanks_cons hblank]
  rw [if_pos hc, hread]

theorem readValue_bracket :
    readValue (depth + 1) ('[' :: cs) =
      (elementsOnto (readValue depth) (cs.length + 1) [] cs).map fun (vs, rest) =>
        (arr vs, rest) := by
  rw [readValue]
  simp only [skipBlanks_cons (rfl : isBlank '[' = false)]

theorem readValue_brace :
    readValue (depth + 1) ('\x7b' :: cs) =
      (membersOnto (readValue depth) (cs.length + 1) [] cs).map fun (ms, rest) =>
        (obj ms, rest) := by
  rw [readValue]
  simp only [skipBlanks_cons (rfl : isBlank '\x7b' = false)]

theorem elementsOnto_close (hblanks : blanks.all isBlank) (read : List Json) :
    elementsOnto item (n + 1) read (blanks ++ ']' :: rest) = .ok (read.reverse, rest) := by
  simp only [elementsOnto, skipBlanks_append hblanks, skipBlanks_cons (rfl : isBlank ']' = false)]

theorem elementsOnto_first (hblanks : blanks.all isBlank) (hc : isBlank c = false) (hne : c ≠ ']')
    (h : item (c :: cs) = .ok (v, rest)) :
    elementsOnto item (n + 1) [] (blanks ++ c :: cs) = elementsOnto item n [v] rest := by
  rw [elementsOnto, skipBlanks_append hblanks, skipBlanks_cons hc]
  split
  · next heq => cases heq
  · next heq => exact absurd (List.cons.inj heq).1 hne
  · next heq =>
    cases heq
    simp [h, bind, Except.bind]

theorem elementsOnto_next (hblanks : blanks.all isBlank) (hc : isBlank c = false) (hne : c ≠ ']')
    (h : item (c :: cs) = .ok (v, rest)) {read : List Json} (hread : read ≠ []) :
    elementsOnto item (n + 1) read (',' :: (blanks ++ c :: cs)) =
      elementsOnto item n (v :: read) rest := by
  rw [elementsOnto, skipBlanks_cons rfl]
  split
  · next heq => cases heq
  · next heq => simp at heq
  · next heq =>
    cases heq
    rw [if_neg (by simpa using hread), if_pos (beq_self_eq_true _), skipBlanks_append hblanks,
      skipBlanks_cons hc]
    split
    · next heq => exact absurd (List.cons.inj heq).1 hne
    · simp [h, bind, Except.bind]

theorem readMember_textChars (name : String) (h : item cs = .ok (v, rest)) :
    readMember item (textChars name ++ ':' :: cs) = .ok ((name, v), rest) := by
  have hquote : textChars name ++ ':' :: cs =
      '"' :: (name.toList.flatMap escapeChar ++ '"' :: ':' :: cs) := by
    simp [textChars]
  rw [hquote, readMember]
  simp [readText_flatMap, skipBlanks_cons, isBlank, h, bind, Except.bind]

theorem membersOnto_close (hblanks : blanks.all isBlank) (read : List (String × Json)) :
    membersOnto item (n + 1) read (blanks ++ '\x7d' :: rest) = .ok (read.reverse, rest) := by
  simp only [membersOnto, skipBlanks_append hblanks,
    skipBlanks_cons (rfl : isBlank '\x7d' = false)]

variable {m : String × Json}

theorem membersOnto_first (hblanks : blanks.all isBlank)
    (h : readMember item ('"' :: cs) = .ok (m, rest)) :
    membersOnto item (n + 1) [] (blanks ++ '"' :: cs) = membersOnto item n [m] rest := by
  rw [membersOnto, skipBlanks_append hblanks, skipBlanks_cons rfl]
  simp [h, bind, Except.bind]

theorem membersOnto_next (hblanks : blanks.all isBlank)
    (h : readMember item ('"' :: cs) = .ok (m, rest)) {read : List (String × Json)}
    (hread : read ≠ []) :
    membersOnto item (n + 1) read (',' :: (blanks ++ '"' :: cs)) =
      membersOnto item n (m :: read) rest := by
  rw [membersOnto, skipBlanks_cons rfl]
  split
  · next heq => cases heq
  · next heq => simp at heq
  · next heq =>
    cases heq
    rw [if_neg (by simpa using hread), if_pos (beq_self_eq_true _), skipBlanks_append hblanks,
      skipBlanks_cons rfl]
    simp [h, bind, Except.bind]

/-! ## Laid out values -/

/-- A written value begins with neither a blank nor a closing bracket. -/
theorem laidOut_eq_cons (h : FitsIn depth v) (l : Layout) (level : Nat) :
    ∃ c cs, laidOut l level v = c :: cs ∧ isBlank c = false ∧ c ≠ ']' := by
  cases h with
  | null => exact ⟨'n', ['u', 'l', 'l'], by simp [laidOut, scalarChars], by decide⟩
  | @bool _ b =>
    cases b with
    | false => exact ⟨'f', ['a', 'l', 's', 'e'], by simp [laidOut, scalarChars], by decide⟩
    | true => exact ⟨'t', ['r', 'u', 'e'], by simp [laidOut, scalarChars], by decide⟩
  | @int _ n =>
    obtain ⟨c, cs, hcs, hc⟩ := toString_eq_cons n
    obtain ⟨hblank, hbracket, -⟩ := ne_of_beginsNumber hc
    exact ⟨c, cs, by simp only [laidOut, scalarChars, hcs], hblank, hbracket⟩
  | str => exact ⟨'"', _, by simp only [laidOut, scalarChars, textChars]; rfl, by decide⟩
  | @arr _ elements =>
    cases elements with
    | nil => exact ⟨'[', [']'], by simp only [laidOut], by decide⟩
    | cons => exact ⟨'[', _, by simp only [laidOut]; rfl, by decide⟩
  | @obj _ members =>
    cases members with
    | nil => exact ⟨'\x7b', ['\x7d'], by simp only [laidOut], by decide⟩
    | cons => exact ⟨'\x7b', _, by simp only [laidOut]; rfl, by decide⟩

theorem endsNumber_laidOutElements (l : Layout) (level : Nat) (vs : List Json) (rest : List Char) :
    EndsNumber (laidOutElements l level vs ++ rest) := by
  cases vs with
  | nil =>
    rw [laidOutElements, List.append_assoc]
    exact .append (l.isBlank_gap level) (by rintro c ⟨⟩; decide)
  | cons v vs =>
    rw [laidOutElements]
    rintro c ⟨⟩
    decide

theorem endsNumber_laidOutMembers (l : Layout) (level : Nat) (ms : List (String × Json))
    (rest : List Char) : EndsNumber (laidOutMembers l level ms ++ rest) := by
  cases ms with
  | nil =>
    rw [laidOutMembers, List.append_assoc]
    exact .append (l.isBlank_gap level) (by rintro c ⟨⟩; decide)
  | cons m ms =>
    rw [laidOutMembers]
    rintro c ⟨⟩
    decide

/-- A reader of values reads back the form of a value on a level, whatever stands after it that
does not go on with a number, and whatever blanks stand before it. -/
def ReadsBack (item : Reader Json) (l : Layout) (level : Nat) (v : Json) : Prop :=
  ∀ blanks rest, blanks.all isBlank → EndsNumber rest →
    item (blanks ++ laidOut l level v ++ rest) = .ok (v, rest)

theorem ReadsBack.exists_cons (h : ReadsBack item l level v) (hfit : FitsIn depth v)
    (hrest : EndsNumber rest) :
    ∃ c cs, laidOut l level v ++ rest = c :: cs ∧ isBlank c = false ∧ c ≠ ']' ∧
      item (c :: cs) = .ok (v, rest) := by
  obtain ⟨c, cs, hcs, hblank, hbracket⟩ := laidOut_eq_cons hfit l level
  have hitem := h [] rest rfl hrest
  rw [List.nil_append, hcs] at hitem
  exact ⟨c, cs ++ rest, by rw [hcs, List.cons_append], hblank, hbracket, hitem⟩

/-- The elements that follow those already read are read back. -/
theorem elementsOnto_laidOutElements {vs read : List Json}
    (hitem : ∀ v ∈ vs, ReadsBack item l (level + 1) v) (hfits : ∀ v ∈ vs, FitsIn depth v)
    (hread : read ≠ []) (hn : vs.length < n) :
    elementsOnto item n read (laidOutElements l level vs ++ rest) =
      .ok (read.reverse ++ vs, rest) := by
  induction vs generalizing read n with
  | nil =>
    obtain ⟨n, rfl⟩ := Nat.exists_eq_add_of_lt hn
    rw [laidOutElements, List.append_assoc, List.append_nil]
    exact elementsOnto_close (l.isBlank_gap level) read
  | cons v vs ih =>
    obtain ⟨n, rfl⟩ := Nat.exists_eq_add_of_lt hn
    obtain ⟨hv, hvs⟩ := List.forall_mem_cons.mp hitem
    obtain ⟨hfit, hfits⟩ := List.forall_mem_cons.mp hfits
    obtain ⟨c, cs, hcs, hblank, hbracket, hitem⟩ :=
      hv.exists_cons hfit (endsNumber_laidOutElements l level vs rest)
    simp only [laidOutElements, List.cons_append, List.append_assoc]
    rw [hcs, elementsOnto_next (l.isBlank_gap (level + 1)) hblank hbracket hitem hread,
      ih hvs hfits (List.cons_ne_nil _ _) (by simp; omega)]
    simp

/-- A written member is read back. -/
theorem readMember_laidOut (name : String) (h : ReadsBack item l level v)
    (hrest : EndsNumber rest) :
    readMember item
        (textChars name ++ ':' :: (l.afterColon ++ (laidOut l level v ++ rest))) =
      .ok ((name, v), rest) := by
  refine readMember_textChars name ?_
  rw [← List.append_assoc]
  exact h _ _ l.isBlank_afterColon hrest

/-- The members that follow those already read are read back. -/
theorem membersOnto_laidOutMembers {ms read : List (String × Json)}
    (hitem : ∀ m ∈ ms, ReadsBack item l (level + 1) m.2) (hread : read ≠ [])
    (hn : ms.length < n) :
    membersOnto item n read (laidOutMembers l level ms ++ rest) =
      .ok (read.reverse ++ ms, rest) := by
  induction ms generalizing read n with
  | nil =>
    obtain ⟨n, rfl⟩ := Nat.exists_eq_add_of_lt hn
    rw [laidOutMembers, List.append_assoc, List.append_nil]
    exact membersOnto_close (l.isBlank_gap level) read
  | cons m ms ih =>
    obtain ⟨n, rfl⟩ := Nat.exists_eq_add_of_lt hn
    obtain ⟨name, v⟩ := m
    obtain ⟨hv, hms⟩ := List.forall_mem_cons.mp hitem
    have hmember := readMember_laidOut name hv (endsNumber_laidOutMembers l level ms rest)
    rw [laidOutMembers]
    simp only [textChars, List.cons_append, List.append_assoc] at hmember ⊢
    rw [membersOnto_next (l.isBlank_gap (level + 1)) hmember hread,
      ih hms (List.cons_ne_nil _ _) (by simp; omega)]
    simp

theorem length_lt_laidOutElements (l : Layout) (level : Nat) (vs : List Json) :
    vs.length < (laidOutElements l level vs).length := by
  induction vs with
  | nil => simp [laidOutElements]
  | cons v vs ih =>
    simp only [laidOutElements, List.length_append, List.length_cons]
    omega

theorem length_lt_laidOutMembers (l : Layout) (level : Nat) (ms : List (String × Json)) :
    ms.length < (laidOutMembers l level ms).length := by
  induction ms with
  | nil => simp [laidOutMembers]
  | cons m ms ih =>
    simp only [laidOutMembers, List.length_append, List.length_cons]
    omega

/-- The reader passes over blanks before a value by itself. -/
theorem ReadsBack.of_forall
    (h : ∀ rest, EndsNumber rest → readValue depth (laidOut l level v ++ rest) = .ok (v, rest)) :
    ReadsBack (readValue depth) l level v := by
  intro blanks rest hblanks hrest
  rw [List.append_assoc, readValue_append hblanks]
  exact h rest hrest

theorem readsBack_arr {elements : List Json} (hfits : ∀ v ∈ elements, FitsIn depth v)
    (h : ∀ v ∈ elements, ReadsBack (readValue depth) l (level + 1) v) :
    ReadsBack (readValue (depth + 1)) l level (arr elements) := by
  refine .of_forall fun rest _ => ?_
  cases elements with
  | nil =>
    simp [laidOut, readValue_bracket, elementsOnto, skipBlanks_cons, isBlank, Except.map]
  | cons v vs =>
    obtain ⟨hv, hvs⟩ := List.forall_mem_cons.mp h
    obtain ⟨hfit, hfits⟩ := List.forall_mem_cons.mp hfits
    obtain ⟨c, cs, hcs, hblank, hbracket, hitem⟩ :=
      hv.exists_cons hfit (endsNumber_laidOutElements l level vs rest)
    -- Every element takes a comma at least, so there are fewer of them than characters.
    have hlength : vs.length < (c :: cs).length := by
      have hmore := length_lt_laidOutElements l level vs
      rw [← hcs, List.length_append, List.length_append]
      omega
    simp only [laidOut, List.cons_append, List.append_assoc, readValue_bracket]
    rw [hcs, elementsOnto_first (l.isBlank_gap (level + 1)) hblank hbracket hitem,
      elementsOnto_laidOutElements hvs hfits (List.cons_ne_nil _ _)
        (by rw [List.length_append]; omega)]
    rfl

theorem readsBack_obj {members : List (String × Json)}
    (h : ∀ m ∈ members, ReadsBack (readValue depth) l (level + 1) m.2) :
    ReadsBack (readValue (depth + 1)) l level (obj members) := by
  refine .of_forall fun rest _ => ?_
  cases members with
  | nil =>
    simp [laidOut, readValue_brace, membersOnto, skipBlanks_cons, isBlank, Except.map]
  | cons m ms =>
    obtain ⟨name, v⟩ := m
    obtain ⟨hv, hms⟩ := List.forall_mem_cons.mp h
    have hmember := readMember_laidOut name hv (endsNumber_laidOutMembers l level ms rest)
    have hlength := length_lt_laidOutMembers l level ms
    simp only [laidOut, textChars, List.cons_append, List.append_assoc, readValue_brace]
      at hmember ⊢
    rw [membersOnto_first (l.isBlank_gap (level + 1)) hmember,
      membersOnto_laidOutMembers hms (List.cons_ne_nil _ _) (by simp; omega)]
    rfl

/-- A written value is read back. -/
theorem readsBack_readValue (h : FitsIn depth v) (l : Layout) (level : Nat) :
    ReadsBack (readValue depth) l level v := by
  induction h generalizing level with
  | null =>
    refine .of_forall fun rest _ => ?_
    simp [laidOut, scalarChars, readValue, skipBlanks_cons, isBlank, readWord]
  | @bool _ b =>
    refine .of_forall fun rest _ => ?_
    cases b <;> simp [laidOut, scalarChars, readValue, skipBlanks_cons, isBlank, readWord]
  | int hn =>
    refine .of_forall fun rest hrest => ?_
    simp only [laidOut, scalarChars]
    exact readValue_toString hn hrest
  | str =>
    refine .of_forall fun rest _ => ?_
    simp only [laidOut, scalarChars]
    exact readValue_textChars
  | arr hfits ih => exact readsBack_arr hfits fun v hv => ih v hv (level + 1)
  | obj _ ih => exact readsBack_obj fun m hm => ih m hm (level + 1)

/-! ## Documents -/

/-- A written document is read as the value that it writes, whatever blanks follow it. -/
theorem readDocument_laidOut (h : FitsIn depth v) (l : Layout) (hblanks : blanks.all isBlank) :
    readDocument depth (laidOut l 0 v ++ blanks) = .ok v := by
  have hends : EndsNumber (blanks ++ []) := .append hblanks (by rintro c ⟨⟩)
  rw [List.append_nil] at hends
  have hread := readsBack_readValue h l 0 [] blanks rfl hends
  have hskip : skipBlanks blanks = [] := by
    simpa [skipBlanks] using skipBlanks_append hblanks []
  rw [List.nil_append] at hread
  simp only [readDocument, hread, bind, Except.bind, hskip]

theorem decode_of_readDocument {text : String}
    (h : readDocument nestingLimit text.toList = .ok v) : decode text = .ok v := by
  rw [decode, h]
  rfl

/-- The compact form of a value on a line of its own is read as the value. -/
theorem decode_compact (h : FitsIn nestingLimit v) (blanks : List Char)
    (hblanks : blanks.all isBlank) : decode (v.compact ++ String.ofList blanks) = .ok v := by
  refine decode_of_readDocument ?_
  simpa [compact, ← laidOut_line 0 v] using readDocument_laidOut h .line hblanks

theorem decode_indented (h : FitsIn nestingLimit v) (blanks : List Char)
    (hblanks : blanks.all isBlank) : decode (v.indented ++ String.ofList blanks) = .ok v := by
  refine decode_of_readDocument ?_
  simpa [indented, ← laidOut_block 0 v] using readDocument_laidOut h .block hblanks

end ImageSwap.Json
