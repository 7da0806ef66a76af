import ImageSwap.Proofs.LineReading

/-!
# Arguments behind a double dash

All words behind the first double dash are arguments for the program, word by word and in order,
whatever they look like; no word before it ever is. The options that stand before it say the same
with and without arguments.
-/

namespace ImageSwap.CommandLine

section

variable {scope : Scope} {words : List Bytes} {g g' : Given}

theorem Item.arguments_eq (h : Item .run g words g') : g'.arguments = g.arguments := by
  cases h with
  | attached _ _ htake => exact Given.arguments_of_take htake
  | apart _ _ _ htake => exact Given.arguments_of_take htake
  | verbose => rfl
  | argument hscope => cases hscope

/-- No word before a double dash is an argument of a run. -/
theorem Says.arguments_eq (h : Says .run g words g') (hdash : doubleDash ∉ words) :
    g'.arguments = g.arguments := by
  induction h with
  | nothing => rfl
  | item hitem _ ih =>
    rw [ih fun h => hdash (List.mem_append_right _ h), hitem.arguments_eq]
  | behind => exact absurd List.mem_cons_self hdash

/-- What the words of a run say is what those before a double dash say, and arguments. -/
theorem says_run_iff (hdash : doubleDash ∉ words) {more : List Bytes} :
    Says .run {} (words ++ doubleDash :: more) g' ↔
      ∃ g, Says .run {} words g ∧ g.arguments = [] ∧ ∃ arguments : List String,
        more = arguments.map Bytes.ofString ∧ g' = { g with arguments } := by
  constructor
  · intro h
    obtain ⟨g, hsaid, -, htake⟩ := h.split hdash
    have hnone : g.arguments = [] := hsaid.arguments_eq hdash
    obtain ⟨arguments, rfl, rfl⟩ := Given.takeArguments_eq_ok_iff.mp htake
    exact ⟨g, hsaid, hnone, arguments, rfl, by simp [hnone]⟩
  · rintro ⟨g, hsaid, hnone, arguments, rfl, rfl⟩
    refine hsaid.append hdash (.behind (Or.inr (Or.inl rfl)) ?_)
    exact Given.takeArguments_eq_ok_iff.mpr ⟨arguments, rfl, by simp [hnone]⟩

theorem commandOf_eq_run_iff {o : Overrides} :
    commandOf scope g = some (.run o) ↔ scope = .run ∧ o = ⟨g.program, g.arguments⟩ := by
  cases scope <;> simp [commandOf, eq_comm]

variable {fallback : Option Bytes} {i : Invocation} {o : Overrides} {before : List Bytes}

/-- Texts behind a double dash become the arguments of a run, and change nothing else. -/
theorem parse_append_arguments (hdash : doubleDash ∉ before)
    (hparse : parse fallback before = .ok i) (hnamed : i.named = some (.run o))
    (arguments : List String) :
    parse fallback (before ++ doubleDash :: arguments.map Bytes.ofString) =
      .ok { i with named := some (.run { o with args := arguments }) } := by
  cases parse_eq_ok_iff_asks.mp hparse with
  | unnamed => cases hnamed
  | @named first after word scope top sub hname hfirst hbefore hafter hconfig =>
    obtain ⟨rfl, rfl⟩ := commandOf_eq_run_iff.mp hnamed
    have hafter' : doubleDash ∉ after := fun h =>
      hdash (List.mem_append_right _ (List.mem_cons_of_mem _ h))
    have hsaid : Says .run {} (after ++ doubleDash :: arguments.map Bytes.ofString)
        { sub with arguments } :=
      (says_run_iff hafter').mpr ⟨sub, hafter, hafter.arguments_eq hafter', arguments, rfl, rfl⟩
    rw [List.append_assoc, List.cons_append]
    exact parse_eq_ok_iff_asks.mpr (.named hname hfirst hbefore hsaid hconfig)

/-- Arguments of a run stand behind a double dash, and without them the rest is read the same. -/
theorem exists_arguments_of_parse (hparse : parse fallback words = .ok i)
    (hcommand : i.command = .run o) (hsome : o.args ≠ []) :
    ∃ before, words = before ++ doubleDash :: o.args.map Bytes.ofString ∧ doubleDash ∉ before ∧
      parse fallback before = .ok { i with named := some (.run { o with args := [] }) } := by
  have hnamed : i.named = some (.run o) := by
    cases hi : i.named with
    | none =>
      rw [Invocation.command, hi] at hcommand
      cases hcommand
      exact absurd rfl hsome
    | some command => rw [← hcommand, Invocation.command, hi, Option.getD_some]
  cases parse_eq_ok_iff_asks.mp hparse with
  | unnamed => cases hnamed
  | @named first after word scope top sub hname hfirst hbefore hafter hconfig =>
    obtain ⟨rfl, rfl⟩ := commandOf_eq_run_iff.mp hnamed
    have hmem : doubleDash ∈ after :=
      Decidable.byContradiction fun hnone => hsome (hafter.arguments_eq hnone)
    obtain ⟨own, more, rfl, hown⟩ := List.eq_append_cons_of_mem hmem
    obtain ⟨g, hsaid, hnone, arguments, rfl, rfl⟩ := (says_run_iff hown).mp hafter
    have hword : doubleDash ≠ word := by
      rintro rfl
      exact absurd (ofWord_of_subcommand? hname) (by decide)
    refine ⟨first ++ word :: own, by simp, by simp [hfirst, hword, hown], ?_⟩
    have hcommand : commandOf .run g = some (.run ⟨g.program, []⟩) :=
      commandOf_eq_run_iff.mpr ⟨rfl, by rw [hnone]⟩
    have hasks := Asks.named hname hfirst hbefore hsaid hconfig
    rw [hcommand] at hasks
    exact parse_eq_ok_iff_asks.mpr hasks

end

/-- Arguments are transparent: behind a double dash any texts become the arguments of a run as they
stand, and there is no other way for a run to have arguments. -/
theorem run_behind_doubleDash (fallback : Option Bytes) :
    (∀ (before : List Bytes) (i : Invocation) (o : Overrides) (arguments : List String),
      doubleDash ∉ before → parse fallback before = .ok i → i.named = some (.run o) →
      parse fallback (before ++ doubleDash :: arguments.map Bytes.ofString) =
        .ok { i with named := some (.run { o with args := arguments }) }) ∧
    (∀ (words : List Bytes) (i : Invocation) (o : Overrides),
      parse fallback words = .ok i → i.command = .run o → o.args ≠ [] →
      ∃ before, words = before ++ doubleDash :: o.args.map Bytes.ofString ∧ doubleDash ∉ before ∧
        parse fallback before = .ok { i with named := some (.run { o with args := [] }) }) :=
  ⟨fun _ _ _ arguments hdash hparse hnamed => parse_append_arguments hdash hparse hnamed arguments,
    fun _ _ _ hparse hcommand hsome => exists_arguments_of_parse hparse hcommand hsome⟩

/-- The words of a run with a value that is named like a subcommand. -/
private def nestedRun : List Bytes :=
  ["--config", "run", "--verbose", "run", "--program=printf", "--output", "json"].map
    Bytes.ofString

/-- Texts that look like a double dash, options and a subcommand. -/
private def lookalikes : List String := ["", "--", "-v", "--output", "--help", "run"]

theorem run_behind_doubleDash_lookalikes :
    parse none (nestedRun ++ doubleDash :: lookalikes.map Bytes.ofString) = .ok {
      named := some (.run ⟨some "printf", lookalikes⟩)
      output := .json
      config := some (Bytes.ofString "run")
      verbosity := 1 } ∧
    ∃ before, nestedRun ++ doubleDash :: lookalikes.map Bytes.ofString =
        before ++ doubleDash :: lookalikes.map Bytes.ofString ∧ doubleDash ∉ before ∧
      parse none before = .ok {
        named := some (.run ⟨some "printf", []⟩)
        output := .json
        config := some (Bytes.ofString "run")
        verbosity := 1 } := by
  have hparse := (run_behind_doubleDash none).1 nestedRun _ ⟨some "printf", []⟩ lookalikes
    (by decide) rfl rfl
  exact ⟨hparse, (run_behind_doubleDash none).2 _ _ ⟨some "printf", lookalikes⟩ hparse rfl
    (by decide)⟩

end ImageSwap.CommandLine
