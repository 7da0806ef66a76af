import ImageSwap.Proofs.WordReading

/-!
# How the words of a scope are read

What the words of a scope say is told here without words that are pending: options with their values
and flags up to a double dash, and arguments behind it. Reading word by word accepts exactly such
words, and what it ends with is what they say.
-/

namespace ImageSwap.CommandLine

/-- How an option is taken with its value: what is said with it besides. -/
inductive Takes (g : Given) : ValueOption → Bytes → Given → Prop where
  | output {raw : Bytes} {format : OutputFormat} (hnone : g.output = none) (hraw : raw ≠ [])
    (hformat : OutputFormat.ofName? raw.lossy = some format) :
    Takes g .output raw { g with output := some format }
  | config {raw : Bytes} (hnone : g.config = none) (hraw : raw ≠ []) :
    Takes g .config raw { g with config := some raw }
  | program {raw : Bytes} {program : String} (hnone : g.program = none)
    (htext : raw.decode? = some program) : Takes g .program raw { g with program := some program }

/-- Whether words may stand behind a double dash. -/
def Scope.AllowsBehind (scope : Scope) (g : Given) (words : List Bytes) : Prop :=
  words = [] ∨ scope = .run ∨ scope = .help ∧ g.arguments = [] ∧ words.length = 1

/-- What the words of one option or of one argument before a double dash say, on top of what is said
before them. -/
inductive Item (scope : Scope) (g : Given) : List Bytes → Given → Prop where
  /-- An option and its value in one word. -/
  | attached {option : ValueOption} {raw word : Bytes} {g' : Given}
    (hword : Token.ofWord word = .long (Bytes.ofString option.name) (some raw))
    (hoption : option ∈ scope.valueOptions) (htake : g.take option raw = .ok g') :
    Item scope g [word] g'
  /-- An option, and its value in the next word. -/
  | apart {option : ValueOption} {word raw : Bytes} {g' : Given}
    (hword : Token.ofWord word = .long (Bytes.ofString option.name) none)
    (hraw : Token.ofWord raw = .plain) (hoption : option ∈ scope.valueOptions)
    (htake : g.take option raw = .ok g') : Item scope g [word, raw] g'
  | verbose {n : Nat} {word : Bytes} (hword : RepeatsVerbose word n) :
    Item scope g [word] (g.louder n)
  | argument {word : Bytes} {g' : Given} (hscope : scope = .help) (hfirst : g.arguments = [])
    (hword : Token.ofWord word = .plain) (htake : g.takeArguments [word] = .ok g') :
    Item scope g [word] g'

/-- What the words of a scope say, on top of what is said before them. -/
inductive Says (scope : Scope) : Given → List Bytes → Given → Prop where
  | nothing {g : Given} : Says scope g [] g
  | item {words more : List Bytes} {g g₁ g' : Given} (hitem : Item scope g words g₁)
    (hrest : Says scope g₁ more g') : Says scope g (words ++ more) g'
  /-- The end of the options, and arguments. -/
  | behind {words : List Bytes} {g g' : Given} (hwords : scope.AllowsBehind g words)
    (htake : g.takeArguments words = .ok g') : Says scope g (doubleDash :: words) g'

section

variable {p p' q : Progress} {scope : Scope} {fallback word : Bytes} {words : List Bytes}
  {g g₁ g' : Given}

namespace Given

/-- An option is taken without an error exactly in the ways in which an option is taken. -/
theorem take_eq_ok_iff {option : ValueOption} {raw : Bytes} :
    g.take option raw = .ok g' ↔ Takes g option raw g' := by
  constructor
  · intro h
    cases option with
    | output =>
      simp only [take] at h
      split at h
      · cases h
      · next hnone =>
        split at h
        · cases h
        · next hraw =>
          split at h
          · next format hformat =>
            cases h
            exact .output (by simpa using hnone) hraw hformat
          · cases h
    | config =>
      simp only [take] at h
      split at h
      · cases h
      · next hnone =>
        split at h
        · cases h
        · next hraw =>
          cases h
          exact .config (by simpa using hnone) hraw
    | program =>
      simp only [take] at h
      split at h
      · cases h
      · next hnone =>
        split at h
        · next program htext =>
          cases h
          exact .program (by simpa using hnone) htext
        · cases h
  · intro h
    cases h with
    | output hnone hraw hformat => simp [take, hnone, hraw, hformat]
    | config hnone hraw => simp [take, hnone, hraw]
    | program hnone htext => simp [take, hnone, htext]

/-- Words are arguments exactly when each is a text. -/
theorem takeArguments_eq_ok_iff {raws : List Bytes} :
    g.takeArguments raws = .ok g' ↔
      ∃ arguments : List String, raws = arguments.map Bytes.ofString ∧
        g' = { g with arguments := g.arguments ++ arguments } := by
  simp only [takeArguments, ← Bytes.mapM_decode?_eq_some_iff]
  cases raws.mapM Bytes.decode? with
  | none => simp
  | some arguments => simp [eq_comm]

theorem takeArguments_nil (g : Given) : g.takeArguments [] = .ok g :=
  takeArguments_eq_ok_iff.mpr ⟨[], rfl, by simp⟩

/-- Arguments are taken in one go as they are in two. -/
theorem takeArguments_append_eq_ok_iff {raws more : List Bytes} :
    g.takeArguments (raws ++ more) = .ok g' ↔
      ∃ g₁, g.takeArguments raws = .ok g₁ ∧ g₁.takeArguments more = .ok g' := by
  simp only [takeArguments_eq_ok_iff]
  constructor
  · rintro ⟨arguments, harguments, rfl⟩
    obtain ⟨first, rest, rfl, hfirst, hrest⟩ := List.append_eq_map_iff.mp harguments
    exact ⟨_, ⟨first, hfirst.symm, rfl⟩, rest, hrest.symm, by simp⟩
  · rintro ⟨_, ⟨first, rfl, rfl⟩, rest, rfl, rfl⟩
    exact ⟨first ++ rest, by simp, by simp⟩

theorem arguments_of_take {option : ValueOption} {raw : Bytes} (h : g.take option raw = .ok g') :
    g'.arguments = g.arguments := by
  cases take_eq_ok_iff.mp h <;> rfl

end Given

namespace Progress

/-- Arguments are all that is missing for there to be none once pending words are settled. -/
theorem arguments_of_settle (hsettle : p.settle = .ok q)
    (hpending : p.pending ≠ some (.arguments [])) :
    q.given.arguments = [] ↔
      p.given.arguments = [] ∧ ∀ raws, p.pending ≠ some (.arguments raws) := by
  obtain ⟨given, hgiven, rfl⟩ := settle_eq_ok_iff.mp hsettle
  match hp : p.pending with
  | none =>
    rw [hp] at hgiven
    cases hgiven
    simp
  | some (.value option none) =>
    rw [hp] at hgiven
    cases hgiven
  | some (.value option (some raw)) =>
    rw [hp] at hgiven
    simp [Given.arguments_of_take hgiven]
  | some (.arguments raws) =>
    rw [hp] at hgiven hpending
    obtain ⟨arguments, rfl, rfl⟩ := Given.takeArguments_eq_ok_iff.mp hgiven
    have hne : arguments ≠ [] := by
      rintro rfl
      exact hpending rfl
    simp [hne]

/-- What is said when words are read from a progress on and what is pending then is settled. -/
def EndsWith (p : Progress) (scope : Scope) (fallback : Bytes) (words : List Bytes)
    (g : Given) : Prop :=
  ∃ p' q, p.readAll scope fallback words = .ok p' ∧ p'.settle = .ok q ∧ q.given = g

theorem readAll_cons_eq_ok_iff :
    p.readAll scope fallback (word :: words) = .ok p' ↔
      ∃ p₁, Reads scope p word p₁ ∧ p₁.readAll scope fallback words = .ok p' := by
  rw [readAll, List.foldlM_cons, except_bind_eq_ok_iff]
  simp only [takeWord_eq_ok_iff]
  rfl

theorem endsWith_nil_iff :
    p.EndsWith scope fallback [] g ↔ ∃ q, p.settle = .ok q ∧ q.given = g := by
  constructor
  · rintro ⟨_, q, hread, hsettle, hgiven⟩
    cases hread
    exact ⟨q, hsettle, hgiven⟩
  · rintro ⟨q, hsettle, hgiven⟩
    exact ⟨p, q, rfl, hsettle, hgiven⟩

theorem endsWith_cons_iff :
    p.EndsWith scope fallback (word :: words) g ↔
      ∃ p₁, Reads scope p word p₁ ∧ p₁.EndsWith scope fallback words g := by
  simp only [EndsWith, readAll_cons_eq_ok_iff]
  grind

/-- Behind arguments every word is one more. -/
theorem readAll_of_arguments {raws : List Bytes} (htrailing : p.trailing = true)
    (hpending : p.pending = some (.arguments raws)) (fallback : Bytes) (words : List Bytes) :
    p.readAll .run fallback words =
      .ok { p with pending := some (.arguments (raws ++ words)) } := by
  induction words generalizing p raws with
  | nil =>
    rw [List.append_nil, ← hpending]
    rfl
  | cons word words ih =>
    refine readAll_cons_eq_ok_iff.mpr ⟨_, .further rfl htrailing hpending, ?_⟩
    have hrest := ih (p := { p with pending := some (.arguments (raws ++ [word])) }) htrailing rfl
    rw [hrest, List.append_assoc]
    rfl

theorem endsWith_of_arguments_iff {raws : List Bytes} (htrailing : p.trailing = true)
    (hpending : p.pending = some (.arguments raws)) :
    p.EndsWith .run fallback words g ↔ p.given.takeArguments (raws ++ words) = .ok g := by
  simp only [EndsWith, readAll_of_arguments htrailing hpending, settle_eq_ok_iff]
  constructor
  · rintro ⟨_, _, hread, ⟨given, hgiven, rfl⟩, rfl⟩
    cases hread
    exact hgiven
  · intro hgiven
    exact ⟨_, _, rfl, ⟨g, hgiven, rfl⟩, rfl⟩

/-- Behind a double dash whatever is pending is settled sooner or later. -/
theorem settles_of_endsWith_trailing (htrailing : p.trailing = true)
    (h : p.EndsWith scope fallback words g) : ∃ q, p.settle = .ok q := by
  cases words with
  | nil =>
    obtain ⟨q, hsettle, -⟩ := endsWith_nil_iff.mp h
    exact ⟨q, hsettle⟩
  | cons word words =>
    obtain ⟨p₁, hreads, hrest⟩ := endsWith_cons_iff.mp h
    cases hreads with
    | argument hscope hword hpending hsettle => exact ⟨_, hsettle⟩
    | further hscope _ hpending =>
      subst hscope
      obtain ⟨given, hgiven, -⟩ := Given.takeArguments_append_eq_ok_iff.mp
        ((endsWith_of_arguments_iff htrailing hpending).mp h)
      exact ⟨_, settle_eq_ok_iff.mpr ⟨given, by rw [hpending]; exact hgiven, rfl⟩⟩
    | _ => simp_all

/-- What is pending is settled sooner or later, unless it is an option without its value. -/
theorem settles_of_endsWith (hawaits : p.awaitsValue = false)
    (h : p.EndsWith scope fallback words g) : ∃ q, p.settle = .ok q := by
  by_cases htrailing : p.trailing = true
  · exact settles_of_endsWith_trailing htrailing h
  cases words with
  | nil =>
    obtain ⟨q, hsettle, -⟩ := endsWith_nil_iff.mp h
    exact ⟨q, hsettle⟩
  | cons word words =>
    obtain ⟨p₁, hreads, hrest⟩ := endsWith_cons_iff.mp h
    cases hreads with
    | doubleDash =>
      obtain ⟨_, hsettle⟩ := settles_of_endsWith_trailing rfl hrest
      obtain ⟨given, hgiven, -⟩ := settle_eq_ok_iff.mp hsettle
      exact ⟨_, settle_eq_ok_iff.mpr ⟨given, hgiven, rfl⟩⟩
    | value _ _ hpending => exact absurd hpending (awaitsValue_eq_false_iff.mp hawaits _)
    | further _ htrailing' => exact absurd htrailing' htrailing
    | attached _ _ _ hsettle => exact ⟨_, hsettle⟩
    | apart _ _ _ hsettle => exact ⟨_, hsettle⟩
    | verbose _ _ hsettle => exact ⟨_, hsettle⟩
    | argument _ _ _ hsettle => exact ⟨_, hsettle⟩

theorem endsWith_nil_iff_of_settle (hsettle : p.settle = .ok q) :
    p.EndsWith scope fallback [] g ↔ q.given = g := by
  simp [endsWith_nil_iff, hsettle]

/-- Behind a double dash a run takes every word as an argument. -/
theorem endsWith_run_iff (htrailing : p.trailing = true) (hsettle : p.settle = .ok q) :
    p.EndsWith .run fallback words g ↔ q.given.takeArguments words = .ok g := by
  by_cases harguments : ∃ raws, p.pending = some (.arguments raws)
  · obtain ⟨raws, hpending⟩ := harguments
    obtain ⟨given, hgiven, rfl⟩ := settle_eq_ok_iff.mp hsettle
    rw [hpending, Given.settle] at hgiven
    rw [endsWith_of_arguments_iff htrailing hpending, Given.takeArguments_append_eq_ok_iff]
    simp [hgiven]
  · have hpending : ∀ raws, p.pending ≠ some (.arguments raws) := not_exists.mp harguments
    cases words with
    | nil => simp [endsWith_nil_iff_of_settle hsettle, Given.takeArguments_nil]
    | cons word words =>
      have htrailing' : q.trailing = true := (trailing_of_settle hsettle).trans htrailing
      have hrest : EndsWith { q with pending := some (.arguments [word]) } .run fallback words g ↔
          q.given.takeArguments ([word] ++ words) = .ok g :=
        endsWith_of_arguments_iff (p := { q with pending := some (.arguments [word]) })
          htrailing' rfl
      rw [endsWith_cons_iff, ← List.singleton_append]
      constructor
      · rintro ⟨p₁, hreads, hends⟩
        cases hreads with
        | argument _ _ _ hsettle' =>
          cases hsettle.symm.trans hsettle'
          exact hrest.mp hends
        | further _ _ hpending' => exact absurd hpending' (hpending _)
        | _ => simp_all
      · intro htake
        exact ⟨_, .argument (.inl ⟨rfl, htrailing⟩) (.inl htrailing) hpending hsettle,
          hrest.mpr htake⟩

/-- Behind a double dash the command for help takes one word, if it has none yet. -/
theorem endsWith_help_cons_iff (htrailing : p.trailing = true) (hsettle : p.settle = .ok q) :
    p.EndsWith .help fallback (word :: words) g ↔
      (p.given.arguments = [] ∧ ∀ raws, p.pending ≠ some (.arguments raws)) ∧ words = [] ∧
        q.given.takeArguments [word] = .ok g := by
  rw [endsWith_cons_iff]
  constructor
  · rintro ⟨p₁, hreads, hrest⟩
    cases hreads with
    | argument hscope _ hpending hsettle' =>
      cases hsettle.symm.trans hsettle'
      have hfirst : p.given.arguments = [] := by simpa using hscope
      cases words with
      | nil =>
        obtain ⟨_, hsettled, rfl⟩ := endsWith_nil_iff.mp hrest
        obtain ⟨given, hgiven, rfl⟩ := settle_eq_ok_iff.mp hsettled
        exact ⟨⟨hfirst, hpending⟩, rfl, hgiven⟩
      | cons next words =>
        have htrailing' : q.trailing = true := (trailing_of_settle hsettle).trans htrailing
        obtain ⟨p₂, hreads, -⟩ := endsWith_cons_iff.mp hrest
        cases hreads <;> simp_all
    | _ => simp_all
  · rintro ⟨⟨hfirst, hpending⟩, rfl, htake⟩
    refine ⟨_, .argument (.inr ⟨rfl, hfirst⟩) (.inl htrailing) hpending hsettle, ?_⟩
    exact endsWith_nil_iff.mpr ⟨_, settle_eq_ok_iff.mpr ⟨g, htake, rfl⟩, rfl⟩

/-- Behind a double dash there are arguments only, as many as the scope allows. -/
theorem endsWith_trailing_iff (htrailing : p.trailing = true) (hsettle : p.settle = .ok q)
    (hpending : p.pending ≠ some (.arguments [])) :
    p.EndsWith scope fallback words g ↔
      scope.AllowsBehind q.given words ∧ q.given.takeArguments words = .ok g := by
  cases words with
  | nil =>
    simp [endsWith_nil_iff_of_settle hsettle, Scope.AllowsBehind, Given.takeArguments_nil]
  | cons word words =>
    cases scope with
    | run => simp [endsWith_run_iff htrailing hsettle, Scope.AllowsBehind]
    | help =>
      rw [endsWith_help_cons_iff htrailing hsettle, ← arguments_of_settle hsettle hpending]
      constructor
      · rintro ⟨hfirst, rfl, htake⟩
        exact ⟨Or.inr (Or.inr ⟨rfl, hfirst, rfl⟩), htake⟩
      · rintro ⟨hallowed, htake⟩
        have hallowed' : q.given.arguments = [] ∧ words = [] := by
          simpa [Scope.AllowsBehind] using hallowed
        obtain ⟨hfirst, rfl⟩ := hallowed'
        exact ⟨hfirst, rfl, htake⟩
    | _ =>
      rw [endsWith_cons_iff]
      constructor
      · rintro ⟨p₁, hreads, -⟩
        cases hreads <;> simp_all
      · rintro ⟨hallowed, -⟩
        simp [Scope.AllowsBehind] at hallowed

/-- A double dash leaves what is pending as it is. -/
theorem endsWith_doubleDash_iff (hsettle : p.settle = .ok q)
    (hpending : p.pending ≠ some (.arguments [])) :
    EndsWith { p with trailing := true } scope fallback words g ↔
      scope.AllowsBehind q.given words ∧ q.given.takeArguments words = .ok g := by
  obtain ⟨given, hgiven, rfl⟩ := settle_eq_ok_iff.mp hsettle
  exact endsWith_trailing_iff (p := { p with trailing := true }) (q := ⟨given, none, true⟩) rfl
    (settle_eq_ok_iff.mpr ⟨given, hgiven, rfl⟩) hpending

theorem awaitsValue_of_settle (hsettle : p.settle = .ok q) : p.awaitsValue = false := by
  refine awaitsValue_eq_false_iff.mpr fun option hpending => ?_
  obtain ⟨given, hgiven, -⟩ := settle_eq_ok_iff.mp hsettle
  rw [hpending] at hgiven
  cases hgiven

/-- Behind an option without its value comes that value. -/
theorem exists_value_of_endsWith {option : ValueOption} (h : p.EndsWith scope fallback words g)
    (htrailing : p.trailing = false) (hpending : p.pending = some (.value option none)) :
    ∃ raw rest, words = raw :: rest ∧ Token.ofWord raw = .plain ∧
      EndsWith { p with pending := some (.value option (some raw)) } scope fallback rest g := by
  -- no other word is read here, since each of them would settle the option
  have hunsettled : ∀ (trailing : Bool) q, ¬ Progress.settle { p with trailing } = .ok q := by
    intro trailing q hsettle
    have hawaits := awaitsValue_of_settle hsettle
    simp [awaitsValue, hpending] at hawaits
  cases words with
  | nil =>
    obtain ⟨q, hsettle, -⟩ := endsWith_nil_iff.mp h
    exact absurd hsettle (hunsettled _ q)
  | cons raw rest =>
    obtain ⟨p₁, hreads, hrest⟩ := endsWith_cons_iff.mp h
    cases hreads with
    | doubleDash =>
      obtain ⟨q, hsettle⟩ := settles_of_endsWith_trailing rfl hrest
      exact absurd hsettle (hunsettled true q)
    | value _ hword hpending' =>
      cases hpending.symm.trans hpending'
      exact ⟨raw, rest, rfl, hword, hrest⟩
    | further _ htrailing' => simp_all
    | attached _ _ _ hsettle => exact absurd hsettle (hunsettled _ _)
    | apart _ _ _ hsettle => exact absurd hsettle (hunsettled _ _)
    | verbose _ _ hsettle => exact absurd hsettle (hunsettled _ _)
    | argument _ _ _ hsettle => exact absurd hsettle (hunsettled _ _)

/-- What the words say is what reading them word by word ends with. -/
theorem endsWith_of_said (h : Says scope g₁ words g) (htrailing : p.trailing = false)
    (hsettle : p.settle = .ok q) (hgiven : q.given = g₁)
    (hpending : p.pending ≠ some (.arguments [])) (fallback : Bytes) :
    p.EndsWith scope fallback words g := by
  have htrailing' := (trailing_of_settle hsettle).trans htrailing
  have hnone := pending_of_settle hsettle
  induction h generalizing p q with
  | nothing => exact endsWith_nil_iff.mpr ⟨q, hsettle, hgiven⟩
  | @item words more _ g₂ _ hitem _ ih =>
    subst hgiven
    cases hitem with
    | attached hword hoption htake =>
      refine endsWith_cons_iff.mpr ⟨_, .attached htrailing hword hoption hsettle htake, ?_⟩
      exact ih htrailing' (settle_of_pending_none hnone) rfl (by simp [hnone]) htrailing' hnone
    | apart hword hraw hoption htake =>
      refine endsWith_cons_iff.mpr ⟨_, .apart htrailing hword hoption hsettle, ?_⟩
      refine endsWith_cons_iff.mpr ⟨_, .value htrailing' hraw rfl, ?_⟩
      exact ih htrailing' (settle_eq_ok_iff.mpr ⟨g₂, htake, rfl⟩) rfl (by simp) htrailing' rfl
    | verbose hword =>
      refine endsWith_cons_iff.mpr ⟨_, .verbose htrailing hword hsettle, ?_⟩
      exact ih htrailing' (settle_louder hnone _) rfl (by simp [louder, hnone]) htrailing' hnone
    | argument hscope hfirst hword htake =>
      obtain ⟨hfirst', hpending'⟩ := (arguments_of_settle hsettle hpending).mp hfirst
      refine endsWith_cons_iff.mpr ⟨_, .argument (.inr ⟨hscope, hfirst'⟩)
        (.inr ⟨hword, awaitsValue_of_settle hsettle⟩) hpending' hsettle, ?_⟩
      exact ih htrailing' (settle_eq_ok_iff.mpr ⟨g₂, htake, rfl⟩) rfl (by simp) htrailing' rfl
  | behind hwords htake =>
    subst hgiven
    refine endsWith_cons_iff.mpr
      ⟨_, .doubleDash htrailing (Token.ofWord_eq_doubleDash_iff.mpr rfl), ?_⟩
    exact (endsWith_doubleDash_iff hsettle hpending).mpr ⟨hwords, htake⟩

/-- What reading word by word ends with is what the words say. -/
theorem says_of_endsWith (h : p.EndsWith scope fallback words g) (htrailing : p.trailing = false)
    (hsettle : p.settle = .ok q) (hpending : p.pending ≠ some (.arguments [])) :
    Says scope q.given words g := by
  -- on the number of words, since an option and its value are two of them
  induction hlength : words.length using Nat.strongRecOn generalizing p q words with
  | ind length ih =>
    have htrailing' := (trailing_of_settle hsettle).trans htrailing
    have hnone := pending_of_settle hsettle
    cases words with
    | nil =>
      rw [endsWith_nil_iff_of_settle hsettle] at h
      exact h ▸ .nothing
    | cons word words =>
      rw [List.length_cons] at hlength
      obtain ⟨p₁, hreads, hrest⟩ := endsWith_cons_iff.mp h
      cases hreads with
      | doubleDash _ hword =>
        obtain ⟨hwords, htake⟩ := (endsWith_doubleDash_iff hsettle hpending).mp hrest
        rw [Token.ofWord_eq_doubleDash_iff.mp hword]
        exact .behind hwords htake
      | attached _ hword hoption hsettle' htake =>
        cases hsettle.symm.trans hsettle'
        exact .item (.attached hword hoption htake) (ih words.length (by omega) hrest htrailing'
          (settle_of_pending_none hnone) (by simp [hnone]) rfl)
      | apart _ hword hoption hsettle' =>
        cases hsettle.symm.trans hsettle'
        obtain ⟨raw, rest, rfl, hraw, hrest⟩ := exists_value_of_endsWith hrest htrailing' rfl
        obtain ⟨q', hsettle₁⟩ := settles_of_endsWith rfl hrest
        obtain ⟨given, htake, rfl⟩ := settle_eq_ok_iff.mp hsettle₁
        rw [List.length_cons] at hlength
        exact .item (.apart hword hraw hoption htake) (ih rest.length (by omega) hrest htrailing'
          hsettle₁ (by simp) rfl)
      | verbose _ hword hsettle' =>
        cases hsettle.symm.trans hsettle'
        exact .item (.verbose hword) (ih words.length (by omega) hrest htrailing'
          (settle_louder hnone _) (by simp [louder, hnone]) rfl)
      | value _ _ hpending' =>
        exact absurd hpending' (awaitsValue_eq_false_iff.mp (awaitsValue_of_settle hsettle) _)
      | argument hscope hword hpending' hsettle' =>
        cases hsettle.symm.trans hsettle'
        obtain ⟨rfl, hfirst⟩ := hscope.resolve_left (by simp [htrailing])
        obtain ⟨hplain, -⟩ := hword.resolve_left (by simp [htrailing])
        obtain ⟨q', hsettle₁⟩ := settles_of_endsWith rfl hrest
        obtain ⟨given, htake, rfl⟩ := settle_eq_ok_iff.mp hsettle₁
        have hfirst' := (arguments_of_settle hsettle hpending).mpr ⟨hfirst, hpending'⟩
        exact .item (.argument rfl hfirst' hplain htake) (ih words.length (by omega) hrest
          htrailing' hsettle₁ (by simp) rfl)
      | further _ htrailing'' => simp [htrailing] at htrailing''

/-- Reading word by word ends with what the words say on top of what is said before them, once what
is pending is settled. -/
theorem endsWith_iff_said (htrailing : p.trailing = false) (hsettle : p.settle = .ok q)
    (hpending : p.pending ≠ some (.arguments [])) :
    p.EndsWith scope fallback words g ↔ Says scope q.given words g :=
  ⟨fun h => says_of_endsWith h htrailing hsettle hpending,
    fun h => endsWith_of_said h htrailing hsettle rfl hpending fallback⟩

/-- The options are at their end once a double dash has been read. -/
theorem trailing_of_readAll (h : p.readAll scope fallback words = .ok p') :
    p'.trailing = false ↔ p.trailing = false ∧ doubleDash ∉ words := by
  induction words generalizing p with
  | nil =>
    cases h
    simp
  | cons word words ih =>
    obtain ⟨p₁, hreads, hrest⟩ := readAll_cons_eq_ok_iff.mp h
    rw [ih hrest, List.mem_cons, not_or, ← and_assoc]
    refine and_congr_left fun _ => ?_
    have hword : doubleDash = word ↔ Token.ofWord word = .doubleDash := by
      rw [Token.ofWord_eq_doubleDash_iff, eq_comm]
    rw [hword]
    cases hreads with
    | doubleDash _ hword => simp [hword]
    | attached htrailing hword _ hsettle => simp [hword, trailing_of_settle hsettle]
    | apart htrailing hword _ hsettle => simp [hword, trailing_of_settle hsettle]
    | verbose htrailing hword hsettle =>
      cases hword <;> simp_all [louder, trailing_of_settle hsettle]
    | value htrailing hword => simp [hword]
    | argument hscope hword _ hsettle =>
      rw [show _ = p.trailing from trailing_of_settle hsettle]
      rcases hword with htrailing | ⟨hword, -⟩
      · simp [htrailing]
      · simp [hword]
    | further _ htrailing => simp [htrailing]

end Progress

theorem Item.doubleDash_notMem (h : Item scope g words g') : doubleDash ∉ words := by
  have hforms : ∀ word ∈ words, Token.ofWord word ≠ .doubleDash := by
    cases h with
    | attached hword => simp [hword]
    | apart hword hraw => simp [hword, hraw]
    | verbose hword => cases hword with
      | name hword => simp [hword]
      | letters hword => simp [hword]
    | argument _ _ hword => simp [hword]
  exact fun hmem => hforms _ hmem (Token.ofWord_eq_doubleDash_iff.mpr rfl)

theorem Item.takeWhile_append (h : Item scope g words g') (more : List Bytes) :
    (words ++ more).takeWhile (· ≠ doubleDash) = words ++ more.takeWhile (· ≠ doubleDash) := by
  refine List.takeWhile_append_of_pos fun word hmem => decide_eq_true ?_
  rintro rfl
  exact h.doubleDash_notMem hmem

/-- Words without a double dash may be followed by others. -/
theorem Says.append {before : List Bytes} (h : Says scope g before g₁)
    (hbefore : doubleDash ∉ before) (hrest : Says scope g₁ words g') :
    Says scope g (before ++ words) g' := by
  induction h with
  | nothing => exact hrest
  | item hitem _ ih =>
    rw [List.append_assoc]
    exact .item hitem (ih (fun h => hbefore (List.mem_append_right _ h)) hrest)
  | behind => exact absurd List.mem_cons_self hbefore

/-- Words with a double dash are those before the first one, and arguments. -/
theorem Says.split {before : List Bytes} (h : Says scope g (before ++ doubleDash :: words) g')
    (hbefore : doubleDash ∉ before) :
    ∃ g₁, Says scope g before g₁ ∧ scope.AllowsBehind g₁ words ∧
      g₁.takeArguments words = .ok g' := by
  generalize hline : before ++ doubleDash :: words = line at h
  induction h generalizing before with
  | nothing => exact absurd hline (by simp)
  | item hitem _ ih =>
    obtain ⟨rest, rfl, hmore⟩ | ⟨rest, hwords, hmore⟩ := List.append_eq_append_iff.mp hline.symm
    · obtain ⟨g₁, hsaid, hbehind⟩ := ih (fun h => hbefore (List.mem_append_right _ h)) hmore.symm
      exact ⟨g₁, .item hitem hsaid, hbehind⟩
    · cases rest with
      | nil =>
        obtain ⟨g₁, hsaid, hbehind⟩ := ih List.not_mem_nil hmore
        rw [List.append_nil] at hwords
        have hsaid' := Says.item hitem hsaid
        rw [List.append_nil, hwords] at hsaid'
        exact ⟨g₁, hsaid', hbehind⟩
      | cons word rest =>
        cases hmore
        exact absurd (hwords ▸ List.mem_append_right _ List.mem_cons_self) hitem.doubleDash_notMem
  | behind hwords htake =>
    cases before with
    | nil =>
      cases hline
      exact ⟨_, .nothing, hwords, htake⟩
    | cons _ before =>
      cases hline
      exact absurd List.mem_cons_self hbefore

end

end ImageSwap.CommandLine
