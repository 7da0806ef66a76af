import ImageSwap.Proofs.ScopeReading

/-!
# How a command line is read

A command line that names a subcommand is words that say something before the name and words that
say something after it. Reading accepts exactly such lines, and what is asked for follows from what
is said on both sides. A line without a subcommand is words of one scope only.
-/

namespace ImageSwap.CommandLine

section

variable {p p' q : Progress} {scope : Scope} {word : Bytes} {before after words : List Bytes}
  {top sub g : Given}

theorem subcommand?_of_mem {name : String} (h : (name, scope) ∈ Scope.subcommands) :
    subcommand? (Bytes.ofString name) = some (.scope scope) := by
  rw [subcommand?, Bytes.decode?_ofString]
  simp only [Scope.subcommands, List.mem_cons, Prod.mk.injEq, List.not_mem_nil, or_false] at h
  obtain ⟨rfl, rfl⟩ | ⟨rfl, rfl⟩ | ⟨rfl, rfl⟩ | ⟨rfl, rfl⟩ := h <;> rfl

theorem mem_of_subcommand? (h : subcommand? word = some (.scope scope)) :
    ∃ name, (name, scope) ∈ Scope.subcommands ∧ word = Bytes.ofString name := by
  obtain ⟨name, hname, h⟩ := Option.bind_eq_some_iff.mp h
  refine ⟨name, ?_, (Bytes.ofString_of_decode? hname).symm⟩
  split at h
  · cases h
  · obtain ⟨found, hfound, h⟩ := Option.bind_eq_some_iff.mp h
    cases h
    obtain ⟨l₁, l₂, hl, -⟩ := List.lookup_eq_some_iff.mp hfound
    simp [hl]

/-- The name of a subcommand is a plain word. -/
theorem ofWord_of_subcommand? {name : SubcommandName} (h : subcommand? word = some name) :
    Token.ofWord word = .plain := by
  cases name with
  | scope scope =>
    obtain ⟨name, hmem, rfl⟩ := mem_of_subcommand? h
    have hplain : ∀ entry ∈ Scope.subcommands, Token.ofWord (Bytes.ofString entry.1) = .plain := by
      decide
    exact hplain _ hmem
  | printHelp =>
    obtain ⟨name, hname, h⟩ := Option.bind_eq_some_iff.mp h
    split at h
    · next hhelp =>
      rw [← Bytes.ofString_of_decode? hname, hhelp]
      rfl
    · obtain ⟨found, -, h⟩ := Option.bind_eq_some_iff.mp h
      cases h

namespace Progress

variable {shown : Bytes}

/-- A word that is read before the subcommand does not name one. -/
theorem subcommand?_of_reads (h : Reads .top p word p') :
    (if p.trailing || p.awaitsValue then none else subcommand? word) = none := by
  have hnone : Token.ofWord word ≠ .plain → subcommand? word = none := by
    intro hword
    cases hname : subcommand? word with
    | none => rfl
    | some name => exact absurd (ofWord_of_subcommand? hname) hword
  cases h with
  | doubleDash _ hword => simp [hnone (by simp [hword])]
  | attached _ hword => simp [hnone (by simp [hword])]
  | apart _ hword => simp [hnone (by simp [hword])]
  | verbose _ hword =>
    cases hword with
    | name hword => simp [hnone (by simp [hword])]
    | letters hword => simp [hnone (by simp [hword])]
  | value _ _ hpending => simp [awaitsValue, hpending]
  | argument hscope => simp at hscope
  | further hscope => cases hscope

theorem readTop_append (h : p.readAll .top shown before = .ok q) (words : List Bytes) :
    p.readTop shown (before ++ words) = q.readTop shown words := by
  induction before generalizing p with
  | nil =>
    cases h
    rfl
  | cons word before ih =>
    obtain ⟨p₁, hreads, hrest⟩ := readAll_cons_eq_ok_iff.mp h
    rw [List.cons_append, readTop, subcommand?_of_reads hreads, takeWord_eq_ok_iff.mpr hreads]
    exact ih hrest

theorem readTop_named (hname : subcommand? word = some (.scope scope))
    (htrailing : q.trailing = false) (hawaits : q.awaitsValue = false) (words : List Bytes) :
    q.readTop shown (word :: words) = .ok (q, some (scope, words)) := by
  rw [readTop, htrailing, hawaits]
  simp [hname]

/-- Reading comes to the name of a subcommand, or to the end. -/
theorem readAll_of_readTop {found : Option (Scope × List Bytes)}
    (h : p.readTop shown words = .ok (q, found)) :
    (found = none ∧ p.readAll .top shown words = .ok q) ∨
      ∃ before word scope after, found = some (scope, after) ∧ words = before ++ word :: after ∧
        subcommand? word = some (.scope scope) ∧ p.readAll .top shown before = .ok q ∧
        q.trailing = false := by
  induction words generalizing p with
  | nil =>
    cases h
    exact .inl ⟨rfl, rfl⟩
  | cons word words ih =>
    rw [readTop] at h
    split at h
    · next scope hname =>
      cases h
      split at hname
      · cases hname
      · next hfree =>
        rw [Bool.not_eq_true, Bool.or_eq_false_iff] at hfree
        exact .inr ⟨[], word, scope, words, rfl, rfl, hname, rfl, hfree.1⟩
    · cases h
    · obtain ⟨p₁, htake, hrest⟩ := except_bind_eq_ok_iff.mp h
      have hreads := takeWord_eq_ok_iff.mp htake
      obtain ⟨rfl, hread⟩ | ⟨before, name, scope, after, rfl, rfl, hname, hread, htrailing⟩ :=
        ih hrest
      · exact .inl ⟨rfl, readAll_cons_eq_ok_iff.mpr ⟨p₁, hreads, hread⟩⟩
      · exact .inr ⟨word :: before, name, scope, after, rfl, rfl, hname,
          readAll_cons_eq_ok_iff.mpr ⟨p₁, hreads, hread⟩, htrailing⟩

/-- A scope is read to its end when what is pending can be settled and the variable is not an empty
stand-in for a config file. -/
theorem finish_eq_ok_iff {fallback : Option Bytes} :
    p.finish fallback = .ok g ↔
      ∃ q, p.settle = .ok q ∧ q.given = g ∧ (fallback = some [] → g.config ≠ none) := by
  rw [finish, except_bind_eq_ok_iff]
  refine exists_congr fun q => and_congr_right fun _ => ?_
  by_cases hmissing : q.given.config = none ∧ fallback = some []
  · simp only [if_pos hmissing, throw, throwThe, MonadExceptOf.throw, bind, Except.bind]
    grind
  · simp only [if_neg hmissing, pure, Except.pure, bind, Except.bind]
    grind

end Progress

/-- The words of a scope from its beginning on are read to their end. -/
theorem readAll_finish_iff {shown : Bytes} {fallback : Option Bytes} :
    (∃ p, Progress.readAll {} scope shown words = .ok p ∧ p.finish fallback = .ok g) ↔
      Says scope {} words g ∧ (fallback = some [] → g.config ≠ none) := by
  have hsaid : Progress.EndsWith {} scope shown words g ↔ Says scope {} words g :=
    Progress.endsWith_iff_said (p := {}) rfl rfl (by simp)
  simp only [Progress.finish_eq_ok_iff, ← hsaid, Progress.EndsWith]
  grind

/-- What a command line asks for, from what its words say. -/
inductive Asks (fallback : Option Bytes) : List Bytes → Invocation → Prop where
  | unnamed {words : List Bytes} {top : Given} (hsaid : Says .top {} words top)
    (hconfig : fallback = some [] → top.config ≠ none) :
    Asks fallback words (invocation top {} none fallback)
  | named {before after : List Bytes} {word : Bytes} {scope : Scope} {top sub : Given}
    (hname : subcommand? word = some (.scope scope)) (hdash : doubleDash ∉ before)
    (hbefore : Says .top {} before top) (hafter : Says scope {} after sub)
    (hconfig : fallback = some [] → top.config ≠ none ∧ sub.config ≠ none) :
    Asks fallback (before ++ word :: after) (invocation top sub (commandOf scope sub) fallback)

variable {fallback : Option Bytes} {i : Invocation}

/-- A subcommand behind words that say something is read in its own scope. -/
theorem parse_named_iff (hname : subcommand? word = some (.scope scope))
    (hdash : doubleDash ∉ before) (hbefore : Says .top {} before top) :
    parse fallback (before ++ word :: after) = .ok i ↔
      ∃ sub, Says scope {} after sub ∧
        (fallback = some [] → top.config ≠ none ∧ sub.config ≠ none) ∧
        i = invocation top sub (commandOf scope sub) fallback := by
  obtain ⟨p, q, hread, hsettle, rfl⟩ :=
    Progress.endsWith_of_said (p := {}) hbefore rfl rfl rfl (by simp) (fallback.getD [])
  have htrailing : p.trailing = false := (Progress.trailing_of_readAll hread).mpr ⟨rfl, hdash⟩
  have htop := (Progress.readTop_append hread (word :: after)).trans (Progress.readTop_named hname
    htrailing (Progress.awaitsValue_of_settle hsettle) after)
  constructor
  · intro h
    obtain ⟨_, htop', h⟩ := except_bind_eq_ok_iff.mp h
    cases htop.symm.trans htop'
    obtain ⟨p', hread', h⟩ := except_bind_eq_ok_iff.mp h
    obtain ⟨sub, hsub, h⟩ := except_bind_eq_ok_iff.mp h
    obtain ⟨top, htop, h⟩ := except_bind_eq_ok_iff.mp h
    cases h
    obtain ⟨hafter, hsubconfig⟩ := readAll_finish_iff.mp ⟨p', hread', hsub⟩
    obtain ⟨q', hsettle', rfl, htopconfig⟩ := Progress.finish_eq_ok_iff.mp htop
    cases hsettle.symm.trans hsettle'
    exact ⟨sub, hafter, fun h => ⟨htopconfig h, hsubconfig h⟩, rfl⟩
  · rintro ⟨sub, hafter, hconfig, rfl⟩
    obtain ⟨p', hread', hsub⟩ := readAll_finish_iff.mpr ⟨hafter, fun h => (hconfig h).2⟩
    have hfinish : p.finish fallback = .ok q.given :=
      Progress.finish_eq_ok_iff.mpr ⟨q, hsettle, rfl, fun h => (hconfig h).1⟩
    exact except_bind_eq_ok_iff.mpr ⟨_, htop, except_bind_eq_ok_iff.mpr ⟨p', hread',
      except_bind_eq_ok_iff.mpr ⟨sub, hsub, except_bind_eq_ok_iff.mpr ⟨q.given, hfinish, rfl⟩⟩⟩⟩

/-- Whatever is read says what it asks for. -/
theorem asks_of_parse (h : parse fallback words = .ok i) : Asks fallback words i := by
  obtain ⟨⟨p, found⟩, htop, hrest⟩ := except_bind_eq_ok_iff.mp h
  obtain ⟨rfl, hread⟩ | ⟨before, word, scope, after, rfl, rfl, hname, hread, htrailing⟩ :=
    Progress.readAll_of_readTop htop
  · obtain ⟨top, hfinish, h⟩ := except_bind_eq_ok_iff.mp hrest
    cases h
    obtain ⟨hsaid, hconfig⟩ := readAll_finish_iff.mp ⟨p, hread, hfinish⟩
    exact .unnamed hsaid hconfig
  · obtain ⟨p', hread', hrest⟩ := except_bind_eq_ok_iff.mp hrest
    obtain ⟨sub, hsub, hrest⟩ := except_bind_eq_ok_iff.mp hrest
    obtain ⟨top, hfinish, hrest⟩ := except_bind_eq_ok_iff.mp hrest
    cases hrest
    obtain ⟨hbefore, htopconfig⟩ := readAll_finish_iff.mp ⟨p, hread, hfinish⟩
    obtain ⟨hafter, hsubconfig⟩ := readAll_finish_iff.mp ⟨p', hread', hsub⟩
    have hdash := ((Progress.trailing_of_readAll hread).mp htrailing).2
    exact .named hname hdash hbefore hafter fun h => ⟨htopconfig h, hsubconfig h⟩

/-- A command line is read exactly when its words say something, as what they say. -/
theorem parse_eq_ok_iff_asks : parse fallback words = .ok i ↔ Asks fallback words i := by
  refine ⟨asks_of_parse, fun h => ?_⟩
  cases h with
  | @unnamed _ top hsaid hconfig =>
    obtain ⟨p, hread, hfinish⟩ := readAll_finish_iff.mpr ⟨hsaid, hconfig⟩
    have htop := Progress.readTop_append hread []
    rw [List.append_nil] at htop
    exact except_bind_eq_ok_iff.mpr ⟨(p, none), htop,
      except_bind_eq_ok_iff.mpr ⟨top, hfinish, rfl⟩⟩
  | @named _ _ _ _ _ sub hname hdash hbefore hafter hconfig =>
    exact (parse_named_iff hname hdash hbefore).mpr ⟨sub, hafter, hconfig, rfl⟩

end

end ImageSwap.CommandLine
