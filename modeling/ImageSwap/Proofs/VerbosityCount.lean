import ImageSwap.Proofs.LineReading
import ImageSwap.Proofs.LogThresholds

/-!
# Flags for verbosity on both sides of a subcommand

On either side of a subcommand each flag for verbosity counts once, by its name or as a letter. The
two counts are not added: that of the flags after the subcommand replaces that of the flags before
it. So a flag on both sides raises the verbosity by the flags after the subcommand only, unless
these alone reach the highest verbosity.
-/

namespace ImageSwap.CommandLine

/-- How many flags for verbosity a word is. -/
def verboseFlags (word : Bytes) : Nat :=
  match Token.ofWord word with
  | .long name none => if name = Bytes.ofString Flag.verbose.name then 1 else 0
  | .short letters => letters.count Token.letterV
  | _ => 0

/-- How many flags for verbosity stand before a double dash. -/
def verboseCount : List Bytes → Nat
  | [] => 0
  | word :: words => if word = doubleDash then 0 else verboseFlags word + verboseCount words

theorem verboseCount_append {words : List Bytes} (h : doubleDash ∉ words) (more : List Bytes) :
    verboseCount (words ++ more) = verboseCount words + verboseCount more := by
  induction words with
  | nil => rw [List.nil_append, verboseCount, Nat.zero_add]
  | cons word words ih =>
    obtain ⟨hword, hwords⟩ := List.ne_and_not_mem_of_not_mem_cons h
    rw [List.cons_append, verboseCount, verboseCount, if_neg hword.symm, if_neg hword.symm,
      ih hwords, Nat.add_assoc]

section

variable {scope : Scope} {word : Bytes} {words : List Bytes} {g g' : Given}

theorem verboseFlags_of_repeatsVerbose {n : Nat} (h : RepeatsVerbose word n) :
    verboseFlags word = n := by
  cases h with
  | name hword =>
    rw [verboseFlags, hword]
    rfl
  | letters hword =>
    rw [verboseFlags, hword]
    exact List.count_replicate_self

/-- An option with a value is no flag. -/
theorem verboseFlags_of_valueOption {option : ValueOption} {value : Option Bytes}
    (h : Token.ofWord word = .long (Bytes.ofString option.name) value) : verboseFlags word = 0 := by
  rw [verboseFlags, h]
  cases value with
  | none => cases option <;> rfl
  | some raw => rfl

theorem verboseFlags_of_plain (h : Token.ofWord word = .plain) : verboseFlags word = 0 := by
  rw [verboseFlags, h]

/-- The count of flags does not matter for the value of an option. -/
theorem take_withCount {option : ValueOption} {raw : Bytes} (h : g.take option raw = .ok g')
    (count : Option Nat) :
    Given.take { g with verbosity := count } option raw = .ok { g' with verbosity := count } ∧
      g'.verbosity = g.verbosity := by
  cases Given.take_eq_ok_iff.mp h with
  | output hnone hraw hformat =>
    exact ⟨Given.take_eq_ok_iff.mpr (.output hnone hraw hformat), rfl⟩
  | config hnone hraw => exact ⟨Given.take_eq_ok_iff.mpr (.config hnone hraw), rfl⟩
  | program hnone htext => exact ⟨Given.take_eq_ok_iff.mpr (.program hnone htext), rfl⟩

/-- An option or an argument raises any count by the flags that its words are, and says the same
besides. -/
theorem Item.raises (h : Item scope g words g') (count : Option Nat) :
    Item scope { g with verbosity := count } words
        { g' with verbosity := raised count (verboseCount words) } ∧
      g'.verbosity = raised g.verbosity (verboseCount words) := by
  have hdash := h.doubleDash_notMem
  cases h with
  | @attached option raw word _ hword hoption htake =>
    have hne := (List.ne_of_not_mem_cons hdash).symm
    obtain ⟨htake', hsame⟩ := take_withCount htake count
    have hzero : verboseCount [word] = 0 := by
      simp [verboseCount, hne, verboseFlags_of_valueOption hword]
    rw [hzero]
    exact ⟨.attached hword hoption htake', hsame⟩
  | @apart option word raw _ hword hraw hoption htake =>
    have hne := (List.ne_of_not_mem_cons hdash).symm
    obtain ⟨htake', hsame⟩ := take_withCount htake count
    have hzero : verboseCount [word, raw] = 0 := by
      simp [verboseCount, hne, verboseFlags_of_valueOption hword, verboseFlags_of_plain hraw]
    rw [hzero]
    exact ⟨.apart hword hraw hoption htake', hsame⟩
  | @verbose n word hword =>
    have hne := (List.ne_of_not_mem_cons hdash).symm
    have hflags : verboseCount [word] = n := by
      simp [verboseCount, hne, verboseFlags_of_repeatsVerbose hword]
    rw [hflags]
    exact ⟨.verbose hword, rfl⟩
  | @argument word _ hscope hfirst hword htake =>
    obtain ⟨arguments, hraws, rfl⟩ := Given.takeArguments_eq_ok_iff.mp htake
    have hzero : verboseCount [word] = 0 := by simp [verboseCount, verboseFlags_of_plain hword]
    rw [hzero]
    exact ⟨.argument hscope hfirst hword
      (Given.takeArguments_eq_ok_iff.mpr ⟨arguments, hraws, rfl⟩), rfl⟩

/-- The words of a scope raise any count by the flags before a double dash, and say the same
besides. -/
theorem Says.raises (h : Says scope g words g') (count : Option Nat) :
    Says scope { g with verbosity := count } words
        { g' with verbosity := raised count (verboseCount words) } ∧
      g'.verbosity = raised g.verbosity (verboseCount words) := by
  induction h generalizing count with
  | nothing => exact ⟨.nothing, rfl⟩
  | item hitem _ ih =>
    obtain ⟨hitem', hcount⟩ := hitem.raises count
    obtain ⟨hrest', hcounts⟩ := ih (raised count (verboseCount _))
    rw [verboseCount_append hitem.doubleDash_notMem, ← raised_raised, ← raised_raised, ← hcount]
    exact ⟨.item hitem' hrest', hcounts⟩
  | behind hwords htake =>
    obtain ⟨arguments, hraws, rfl⟩ := Given.takeArguments_eq_ok_iff.mp htake
    rw [verboseCount, if_pos rfl]
    exact ⟨.behind hwords (Given.takeArguments_eq_ok_iff.mpr ⟨arguments, hraws, rfl⟩), rfl⟩

/-- Words of flags in a row. -/
def flagWords (flags : List FlagWord) : List Bytes := flags.map FlagWord.word

/-- Words of flags say nothing but a count. -/
theorem says_flagWords (scope : Scope) (g : Given) (flags : List FlagWord) :
    ∃ count, Says scope g (flagWords flags) { g with verbosity := count } := by
  induction flags generalizing g with
  | nil => exact ⟨g.verbosity, .nothing⟩
  | cons flag flags ih =>
    obtain ⟨count, hsaid⟩ := ih (g.louder flag.flags)
    exact ⟨count, .item (.verbose flag.repeatsVerbose) hsaid⟩

theorem doubleDash_notMem_flagWords (flags : List FlagWord) : doubleDash ∉ flagWords flags := by
  intro h
  obtain ⟨flag, -, hword⟩ := List.mem_map.mp h
  have hitem : Item .top {} [flag.word] _ := .verbose flag.repeatsVerbose
  exact hitem.doubleDash_notMem (hword ▸ List.mem_cons_self)

theorem toNat_min_toUInt8 (n : Nat) : (min 255 n).toUInt8.toNat = min 255 n :=
  UInt8.toNat_ofNat_of_lt (show min 255 n < 256 by omega)

/-- Levels of one rank are the same. -/
theorem level_eq_iff {level level' : Log.Level} : level = level' ↔ level.rank = level'.rank := by
  cases level <;> cases level' <;> decide

end

/-- Of the flags before and after a subcommand those after it are counted, and those before it only
if there are none after it. That is the count of all of them, and the log has the level of all of
them, exactly when one side has none or the flags after it already reach the highest. -/
structure CountsLast (i : Invocation) (before after : Nat) : Prop where
  verbosity : i.verbosity.toNat = min 255 (if after = 0 then before else after)
  isTotal_iff : i.verbosity.toNat = min 255 (before + after) ↔
    before = 0 ∨ after = 0 ∨ 255 ≤ after
  levelIsTotal_iff : Log.Level.ofVerbosity i.verbosity =
      Log.Level.ofVerbosity (min 255 (before + after)).toUInt8 ↔
    before = 0 ∨ after = 0 ∨ 3 ≤ after

section

variable {scope : Scope} {word : Bytes} {words before after : List Bytes} {top sub : Given}
  {fallback : Option Bytes} {i : Invocation}

theorem countsLast_of_verbosity {m n : Nat}
    (h : i.verbosity.toNat = min 255 (if n = 0 then m else n)) : CountsLast i m n where
  verbosity := h
  isTotal_iff := by
    rw [h]
    split <;> omega
  levelIsTotal_iff := by
    rw [level_eq_iff, Log.Level.rank_ofVerbosity, Log.Level.rank_ofVerbosity, toNat_min_toUInt8, h]
    split <;> omega

theorem countsLast_invocation (hbefore : Says .top {} before top) (hafter : Says scope {} after sub)
    (named : Option Command) :
    CountsLast (invocation top sub named fallback) (verboseCount before) (verboseCount after) := by
  refine countsLast_of_verbosity ?_
  rw [invocation, (hafter.raises none).2, (hbefore.raises none).2, toNat_min_toUInt8]
  exact congrArg (min 255) (getD_raised_or _ _)

/-- A line without a subcommand says something in the scope of all. -/
theorem says_of_unnamed (hparse : parse fallback words = .ok i) (hunnamed : i.named = none) :
    ∃ top, Says .top {} words top := by
  cases asks_of_parse hparse with
  | unnamed hsaid => exact ⟨_, hsaid⟩
  | @named _ _ _ scope _ _ hname =>
    cases scope with
    | top =>
      obtain ⟨name, hmem, -⟩ := mem_of_subcommand? hname
      simp [Scope.subcommands] at hmem
    | _ => cases hunnamed

theorem commandOf_withCount (scope : Scope) (g : Given) (count : Option Nat) :
    commandOf scope { g with verbosity := count } = commandOf scope g := by
  cases scope <;> rfl

end

/-- Flags for verbosity may be put on both sides of a subcommand in any spelling, next to all words
that are accepted there, flags among them. They change the verbosity only, and of the two counts
the last is taken: they are not added. -/
theorem countsLast_of_bothSides (fallback : Option Bytes) {name : String} {scope : Scope}
    (hname : (name, scope) ∈ Scope.subcommands) {before after : List Bytes}
    (hdash : doubleDash ∉ before) {front base : Invocation}
    (hfront : parse fallback before = .ok front) (hunnamed : front.named = none)
    (hbase : parse fallback (before ++ Bytes.ofString name :: after) = .ok base)
    (first second : List FlagWord) :
    ∃ i, parse fallback ((before ++ flagWords first) ++
          Bytes.ofString name :: (flagWords second ++ after)) = .ok i ∧
      i = { base with verbosity := i.verbosity } ∧
      CountsLast i (verboseCount (before ++ flagWords first))
        (verboseCount (flagWords second ++ after)) := by
  obtain ⟨top, hbefore⟩ := says_of_unnamed hfront hunnamed
  obtain ⟨sub, hafter, hconfig, rfl⟩ :=
    (parse_named_iff (subcommand?_of_mem hname) hdash hbefore).mp hbase
  obtain ⟨count, hfirst⟩ := says_flagWords .top top first
  obtain ⟨count', hsecond⟩ := says_flagWords scope {} second
  have hbefore' := hbefore.append hdash hfirst
  have hafter' := hsecond.append (doubleDash_notMem_flagWords second) (hafter.raises count').1
  have hdash' : doubleDash ∉ before ++ flagWords first := fun h =>
    (List.mem_append.mp h).elim hdash (doubleDash_notMem_flagWords first)
  refine ⟨_, (parse_named_iff (subcommand?_of_mem hname) hdash' hbefore').mpr
    ⟨_, hafter', hconfig, rfl⟩, ?_, countsLast_invocation hbefore' hafter' _⟩
  rw [commandOf_withCount]
  rfl

/-- Words before a subcommand, a flag among them. -/
private def wordsInFront : List Bytes := ["--verbose", "--output", "json"].map Bytes.ofString

/-- Words of a run, a flag and an argument like one among them. -/
private def wordsOfRun : List Bytes :=
  ["--program=echo", "--verbose", "--", "-v"].map Bytes.ofString

theorem countsLast_of_bothSides_run :
    ∃ i, parse none ((wordsInFront ++ flagWords [.letters 1]) ++
          Bytes.ofString "run" :: (flagWords [.letters 0] ++ wordsOfRun)) = .ok i ∧
      i = ⟨some (.run ⟨some "echo", ["-v"]⟩), .json, none, i.verbosity⟩ ∧ CountsLast i 3 2 := by
  have hfront : parse none wordsInFront = .ok { output := .json, verbosity := 1 } := rfl
  have hbase : parse none (wordsInFront ++ Bytes.ofString "run" :: wordsOfRun) =
      .ok { named := some (.run ⟨some "echo", ["-v"]⟩), output := .json, verbosity := 1 } := rfl
  exact countsLast_of_bothSides none (show ("run", Scope.run) ∈ Scope.subcommands by decide)
    (by decide) hfront rfl hbase [.letters 1] [.letters 0]

/-- One flag on each side of a subcommand makes a verbosity of one, not of two. -/
theorem verbosity_ne_sum_of_one_each :
    ∃ i, parse none ([Bytes.ofString "-v"] ++ Bytes.ofString "run" :: [Bytes.ofString "-v"]) = .ok i ∧
      i.verbosity.toNat ≠
        min 255 (verboseCount [Bytes.ofString "-v"] + verboseCount [Bytes.ofString "-v"]) := by
  have hword : RepeatsVerbose (Bytes.ofString "-v") 1 := .letters rfl
  have hsaid : ∀ scope, Says scope {} [Bytes.ofString "-v"] (Given.louder {} 1) :=
    fun scope => .item (.verbose hword) .nothing
  have hname : subcommand? (Bytes.ofString "run") = some (.scope .run) := rfl
  have hasks : Asks none _ _ := .named hname (by decide) (hsaid .top) (hsaid .run) nofun
  refine ⟨_, parse_eq_ok_iff_asks.mpr hasks, ?_⟩
  decide

end ImageSwap.CommandLine
