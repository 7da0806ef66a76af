import ImageSwap.Proofs.LineReading

/-!
# Options for all subcommands

The options for the format, the config file and the verbosity may stand before a subcommand and
after it, in any spelling and order. They do not change the command or its own options. What is said
after the subcommand counts before what is said in front of it, and both count before the variable
for the config file.
-/

namespace ImageSwap.CommandLine

/-- An option for all subcommands, in one of its spellings. -/
inductive GlobalOption where
  | outputApart (format : OutputFormat)
  | outputAttached (format : OutputFormat)
  /-- A path in a word of its own begins with no dash, unless it is a lone one. -/
  | configApart (path : Bytes) (hpath : path ≠ [])
    (hplain : path.head? ≠ some Token.dash ∨ path = [Token.dash])
  | configAttached (path : Bytes) (hpath : path ≠ [])
  | verbose (flag : FlagWord)

namespace GlobalOption

/-- The words that an option is written in. -/
def words : GlobalOption → List Bytes
  | outputApart format => [Bytes.ofString "--output", Bytes.ofString format.name]
  | outputAttached format => [Bytes.ofString "--output=" ++ Bytes.ofString format.name]
  | configApart path _ _ => [Bytes.ofString "--config", path]
  | configAttached path _ => [Bytes.ofString "--config=" ++ path]
  | verbose flag => [flag.word]

/-- The format that an option names. -/
def output? : GlobalOption → Option OutputFormat
  | outputApart format | outputAttached format => some format
  | _ => none

/-- The config file that an option names. -/
def config? : GlobalOption → Option Bytes
  | configApart path _ _ | configAttached path _ => some path
  | _ => none

/-- How many flags for verbosity an option is. -/
def flags : GlobalOption → Nat
  | verbose flag => flag.flags
  | _ => 0

end GlobalOption

/-- Options for all subcommands in a row. -/
abbrev GlobalOptions := List GlobalOption

namespace GlobalOptions

/-- The words of options in a row. -/
def words (options : GlobalOptions) : List Bytes := options.flatMap GlobalOption.words

/-- The formats that options name. -/
def outputs (options : GlobalOptions) : List OutputFormat := options.filterMap GlobalOption.output?

/-- The config files that options name. -/
def configs (options : GlobalOptions) : List Bytes := options.filterMap GlobalOption.config?

/-- How many flags for verbosity options are. -/
def flags : GlobalOptions → Nat
  | [] => 0
  | option :: options => option.flags + flags options

/-- Options name a format at most once and a config file at most once. -/
structure Once (options : GlobalOptions) : Prop where
  outputs : options.outputs.length ≤ 1
  configs : options.configs.length ≤ 1

end GlobalOptions

/-- Whether a word before a double dash is an option for all subcommands. -/
def isGlobalOption (word : Bytes) : Bool :=
  match Token.ofWord word with
  | .long name _ => ["output", "config", "verbose"].any fun global => name = Bytes.ofString global
  | .short letters => letters.contains Token.letterV
  | _ => false

/-- What is said about the command itself, and for the rest what is said besides. -/
def Given.beside (own global : Given) : Given :=
  { global with program := own.program, arguments := own.arguments }

section

variable {scope : Scope} {words : List Bytes} {g g' : Given}

theorem isGlobalOption_of_long {word : Bytes} {option : ValueOption} {value : Option Bytes}
    (hword : Token.ofWord word = .long (Bytes.ofString option.name) value) :
    isGlobalOption word = decide (option ≠ .program) := by
  rw [isGlobalOption, hword]
  cases option <;> rfl

theorem isGlobalOption_of_repeatsVerbose {word : Bytes} {n : Nat} (hword : RepeatsVerbose word n) :
    isGlobalOption word = true := by
  cases hword with
  | name hword =>
    rw [isGlobalOption, hword]
    rfl
  | letters hword =>
    have hne := Token.ne_nil_of_ofWord_eq_short hword
    have hpos : n ≠ 0 := fun h => hne (by rw [h, List.replicate_zero])
    simp [isGlobalOption, hword, hpos]

theorem take_program_beside {raw : Bytes} (h : g.take .program raw = .ok g') (global : Given) :
    (g.beside global).take .program raw = .ok (g'.beside global) := by
  cases Given.take_eq_ok_iff.mp h with
  | program hnone htext => exact Given.take_eq_ok_iff.mpr (.program hnone htext)

/-- An option or an argument of the command itself says the same beside options for all
subcommands. -/
theorem Item.beside (h : Item scope g words g') (hown : ∀ word ∈ words, isGlobalOption word = false)
    (global : Given) : Item scope (g.beside global) words (g'.beside global) := by
  cases h with
  | @attached option raw word _ hword hoption htake =>
    have hprogram := (isGlobalOption_of_long hword).symm.trans (hown word (by simp))
    obtain rfl : option = .program := by simpa using hprogram
    exact .attached hword hoption (take_program_beside htake global)
  | @apart option word raw _ hword hraw hoption htake =>
    have hprogram := (isGlobalOption_of_long hword).symm.trans (hown word (by simp))
    obtain rfl : option = .program := by simpa using hprogram
    exact .apart hword hraw hoption (take_program_beside htake global)
  | @verbose n word hword =>
    have hfalse := (isGlobalOption_of_repeatsVerbose hword).symm.trans (hown word (by simp))
    cases hfalse
  | argument hscope hfirst hword htake =>
    obtain ⟨arguments, hraws, rfl⟩ := Given.takeArguments_eq_ok_iff.mp htake
    exact .argument hscope hfirst hword
      (Given.takeArguments_eq_ok_iff.mpr ⟨arguments, hraws, rfl⟩)

/-- The words of the command itself say the same beside options for all subcommands. -/
theorem Says.beside (h : Says scope g words g')
    (hown : ∀ word ∈ words.takeWhile (· ≠ doubleDash), isGlobalOption word = false)
    (global : Given) : Says scope (g.beside global) words (g'.beside global) := by
  induction h with
  | nothing => exact .nothing
  | item hitem _ ih =>
    rw [hitem.takeWhile_append] at hown
    refine .item (hitem.beside (fun word h => hown word (List.mem_append_left _ h)) global) ?_
    exact ih fun word h => hown word (List.mem_append_right _ h)
  | behind hwords htake =>
    obtain ⟨arguments, hraws, rfl⟩ := Given.takeArguments_eq_ok_iff.mp htake
    exact .behind hwords (Given.takeArguments_eq_ok_iff.mpr ⟨arguments, hraws, rfl⟩)

/-- What is said with options for all subcommands besides. -/
def Given.plus (g : Given) (options : GlobalOptions) : Given :=
  { g with
    output := g.output.or options.outputs.head?
    config := g.config.or options.configs.head?
    verbosity := raised g.verbosity options.flags }

namespace GlobalOptions

@[simp] theorem outputs_nil : outputs [] = [] := rfl

@[simp] theorem configs_nil : configs [] = [] := rfl

@[simp] theorem flags_nil : flags [] = 0 := rfl

@[simp] theorem outputs_cons (option : GlobalOption) (options : GlobalOptions) :
    outputs (option :: options) = option.output?.toList ++ options.outputs := by
  rw [outputs, List.filterMap_cons]
  cases option.output? <;> rfl

@[simp] theorem configs_cons (option : GlobalOption) (options : GlobalOptions) :
    configs (option :: options) = option.config?.toList ++ options.configs := by
  rw [configs, List.filterMap_cons]
  cases option.config? <;> rfl

@[simp] theorem flags_cons (option : GlobalOption) (options : GlobalOptions) :
    flags (option :: options) = option.flags + options.flags := rfl

end GlobalOptions

namespace Given

@[simp] theorem plus_nil (g : Given) : g.plus [] = g := by
  simp [plus]

theorem plus_singleton (g : Given) (option : GlobalOption) :
    g.plus [option] = { g with
      output := g.output.or option.output?
      config := g.config.or option.config?
      verbosity := raised g.verbosity option.flags } := by
  simp [plus]

/-- Options say one after the other what they say in a row. -/
theorem plus_cons (g : Given) (option : GlobalOption) (options : GlobalOptions) :
    g.plus (option :: options) = (g.plus [option]).plus options := by
  rw [plus_singleton, plus, plus]
  simp [Option.or_assoc, raised_raised]

theorem take_output (h : g.output = none) (format : OutputFormat) :
    g.take .output (Bytes.ofString format.name) = .ok { g with output := some format } := by
  have hname : Bytes.ofString format.name ≠ [] := by cases format <;> decide
  have hformat : OutputFormat.ofName? (Bytes.ofString format.name).lossy = some format := by
    rw [Bytes.lossy_ofString, OutputFormat.ofName?_name]
  exact take_eq_ok_iff.mpr (.output h hname hformat)

theorem take_config (h : g.config = none) {path : Bytes} (hpath : path ≠ []) :
    g.take .config path = .ok { g with config := some path } :=
  take_eq_ok_iff.mpr (.config h hpath)

end Given

theorem ofWord_outputAttached (raw : Bytes) :
    Token.ofWord (Bytes.ofString "--output=" ++ raw) =
      .long (Bytes.ofString ValueOption.output.name) (some raw) :=
  have hname : Token.equals ∉ Bytes.ofString ValueOption.output.name := by decide
  Token.ofWord_attached hname raw

theorem ofWord_configAttached (raw : Bytes) :
    Token.ofWord (Bytes.ofString "--config=" ++ raw) =
      .long (Bytes.ofString ValueOption.config.name) (some raw) :=
  have hname : Token.equals ∉ Bytes.ofString ValueOption.config.name := by decide
  Token.ofWord_attached hname raw

theorem output_mem_valueOptions (scope : Scope) : .output ∈ scope.valueOptions := by
  cases scope <;> decide

theorem config_mem_valueOptions (scope : Scope) : .config ∈ scope.valueOptions := by
  cases scope <;> decide

/-- An option for all subcommands is read in every scope, unless it names what is named before. -/
theorem item_plus {option : GlobalOption} (houtput : g.output = none ∨ option.output? = none)
    (hconfig : g.config = none ∨ option.config? = none) :
    Item scope g option.words (g.plus [option]) := by
  rw [Given.plus_singleton]
  cases option with
  | outputApart format =>
    have hnone : g.output = none := houtput.resolve_right (by simp [GlobalOption.output?])
    have hplain : Token.ofWord (Bytes.ofString format.name) = .plain := by cases format <;> rfl
    have hitem : Item scope g (GlobalOption.outputApart format).words
        { g with output := some format } :=
      .apart rfl hplain (output_mem_valueOptions scope) (Given.take_output hnone format)
    simpa [GlobalOption.output?, GlobalOption.config?, GlobalOption.flags, hnone] using hitem
  | outputAttached format =>
    have hnone : g.output = none := houtput.resolve_right (by simp [GlobalOption.output?])
    have hitem : Item scope g (GlobalOption.outputAttached format).words
        { g with output := some format } :=
      .attached (ofWord_outputAttached _) (output_mem_valueOptions scope)
        (Given.take_output hnone format)
    simpa [GlobalOption.output?, GlobalOption.config?, GlobalOption.flags, hnone] using hitem
  | configApart path hpath hplain =>
    have hnone : g.config = none := hconfig.resolve_right (by simp [GlobalOption.config?])
    have hitem : Item scope g (GlobalOption.configApart path hpath hplain).words
        { g with config := some path } :=
      .apart rfl (Token.ofWord_eq_plain hplain) (config_mem_valueOptions scope)
        (Given.take_config hnone hpath)
    simpa [GlobalOption.output?, GlobalOption.config?, GlobalOption.flags, hnone] using hitem
  | configAttached path hpath =>
    have hnone : g.config = none := hconfig.resolve_right (by simp [GlobalOption.config?])
    have hitem : Item scope g (GlobalOption.configAttached path hpath).words
        { g with config := some path } :=
      .attached (ofWord_configAttached path) (config_mem_valueOptions scope)
        (Given.take_config hnone hpath)
    simpa [GlobalOption.output?, GlobalOption.config?, GlobalOption.flags, hnone] using hitem
  | verbose flag =>
    have hitem : Item scope g (GlobalOption.verbose flag).words (g.louder flag.flags) :=
      .verbose flag.repeatsVerbose
    simpa [GlobalOption.output?, GlobalOption.config?, GlobalOption.flags, Given.louder] using hitem

theorem doubleDash_notMem_words (options : GlobalOptions) : doubleDash ∉ options.words := by
  intro h
  obtain ⟨option, -, hmem⟩ := List.mem_flatMap.mp h
  have hitem : Item .top {} option.words _ := item_plus (.inl rfl) (.inl rfl)
  exact hitem.doubleDash_notMem hmem

/-- A value and values in a row are at most one in all. -/
theorem length_toList_or {α : Type} {first next : Option α} {rest : List α}
    (h : (first.toList ++ (next.toList ++ rest)).length ≤ 1) :
    (first = none ∨ next = none) ∧ ((first.or next).toList ++ rest).length ≤ 1 := by
  cases first <;> cases next <;> simp_all

/-- Options for all subcommands say in every scope what they name. -/
theorem says_plus {options : GlobalOptions}
    (houtputs : (g.output.toList ++ options.outputs).length ≤ 1)
    (hconfigs : (g.config.toList ++ options.configs).length ≤ 1) :
    Says scope g options.words (g.plus options) := by
  induction options generalizing g with
  | nil =>
    rw [Given.plus_nil]
    exact .nothing
  | cons option options ih =>
    rw [GlobalOptions.outputs_cons] at houtputs
    rw [GlobalOptions.configs_cons] at hconfigs
    obtain ⟨houtput, houtputs'⟩ := length_toList_or houtputs
    obtain ⟨hconfig, hconfigs'⟩ := length_toList_or hconfigs
    rw [Given.plus_cons]
    refine .item (item_plus houtput hconfig) (ih ?_ ?_)
    · rw [Given.plus_singleton]
      exact houtputs'
    · rw [Given.plus_singleton]
      exact hconfigs'

theorem commandOf_beside (scope : Scope) (own global : Given) :
    commandOf scope (own.beside global) = commandOf scope own := by
  cases scope <;> rfl

variable {fallback : Option Bytes} {i : Invocation} {before after : GlobalOptions}
  {rest : List Bytes} {word : Bytes}

/-- What is asked for with options for all subcommands before and after the subcommand. -/
theorem parse_between (hfallback : fallback ≠ some [])
    (hname : subcommand? word = some (.scope scope)) (hbefore : before.Once) (hafter : after.Once)
    (hrest : ∀ word ∈ rest.takeWhile (· ≠ doubleDash), isGlobalOption word = false)
    (hparse : parse fallback (word :: rest) = .ok i) :
    parse fallback (before.words ++ word :: (after.words ++ rest)) = .ok {
      named := i.named
      output := (after.outputs.head?.or before.outputs.head?).getD .human
      config := (after.configs.head?.or before.configs.head?).or fallback
      verbosity :=
        (min 255 (if after.flags = 0 then before.flags else after.flags)).toUInt8 } := by
  obtain ⟨own, hown, -, rfl⟩ := (parse_named_iff hname (by simp) .nothing).mp hparse
  have hglobal : Says scope {} after.words (Given.plus {} after) :=
    says_plus hafter.outputs hafter.configs
  have hboth : Says scope {} (after.words ++ rest) (own.beside (Given.plus {} after)) :=
    hglobal.append (doubleDash_notMem_words after) (hown.beside hrest (Given.plus {} after))
  refine (parse_named_iff hname (doubleDash_notMem_words before)
    (says_plus hbefore.outputs hbefore.configs)).mpr
      ⟨_, hboth, fun h => absurd h hfallback, ?_⟩
  rw [commandOf_beside]
  simp only [invocation, Given.beside, Given.plus, Option.none_or, getD_raised_or]
  rfl

end

/-- Options for all subcommands mean the same before and after a subcommand: the command and its own
options are those of the line without them, what is said after the subcommand counts before what is
said in front of it, and moving them all behind it changes nothing. -/
theorem parse_globalOptions (fallback : Option Bytes) (hfallback : fallback ≠ some [])
    {name : String} {scope : Scope} (hname : (name, scope) ∈ Scope.subcommands)
    {before after : GlobalOptions} (hbefore : before.Once) (hafter : after.Once)
    {rest : List Bytes}
    (hrest : ∀ word ∈ rest.takeWhile (· ≠ doubleDash), isGlobalOption word = false)
    {i : Invocation} (hparse : parse fallback (Bytes.ofString name :: rest) = .ok i) :
    parse fallback (before.words ++ Bytes.ofString name :: (after.words ++ rest)) = .ok {
      named := i.named
      output := (after.outputs.head?.or before.outputs.head?).getD .human
      config := (after.configs.head?.or before.configs.head?).or fallback
      verbosity :=
        (min 255 (if after.flags = 0 then before.flags else after.flags)).toUInt8 } ∧
    parse fallback (before.words ++ Bytes.ofString name :: rest) =
      parse fallback (Bytes.ofString name :: (before.words ++ rest)) := by
  have hname' := subcommand?_of_mem hname
  have hnone : GlobalOptions.Once [] := ⟨Nat.zero_le _, Nat.zero_le _⟩
  refine ⟨parse_between hfallback hname' hbefore hafter hrest hparse, ?_⟩
  have hfront := parse_between hfallback hname' hbefore hnone hrest hparse
  have hbehind := parse_between hfallback hname' hnone hbefore hrest hparse
  refine hfront.trans (Eq.trans ?_ hbehind.symm)
  by_cases hflags : before.flags = 0 <;> simp [hflags]

/-- Options in all spellings, in front of a subcommand. -/
private def inFront : GlobalOptions :=
  [.verbose (.letters 1), .outputApart .json,
    .configApart (Bytes.ofString "-") (by decide) (.inr rfl)]

/-- Options in all spellings, behind a subcommand. -/
private def behindName : GlobalOptions :=
  [.configAttached (Bytes.ofString "own.toml") (by decide), .verbose .name]

/-- The words of a run, with arguments that look like options. -/
private def ownWords : List Bytes :=
  ["--program", "echo", "--", "--output", "-v"].map Bytes.ofString

theorem parse_globalOptions_mixed :
    parse (some (Bytes.ofString "other.toml"))
      (inFront.words ++ Bytes.ofString "run" :: (behindName.words ++ ownWords)) = .ok {
        named := some (.run ⟨some "echo", ["--output", "-v"]⟩)
        output := .json
        config := some (Bytes.ofString "own.toml")
        verbosity := 1 } ∧
    parse (some (Bytes.ofString "other.toml"))
        (inFront.words ++ Bytes.ofString "run" :: ownWords) =
      parse (some (Bytes.ofString "other.toml"))
        (Bytes.ofString "run" :: (inFront.words ++ ownWords)) :=
  parse_globalOptions (some (Bytes.ofString "other.toml")) (by decide)
    (show ("run", Scope.run) ∈ Scope.subcommands by decide)
    ⟨by decide, by decide⟩ ⟨by decide, by decide⟩ (by decide) (i := {
      named := some (.run ⟨some "echo", ["--output", "-v"]⟩)
      config := some (Bytes.ofString "other.toml") }) rfl

end ImageSwap.CommandLine
