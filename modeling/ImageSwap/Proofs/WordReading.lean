import ImageSwap.CommandLine.Parser
import ImageSwap.Proofs.Results

/-!
# How a word of a command line is read

A word ends the options, is an option with or without its value, repeats the flag for verbosity, or
is a value or an argument. Each of these has one effect on what has been read so far, and nothing
else is read without an error or a request for help. What holds of a whole command line follows from
what each word does.
-/

namespace ImageSwap.CommandLine

/-- The word that ends the options. -/
def doubleDash : Bytes := Bytes.ofString "--"

namespace Token

/-- The byte of the letter for the flag for verbosity. -/
def letterV : UInt8 := 0x76

/-- A name without an equals sign is read to its end. -/
theorem takeWhile_name {name : Bytes} (h : equals ∉ name) (rest : Bytes) :
    (name ++ rest).takeWhile (· != equals) = name ++ rest.takeWhile (· != equals) :=
  List.takeWhile_append_of_pos fun b hb => by
    simpa using fun heq : b = equals => h (heq ▸ hb)

theorem ofWord_attached {name : Bytes} (h : equals ∉ name) (value : Bytes) :
    ofWord (dash :: dash :: (name ++ equals :: value)) = .long name (some value) := by
  have htake := takeWhile_name h (equals :: value)
  rw [List.takeWhile_cons_of_neg (by simp), List.append_nil] at htake
  simp [ofWord, htake]

theorem ofWord_short {letter : UInt8} (h : letter ≠ dash) (letters : Bytes) :
    ofWord (dash :: letter :: letters) = .short (letter :: letters) := by
  simp [ofWord, h]

theorem ofWord_eq_doubleDash_iff {word : Bytes} :
    ofWord word = .doubleDash ↔ word = CommandLine.doubleDash := by
  have hword : CommandLine.doubleDash = [dash, dash] := by decide
  rw [hword]
  match word with
  | [] => simp [ofWord]
  | [_] => simp [ofWord]
  | a :: b :: rest =>
    simp only [ofWord]
    grind

/-- A word that does not begin with a dash is plain, and so is a lone dash. -/
theorem ofWord_eq_plain {word : Bytes} (h : word.head? ≠ some dash ∨ word = [dash]) :
    ofWord word = .plain := by
  match word with
  | [] => rfl
  | [_] => rfl
  | a :: b :: rest =>
    have ha : a ≠ dash := by simpa using h
    simp [ofWord, ha]

theorem ne_nil_of_ofWord_eq_short {word letters : Bytes} (h : ofWord word = .short letters) :
    letters ≠ [] := by
  match word with
  | [] => cases h
  | [_] => cases h
  | a :: b :: rest =>
    simp only [ofWord] at h
    grind

end Token

/-- A count of flags for verbosity with more of them besides; there is none without a flag. -/
def raised (count : Option Nat) (flags : Nat) : Option Nat :=
  if flags = 0 then count else some (count.getD 0 + flags)

@[simp] theorem raised_zero (count : Option Nat) : raised count 0 = count := rfl

theorem raised_of_ne_zero {flags : Nat} (h : flags ≠ 0) (count : Option Nat) :
    raised count flags = some (count.getD 0 + flags) := if_neg h

theorem raised_raised (count : Option Nat) (flags more : Nat) :
    raised (raised count flags) more = raised count (flags + more) := by
  by_cases hflags : flags = 0
  · rw [hflags, raised_zero, Nat.zero_add]
  · by_cases hmore : more = 0
    · rw [hmore, raised_zero, Nat.add_zero]
    · rw [raised_of_ne_zero hflags, raised_of_ne_zero hmore, raised_of_ne_zero (by omega),
        Option.getD_some, Nat.add_assoc]

/-- The flags after a subcommand are counted, and those before it only if there are none. -/
theorem getD_raised_or (before after : Nat) :
    ((raised none after).or (raised none before)).getD 0 = if after = 0 then before else after := by
  by_cases hafter : after = 0
  · rw [if_pos hafter, hafter, raised_zero, Option.none_or]
    by_cases hbefore : before = 0
    · rw [hbefore, raised_zero, Option.getD_none]
    · rw [raised_of_ne_zero hbefore, Option.getD_some, Option.getD_none, Nat.zero_add]
  · rw [if_neg hafter, raised_of_ne_zero hafter, Option.some_or, Option.getD_some,
      Option.getD_none, Nat.zero_add]

/-- What is said with a number of flags for verbosity besides. -/
def Given.louder (g : Given) (n : Nat) : Given := { g with verbosity := raised g.verbosity n }

namespace Progress

variable {p q p' : Progress}

theorem settle_eq_ok_iff :
    p.settle = .ok q ↔
      ∃ given, p.given.settle p.pending = .ok given ∧ q = { p with given, pending := none } := by
  unfold settle
  cases p.given.settle p.pending with
  | error e => simp
  | ok given => simp [eq_comm]

theorem pending_of_settle (h : p.settle = .ok q) : q.pending = none := by
  obtain ⟨given, -, rfl⟩ := settle_eq_ok_iff.mp h
  rfl

theorem trailing_of_settle (h : p.settle = .ok q) : q.trailing = p.trailing := by
  obtain ⟨given, -, rfl⟩ := settle_eq_ok_iff.mp h
  rfl

theorem settle_of_pending_none (h : p.pending = none) : p.settle = .ok p := by
  rw [settle, h, Given.settle, ← h]

/-- The progress after a number of flags for verbosity, when nothing is pending. -/
def louder (p : Progress) (n : Nat) : Progress := { p with given := p.given.louder n }

variable {scope : Scope} {fallback : Bytes}

/-- The only flag after which reading goes on is the one for verbosity. -/
theorem takeFlag_eq_ok_iff {long : Bool} {flag : Flag} :
    p.takeFlag scope fallback long flag = .ok p' ↔
      flag = .verbose ∧ ∃ q, p.settle = .ok q ∧ p' = q.louder 1 := by
  rw [takeFlag, except_bind_eq_ok_iff]
  cases flag <;>
    simp [louder, Given.louder, raised, pure, Except.pure, throw, throwThe, MonadExceptOf.throw,
      eq_comm]

theorem takeLetter_eq_ok_iff {letter : Char} :
    takeLetter scope fallback p letter = .ok p' ↔
      letter = 'v' ∧ ∃ q, p.settle = .ok q ∧ p' = q.louder 1 := by
  unfold takeLetter flagOfLetter?
  split
  · next flag hflag =>
    rw [takeFlag_eq_ok_iff]
    split at hflag
    · cases hflag
      simp
    · cases hflag
      simp
    · split at hflag
      · cases hflag
        simp
      · cases hflag
    · cases hflag
  · next hflag =>
    split at hflag
    · cases hflag
    all_goals simp_all

theorem settle_louder (h : p.pending = none) (n : Nat) :
    (p.louder n).settle = .ok (p.louder n) :=
  settle_of_pending_none h

theorem louder_louder (p : Progress) (m n : Nat) : (p.louder m).louder n = p.louder (m + n) := by
  simp [louder, Given.louder, raised_raised]

/-- A group of letters is read exactly when each is that of the flag for verbosity. -/
theorem foldlM_takeLetter_eq_ok_iff {letter : Char} {letters : List Char} :
    (letter :: letters).foldlM (takeLetter scope fallback) p = .ok p' ↔
      letter :: letters = List.replicate (letters.length + 1) 'v' ∧
        ∃ q, p.settle = .ok q ∧ p' = q.louder (letters.length + 1) := by
  induction letters generalizing letter p with
  | nil =>
    rw [List.foldlM_cons, except_bind_eq_ok_iff]
    simp [takeLetter_eq_ok_iff, pure, Except.pure]
  | cons next letters ih =>
    rw [List.foldlM_cons, except_bind_eq_ok_iff]
    simp only [takeLetter_eq_ok_iff, ih, List.length_cons]
    constructor
    · rintro ⟨_, ⟨rfl, q, hsettle, rfl⟩, hletters, r, hr, rfl⟩
      rw [settle_louder (pending_of_settle hsettle)] at hr
      cases hr
      refine ⟨by rw [hletters]; rfl, q, hsettle, ?_⟩
      rw [louder_louder, Nat.add_comm]
    · rintro ⟨hletters, q, hsettle, rfl⟩
      rw [List.replicate_succ, List.cons.injEq] at hletters
      refine ⟨q.louder 1, ⟨hletters.1, q, hsettle, rfl⟩, hletters.2, q.louder 1,
        settle_louder (pending_of_settle hsettle) 1, ?_⟩
      rw [louder_louder, Nat.add_comm]

private theorem utf8ByteSize_letters (n : Nat) :
    (String.ofList (List.replicate n 'v')).utf8ByteSize = n := by
  induction n with
  | zero => rfl
  | succ n ih =>
    have hletter : 'v'.utf8Size = 1 := rfl
    rw [List.replicate_succ, String.ofList_cons, String.utf8ByteSize_append, ih,
      String.utf8ByteSize_singleton, hletter, Nat.add_comm]

private theorem ofOctets_letters (n : Nat) :
    Bytes.ofOctets (List.replicate n 'v') = List.replicate n Token.letterV := by
  rw [Bytes.ofOctets, List.map_replicate]
  rfl

private theorem readable_letters (n : Nat) :
    Bytes.readable (List.replicate n Token.letterV) = List.replicate n 'v' := by
  rw [Bytes.readable_of_lt, Bytes.toOctets, List.map_replicate]
  · rfl
  · intro b hb
    rw [List.eq_of_mem_replicate hb]
    decide

/-- Bytes that are read as no fewer letters than they are hold one letter each. -/
private theorem eq_letters_of_readable {letters : Bytes} {n : Nat}
    (h : letters.readable = List.replicate n 'v') (hlength : letters.length ≤ n) :
    letters = List.replicate n Token.letterV := by
  rw [← ofOctets_letters, ← h]
  refine Bytes.eq_ofOctets_readable ?_
  rw [h, List.length_replicate]
  exact hlength

/-- Letters after a dash are read exactly when each is that of the flag for verbosity. -/
theorem takeShort_eq_ok_iff {letters : Bytes} (h : letters ≠ []) :
    p.takeShort scope fallback letters = .ok p' ↔
      letters = List.replicate letters.length Token.letterV ∧
        ∃ q, p.settle = .ok q ∧ p' = q.louder letters.length := by
  rw [takeShort, except_bind_eq_ok_iff]
  constructor
  · rintro ⟨p₁, hfold, hrest⟩
    dsimp only at hrest
    split at hrest
    · next hnone =>
      cases hrest
      have hle := List.drop_eq_nil_iff.mp hnone
      cases hreadable : letters.readable with
      | nil =>
        rw [hreadable] at hle
        exact absurd (List.eq_nil_of_length_eq_zero (Nat.le_zero.mp hle)) h
      | cons letter rest =>
        rw [hreadable, foldlM_takeLetter_eq_ok_iff] at hfold
        obtain ⟨hletters, q, hsettle, rfl⟩ := hfold
        rw [hletters] at hreadable
        -- what is left behind the letters that are read is nothing
        rw [hreadable, utf8ByteSize_letters] at hle
        rw [eq_letters_of_readable hreadable hle, List.length_replicate]
        exact ⟨rfl, q, hsettle, rfl⟩
    · cases hrest
  · rintro ⟨hletters, q, hsettle, rfl⟩
    obtain ⟨letter, rest, rfl⟩ := List.exists_cons_of_ne_nil h
    rw [List.length_cons] at hletters ⊢
    refine ⟨q.louder (rest.length + 1), ?_, ?_⟩
    · rw [hletters, readable_letters, List.replicate_succ, foldlM_takeLetter_eq_ok_iff,
        List.length_replicate]
      exact ⟨rfl, q, hsettle, rfl⟩
    · rw [hletters, readable_letters, utf8ByteSize_letters]
      simp [pure, Except.pure]

end Progress

/-- A word repeats the flag for verbosity a number of times: by its name, or in a group of
letters. -/
inductive RepeatsVerbose (word : Bytes) : Nat → Prop where
  | name (h : Token.ofWord word = .long (Bytes.ofString "verbose") none) : RepeatsVerbose word 1
  | letters {n : Nat} (h : Token.ofWord word = .short (List.replicate n Token.letterV)) :
    RepeatsVerbose word n

/-- A word of flags for verbosity: the name of the flag, or a group of letters. -/
inductive FlagWord where
  | name
  /-- One letter and any number more. -/
  | letters (more : Nat)
  deriving DecidableEq, Repr

namespace FlagWord

/-- The word as it is written. -/
def word : FlagWord → Bytes
  | name => Bytes.ofString "--verbose"
  | letters more => Token.dash :: List.replicate (more + 1) Token.letterV

/-- How many flags a word holds. -/
def flags : FlagWord → Nat
  | name => 1
  | letters more => more + 1

theorem repeatsVerbose (flag : FlagWord) : RepeatsVerbose flag.word flag.flags := by
  cases flag with
  | name => exact .name rfl
  | letters more => exact .letters (Token.ofWord_short (by decide) (List.replicate more _))

end FlagWord

/-- How a word is read in a scope: what it makes of the progress before it. -/
inductive Reads (scope : Scope) (p : Progress) (word : Bytes) : Progress → Prop where
  /-- The word ends the options. -/
  | doubleDash (htrailing : p.trailing = false) (hword : Token.ofWord word = .doubleDash) :
    Reads scope p word { p with trailing := true }
  /-- An option with its value. -/
  | attached {option : ValueOption} {raw : Bytes} {q : Progress} {given : Given}
    (htrailing : p.trailing = false)
    (hword : Token.ofWord word = .long (Bytes.ofString option.name) (some raw))
    (hoption : option ∈ scope.valueOptions) (hsettle : p.settle = .ok q)
    (htake : q.given.take option raw = .ok given) : Reads scope p word { q with given }
  /-- An option whose value is still to come. -/
  | apart {option : ValueOption} {q : Progress} (htrailing : p.trailing = false)
    (hword : Token.ofWord word = .long (Bytes.ofString option.name) none)
    (hoption : option ∈ scope.valueOptions) (hsettle : p.settle = .ok q) :
    Reads scope p word { q with pending := some (.value option none) }
  | verbose {n : Nat} {q : Progress} (htrailing : p.trailing = false)
    (hword : RepeatsVerbose word n) (hsettle : p.settle = .ok q) :
    Reads scope p word (q.louder n)
  /-- The value of the option before. -/
  | value {option : ValueOption} (htrailing : p.trailing = false)
    (hword : Token.ofWord word = .plain) (hpending : p.pending = some (.value option none)) :
    Reads scope p word { p with pending := some (.value option (some word)) }
  /-- The first argument. -/
  | argument {q : Progress}
    (hscope : scope = .run ∧ p.trailing = true ∨ scope = .help ∧ p.given.arguments = [])
    (hword : p.trailing = true ∨ Token.ofWord word = .plain ∧ p.awaitsValue = false)
    (hpending : ∀ raws, p.pending ≠ some (.arguments raws)) (hsettle : p.settle = .ok q) :
    Reads scope p word { q with pending := some (.arguments [word]) }
  /-- An argument behind others. -/
  | further {raws : List Bytes} (hscope : scope = .run) (htrailing : p.trailing = true)
    (hpending : p.pending = some (.arguments raws)) :
    Reads scope p word { p with pending := some (.arguments (raws ++ [word])) }

namespace Scope

theorem find?_valueOptions_eq_some_iff {scope : Scope} {name : Bytes} {option : ValueOption} :
    scope.valueOptions.find? (fun o => decide (name = Bytes.ofString o.name)) = some option ↔
      option ∈ scope.valueOptions ∧ name = Bytes.ofString option.name := by
  constructor
  · intro h
    exact ⟨List.mem_of_find?_eq_some h, by simpa using List.find?_some h⟩
  · rintro ⟨hoption, rfl⟩
    cases scope <;> cases option <;> first | rfl | simp [valueOptions] at hoption

/-- No option with a value is named like the flag for verbosity. -/
theorem find?_valueOptions_verbose (scope : Scope) :
    scope.valueOptions.find? (fun o => decide (Bytes.ofString "verbose" = Bytes.ofString o.name)) =
      none := by
  cases scope <;> rfl

theorem find?_flags_verbose (scope : Scope) :
    scope.flags.find? (fun f => decide (Bytes.ofString "verbose" = Bytes.ofString f.name)) =
      some .verbose := by
  cases scope <;> rfl

end Scope

section

variable {p p' q : Progress} {scope : Scope} {fallback word : Bytes}

theorem reads_of_takeLong {name : Bytes} {value : Option Bytes} (htrailing : p.trailing = false)
    (hword : Token.ofWord word = .long name value)
    (h : p.takeLong scope fallback name value = .ok p') : Reads scope p word p' := by
  unfold Progress.takeLong at h
  dsimp only at h
  split at h
  · next option raw hfind =>
    obtain ⟨hoption, rfl⟩ := Scope.find?_valueOptions_eq_some_iff.mp hfind
    obtain ⟨q, hsettle, htake⟩ := except_bind_eq_ok_iff.mp h
    split at htake
    · next given htake' =>
      cases htake
      exact .attached htrailing hword hoption hsettle htake'
    · cases htake
  · next option hfind =>
    obtain ⟨hoption, rfl⟩ := Scope.find?_valueOptions_eq_some_iff.mp hfind
    obtain ⟨q, hsettle, hreturn⟩ := except_bind_eq_ok_iff.mp h
    cases hreturn
    exact .apart htrailing hword hoption hsettle
  · split at h
    · next flag hfind =>
      obtain ⟨rfl, q, hsettle, rfl⟩ := Progress.takeFlag_eq_ok_iff.mp h
      have hname := List.find?_some hfind
      rw [decide_eq_true_eq] at hname
      exact .verbose htrailing (.name (hname ▸ hword)) hsettle
    · cases h
    · cases h

theorem awaitsValue_eq_false_iff :
    p.awaitsValue = false ↔ ∀ option, p.pending ≠ some (.value option none) := by
  unfold Progress.awaitsValue
  split
  · next h => simp [h]
  · next h => simpa using h

theorem reads_of_takeArgument
    (hword : p.trailing = true ∨ Token.ofWord word = .plain ∧ p.awaitsValue = false)
    (h : p.takeArgument scope word = .ok p') : Reads scope p word p' := by
  unfold Progress.takeArgument at h
  dsimp only at h
  split at h
  · split at h <;> cases h
  · cases h
  · cases h
  · by_cases htrailing : p.trailing = true
    · rw [if_neg (by simp [htrailing])] at h
      split at h
      · next raws hpending =>
        cases h
        exact .further rfl htrailing hpending
      · next hpending =>
        obtain ⟨q, hsettle, hreturn⟩ := except_bind_eq_ok_iff.mp h
        cases hreturn
        exact .argument (.inl ⟨rfl, htrailing⟩) hword hpending hsettle
    · rw [if_pos (by simp [htrailing])] at h
      cases h
  · split at h
    · cases h
    · cases h
    · next harguments hpending =>
      obtain ⟨q, hsettle, hreturn⟩ := except_bind_eq_ok_iff.mp h
      cases hreturn
      exact .argument (.inr ⟨rfl, harguments⟩) hword (fun raws => hpending raws) hsettle

theorem reads_of_takeWord (h : p.takeWord scope fallback word = .ok p') :
    Reads scope p word p' := by
  unfold Progress.takeWord at h
  by_cases htrailing : p.trailing = true
  · rw [if_pos htrailing] at h
    exact reads_of_takeArgument (.inl htrailing) h
  · rw [if_neg htrailing] at h
    rw [Bool.not_eq_true] at htrailing
    cases hword : Token.ofWord word with
    | doubleDash =>
      simp only [hword] at h
      cases h
      exact .doubleDash htrailing hword
    | long name value =>
      simp only [hword] at h
      exact reads_of_takeLong htrailing hword h
    | short letters =>
      simp only [hword] at h
      obtain ⟨hletters, q, hsettle, rfl⟩ :=
        (Progress.takeShort_eq_ok_iff (Token.ne_nil_of_ofWord_eq_short hword)).mp h
      exact .verbose htrailing (.letters (hletters ▸ hword)) hsettle
    | plain =>
      simp only [hword] at h
      split at h
      · next option hpending =>
        cases h
        exact .value htrailing hword hpending
      · next hpending =>
        refine reads_of_takeArgument (.inr ⟨hword, ?_⟩) h
        exact awaitsValue_eq_false_iff.mpr hpending

/-- A word that is no word behind the options is read by its form. -/
theorem takeWord_of_options (htrailing : p.trailing = false) (fallback : Bytes) :
    p.takeWord scope fallback word =
      match Token.ofWord word with
      | .doubleDash => .ok { p with trailing := true }
      | .long name value => p.takeLong scope fallback name value
      | .short letters => p.takeShort scope fallback letters
      | .plain =>
        match p.pending with
        | some (.value option none) =>
          .ok { p with pending := some (.value option (some word)) }
        | _ => p.takeArgument scope word := by
  unfold Progress.takeWord
  exact if_neg (by simp [htrailing])

theorem takeWord_of_argument
    (hword : p.trailing = true ∨ Token.ofWord word = .plain ∧ p.awaitsValue = false)
    (fallback : Bytes) : p.takeWord scope fallback word = p.takeArgument scope word := by
  by_cases htrailing : p.trailing = true
  · rw [Progress.takeWord, if_pos htrailing]
  · obtain ⟨hplain, hawaits⟩ := hword.resolve_left htrailing
    rw [takeWord_of_options (by simpa using htrailing), hplain]
    dsimp only
    split
    · next option hpending => exact absurd hpending (awaitsValue_eq_false_iff.mp hawaits option)
    · rfl

theorem takeLong_verbose (hsettle : p.settle = .ok q) (fallback : Bytes) :
    p.takeLong scope fallback (Bytes.ofString "verbose") none = .ok (q.louder 1) := by
  simp only [Progress.takeLong, Scope.find?_valueOptions_verbose, Scope.find?_flags_verbose]
  exact Progress.takeFlag_eq_ok_iff.mpr ⟨rfl, q, hsettle, rfl⟩

theorem takeArgument_first
    (hscope : scope = .run ∧ p.trailing = true ∨ scope = .help ∧ p.given.arguments = [])
    (hpending : ∀ raws, p.pending ≠ some (.arguments raws)) (hsettle : p.settle = .ok q) :
    p.takeArgument scope word = .ok { q with pending := some (.arguments [word]) } := by
  obtain ⟨rfl, htrailing⟩ | ⟨rfl, harguments⟩ := hscope
  · rcases hp : p.pending with _ | ⟨option, raw⟩ | raws
    · simp only [Progress.takeArgument, htrailing, hp, hsettle]
      rfl
    · simp only [Progress.takeArgument, htrailing, hp, hsettle]
      rfl
    · exact absurd hp (hpending raws)
  · rcases hp : p.pending with _ | ⟨option, raw⟩ | raws
    · simp only [Progress.takeArgument, harguments, hp, hsettle]
      rfl
    · simp only [Progress.takeArgument, harguments, hp, hsettle]
      rfl
    · exact absurd hp (hpending raws)

theorem takeWord_of_reads (h : Reads scope p word p') (fallback : Bytes) :
    p.takeWord scope fallback word = .ok p' := by
  cases h with
  | doubleDash htrailing hword => rw [takeWord_of_options htrailing, hword]
  | attached htrailing hword hoption hsettle htake =>
    have hfind := Scope.find?_valueOptions_eq_some_iff.mpr ⟨hoption, rfl⟩
    simp only [takeWord_of_options htrailing, hword, Progress.takeLong, hfind, hsettle]
    simp only [bind, Except.bind, htake]
    rfl
  | apart htrailing hword hoption hsettle =>
    have hfind := Scope.find?_valueOptions_eq_some_iff.mpr ⟨hoption, rfl⟩
    simp only [takeWord_of_options htrailing, hword, Progress.takeLong, hfind, hsettle]
    rfl
  | verbose htrailing hword hsettle =>
    cases hword with
    | name hword =>
      rw [takeWord_of_options htrailing, hword]
      exact takeLong_verbose hsettle fallback
    | @letters n hword =>
      rw [takeWord_of_options htrailing, hword]
      refine (Progress.takeShort_eq_ok_iff (Token.ne_nil_of_ofWord_eq_short hword)).mpr ?_
      rw [List.length_replicate]
      exact ⟨rfl, _, hsettle, rfl⟩
  | value htrailing hword hpending => rw [takeWord_of_options htrailing, hword, hpending]
  | argument hscope hword hpending hsettle =>
    rw [takeWord_of_argument hword]
    exact takeArgument_first hscope hpending hsettle
  | further hscope htrailing hpending =>
    rw [takeWord_of_argument (.inl htrailing), hscope]
    simp only [Progress.takeArgument, htrailing, hpending]
    rfl

/-- A word is read without an error exactly in the ways in which a word is read. -/
theorem takeWord_eq_ok_iff :
    p.takeWord scope fallback word = .ok p' ↔ Reads scope p word p' :=
  ⟨reads_of_takeWord, fun h => takeWord_of_reads h fallback⟩

end

end ImageSwap.CommandLine
