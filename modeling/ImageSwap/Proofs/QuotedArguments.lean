import ImageSwap.Proofs.Courses
import ImageSwap.Proofs.JsonScalars

/-!
# Arguments in the log

A list of texts is quoted so that the quoted form tells the list: every character has a form of its
own, no form begins with the quote that ends a text, and what stands after a text tells whether
another one follows. No form holds a control character, so a record that quotes arguments is one line
whatever they are.
-/

namespace ImageSwap

namespace Text

variable {c d : Char} {cs ds rest rest' : List Char} {ss ts : List String} {n : Nat}

/-! ## Numbers in base sixteen -/

theorem exists_digitChar_of_mem_hexDigits (h : c ∈ hexDigits n) :
    ∃ digit < 16, c = Nat.digitChar digit := by
  unfold hexDigits at h
  induction n using Nat.strongRecOn with
  | ind n ih =>
    by_cases hsmall : n < 16
    · rw [Nat.toDigits_of_lt_base hsmall, List.mem_singleton] at h
      exact ⟨n, hsmall, h⟩
    · rw [Nat.toDigits_of_base_le (by decide) (by omega), List.mem_append,
        List.mem_singleton] at h
      rcases h with h | h
      · exact ih (n / 16) (by omega) h
      · exact ⟨n % 16, Nat.mod_lt n (by decide), h⟩

theorem numberOfHex?_append_digit {m digit : Nat} (h : numberOfHex? cs = some m)
    (hdigit : digit < 16) :
    numberOfHex? (cs ++ [Nat.digitChar digit]) = some (m * 16 + digit) := by
  have hvalue : ∀ digit < 16, hexValue? (Nat.digitChar digit) = some digit := by decide
  obtain ⟨values, hvalues, hm⟩ := Option.bind_eq_some_iff.mp h
  cases hm
  simp [numberOfHex?, hvalues, hvalue digit hdigit]

/-- The digits of a number spell it. -/
theorem numberOfHex?_hexDigits (n : Nat) : numberOfHex? (hexDigits n) = some n := by
  unfold hexDigits
  induction n using Nat.strongRecOn with
  | ind n ih =>
    by_cases hsmall : n < 16
    · have hnone : numberOfHex? [] = some 0 := rfl
      have hread := numberOfHex?_append_digit hnone hsmall
      rw [Nat.toDigits_of_lt_base hsmall]
      simpa using hread
    · have hread := numberOfHex?_append_digit (ih (n / 16) (by omega))
        (Nat.mod_lt n (by decide : 16 > 0))
      rw [Nat.div_add_mod'] at hread
      rw [Nat.toDigits_of_base_le (by decide) (by omega)]
      exact hread

theorem charOfHex?_hexDigits (c : Char) : charOfHex? (hexDigits c.toNat) = some c := by
  have hvalid : c.toNat.isValidChar := c.valid
  simp [charOfHex?, numberOfHex?_hexDigits, hvalid]

/-! ## Telling quoted texts apart -/

/-- The characters that are quoted by a backslash and a letter, each behind its letter. -/
def letterEscapes : List (Char × Char) :=
  [('"', '"'), ('\\', '\\'), ('n', '\n'), ('r', '\r'), ('t', '\t'), ('0', '\x00')]

/-- The character whose form a quoted text begins with, and what stands behind the form. The quote
that ends a text begins no form. -/
def takeQuoted? : List Char → Option (Char × List Char)
  | [] | '"' :: _ => none
  | '\\' :: 'u' :: '\x7b' :: rest =>
    (charOfHex? (rest.takeWhile (· ≠ '\x7d'))).map fun c =>
      (c, (rest.dropWhile (· ≠ '\x7d')).tail)
  | '\\' :: letter :: rest => (letterEscapes.lookup letter).map fun c => (c, rest)
  | c :: rest => some (c, rest)

theorem takeQuoted?_plain (hquote : c ≠ '"') (hbackslash : c ≠ '\\') :
    takeQuoted? (c :: rest) = some (c, rest) := by
  rw [takeQuoted?]
  all_goals simp [hquote, hbackslash]

theorem takeQuoted?_braces (c : Char) (rest : List Char) :
    takeQuoted? ('\\' :: 'u' :: '\x7b' :: (hexDigits c.toNat ++ '\x7d' :: rest)) =
      some (c, rest) := by
  have hdigits : ∀ digit < 16, Nat.digitChar digit ≠ '\x7d' := by decide
  have hbrace : ∀ d ∈ hexDigits c.toNat, decide (d ≠ '\x7d') = true := by
    intro d hd
    obtain ⟨digit, hlt, rfl⟩ := exists_digitChar_of_mem_hexDigits hd
    exact decide_eq_true (hdigits digit hlt)
  rw [takeQuoted?, List.takeWhile_append_of_pos hbrace, List.dropWhile_append_of_pos hbrace]
  simp [charOfHex?_hexDigits]

/-- The form of a character tells the character and where it ends. -/
theorem takeQuoted?_quoteChar (c : Char) (rest : List Char) :
    takeQuoted? (quoteChar c ++ rest) = some (c, rest) := by
  unfold quoteChar
  split
  case h_7 hquote hbackslash _ _ _ _ =>
    split
    · exact takeQuoted?_plain hquote hbackslash
    · simpa using takeQuoted?_braces c rest
  all_goals rfl

/-- Texts are told by their forms up to the quote that ends them. -/
theorem flatMap_quoteChar_inj
    (h : cs.flatMap quoteChar ++ '"' :: rest = ds.flatMap quoteChar ++ '"' :: rest') :
    cs = ds ∧ rest = rest' := by
  induction cs generalizing ds with
  | nil =>
    cases ds with
    | nil => simpa using h
    | cons d ds =>
      have hread := congrArg takeQuoted? h
      rw [List.flatMap_cons, List.append_assoc, takeQuoted?_quoteChar] at hread
      cases hread
  | cons c cs ih =>
    have hread := congrArg takeQuoted? h
    rw [List.flatMap_cons, List.append_assoc, takeQuoted?_quoteChar] at hread
    cases ds with
    | nil => cases hread
    | cons d ds =>
      rw [List.flatMap_cons, List.append_assoc, takeQuoted?_quoteChar, Option.some.injEq,
        Prod.mk.injEq] at hread
      obtain ⟨rfl, hmore⟩ := hread
      obtain ⟨rfl, hrest⟩ := ih hmore
      exact ⟨rfl, hrest⟩

theorem quoteChars_append_inj (h : quoteChars cs ++ rest = quoteChars ds ++ rest') :
    cs = ds ∧ rest = rest' := by
  apply flatMap_quoteChar_inj
  simpa [quoteChars] using h

/-- The quoted texts of a list that follow the first, with the bracket that closes it. -/
def quotedRest : List String → List Char
  | [] => [']']
  | s :: ss => ',' :: ' ' :: quoteChars s.toList ++ quotedRest ss

theorem toList_quoteList_cons (s : String) (ss : List String) :
    (quoteList (s :: ss)).toList = '[' :: quoteChars s.toList ++ quotedRest ss := by
  induction ss generalizing s with
  | nil => simp [quoteList, quotedRest, quote]
  | cons t ss ih =>
    have hmore := ih t
    simp only [quoteList, List.map_cons, String.toList_append, String.intercalate_cons_cons,
      quote, String.toList_ofList] at hmore ⊢
    simp_all [quotedRest]

theorem quotedRest_injective : Function.Injective quotedRest := by
  intro ss ts h
  induction ss generalizing ts with
  | nil =>
    cases ts with
    | nil => rfl
    | cons t ts => simp [quotedRest] at h
  | cons s ss ih =>
    cases ts with
    | nil => simp [quotedRest] at h
    | cons t ts =>
      simp only [quotedRest, List.cons_append, List.cons.injEq, true_and] at h
      obtain ⟨hfirst, hmore⟩ := quoteChars_append_inj h
      rw [String.toList_injective hfirst, ih hmore]

/-- The quoted form of a list that is not empty tells the list. -/
theorem quoteList_cons_inj {s t : String} (h : quoteList (s :: ss) = quoteList (t :: ts)) :
    s :: ss = t :: ts := by
  have hchars := congrArg String.toList h
  simp only [toList_quoteList_cons, List.cons_append, List.cons.injEq, true_and] at hchars
  obtain ⟨hfirst, hmore⟩ := quoteChars_append_inj hchars
  rw [String.toList_injective hfirst, quotedRest_injective hmore]

/-! ## No controls -/

theorem isControl_eq_false_of_all (hall : cs.all (!isControl ·) = true) (h : d ∈ cs) :
    isControl d = false := by
  simpa using List.all_eq_true.mp hall d h

theorem isControl_eq_false_of_mem_quoteChar (h : d ∈ quoteChar c) : isControl d = false := by
  unfold quoteChar at h
  split at h
  case h_7 =>
    split at h
    · next hprints =>
      rw [List.mem_singleton] at h
      exact h ▸ isControl_eq_false_of_isPrintable hprints
    · have hdigits : ∀ digit < 16, isControl (Nat.digitChar digit) = false := by decide
      rw [List.mem_append, List.mem_append] at h
      rcases h with (h | h) | h
      · exact isControl_eq_false_of_all (by decide) h
      · obtain ⟨digit, hlt, rfl⟩ := exists_digitChar_of_mem_hexDigits h
        exact hdigits digit hlt
      · exact isControl_eq_false_of_all (by decide) h
  all_goals exact isControl_eq_false_of_all (by decide) h

theorem isControl_eq_false_of_mem_quoteChars (h : d ∈ quoteChars cs) : isControl d = false := by
  rw [quoteChars, List.mem_append, List.mem_cons, List.mem_singleton] at h
  rcases h with (rfl | h) | rfl
  · rfl
  · obtain ⟨c, -, hd⟩ := List.mem_flatMap.mp h
    exact isControl_eq_false_of_mem_quoteChar hd
  · rfl

theorem isControl_eq_false_of_mem_quotedRest (h : d ∈ quotedRest ss) : isControl d = false := by
  induction ss with
  | nil =>
    rw [quotedRest, List.mem_singleton] at h
    subst h
    rfl
  | cons s ss ih =>
    rw [quotedRest, List.mem_append, List.mem_cons, List.mem_cons] at h
    rcases h with (rfl | rfl | h) | h
    · rfl
    · rfl
    · exact isControl_eq_false_of_mem_quoteChars h
    · exact ih h

/-- The quoted form of a list holds no control character. -/
theorem isControl_eq_false_of_mem_quoteList {s : String} (h : d ∈ (quoteList (s :: ss)).toList) :
    isControl d = false := by
  rw [toList_quoteList_cons, List.mem_append, List.mem_cons] at h
  rcases h with (rfl | h) | h
  · rfl
  · exact isControl_eq_false_of_mem_quoteChars h
  · exact isControl_eq_false_of_mem_quotedRest h

end Text

namespace Run

open Text (isControl quote quoteList)

variable {w : World} {r : Request}

/-- The record that tells what the image is about to be replaced by. -/
def announcementRecord (w : World) (r : Request) : Log.Record where
  level := .info
  target := runTarget
  message :=
    s!"pid {w.pid.text} (parent {w.parent.text}), replacing image with {quoteList r.argv}"

/-- The record of a call for a new image. -/
def callRecord (r : Request) : Log.Record where
  level := .debug
  target := "execve_test::exec"
  message := s!"execvp {quote r.program} argv={quoteList r.argv}"

/-- The records of a level among effects. -/
def recordsAt (level : Log.Level) (effects : List Effect) : List Log.Record :=
  (records effects).filter (·.level = level)

/-- A record that holds no control character in its message, and is shown on one line. -/
structure OnOneLine (record : Log.Record) : Prop where
  message : ∀ c ∈ record.message.toList, isControl c = false
  text : ∀ time, ∃ line, record.text time = line ++ "\n" ∧ '\n' ∉ line.toList

@[simp] theorem recordsAt_append (level : Log.Level) (before after : List Effect) :
    recordsAt level (before ++ after) = recordsAt level before ++ recordsAt level after := by
  rw [recordsAt, records_append, List.filter_append, recordsAt, recordsAt]

/-- A call for a new image logs the call first of all, if the system can take the request, and
nothing at the level of the announcement. -/
theorem records_of_replaceImage (w : World) (r : Request) (j : Journal) :
    ∃ made, ((replaceImage w r).runOn j).2.effects = j.effects ++ made ∧
      recordsAt .info made = [] ∧ (r.Fit → ∃ after, made = .log (callRecord r) :: after) := by
  by_cases hfit : r.Fit
  · have hargv := Request.rawArgv_of_fit hfit
    cases hsearch : Exec.search w.fs w.searchPath j.errno (Bytes.ofString r.program)
        (r.argv.map Bytes.ofString) with
    | ok image =>
      refine ⟨[.log (callRecord r), .setSigpipe .default,
        .execute (Bytes.ofString r.program) (r.argv.map Bytes.ofString)], ?_, rfl, fun _ => ⟨_, rfl⟩⟩
      simp [replaceImage, hargv, hsearch, callRecord]
    | error errno =>
      refine ⟨[.log (callRecord r), .setSigpipe .default,
        .execute (Bytes.ofString r.program) (r.argv.map Bytes.ofString),
        .log ⟨.debug, "execve_test::exec", s!"execvp {quote r.program} returned {errno.label}"⟩,
        .setSigpipe j.sigpipe], ?_, rfl, fun _ => ⟨_, rfl⟩⟩
      simp [replaceImage, hargv, hsearch, callRecord]
  · obtain ⟨argument, reason, hargv⟩ := Request.rawArgv_of_not_fit hfit
    refine ⟨[], ?_, rfl, fun h => absurd h hfit⟩
    simp [replaceImage, hargv]

theorem Delivery.recordsAt_eq_nil {text : String} {calls : Nat} {result : Except Failure Unit}
    {made : List Effect} (h : Delivery w text calls result made) (level : Log.Level) :
    recordsAt level made = [] := by
  cases h <;> rfl

/-- A run whose image is to be replaced says so in the log, once. -/
theorem records_of_execute (w : World) (format : OutputFormat) (r : Request) (j : Journal) :
    ∃ made, ((execute w format r).runOn j).2.effects = j.effects ++ made ∧
      recordsAt .info made = [announcementRecord w r] := by
  let words := asked j.filter ⟨.debug, runTarget, lookupMessage w r⟩ ++
    [.log (announcementRecord w r)]
  have hwords : recordsAt .info words = [announcementRecord w r] := by
    rw [recordsAt_append, asked]
    split <;> rfl
  have hexecute : (execute w format r).runOn j = (do announce w format; replaceImage w r).runOn
      { j with effects := j.effects ++ words, errno := w.callErrno j.filter j.errno } := by
    simp only [execute, Act.runOn_logIfAsked_bind, Act.runOn_log_bind, List.append_assoc]
    rfl
  rcases hrun : (execute w format r).runOn j with ⟨result, after⟩
  rw [hexecute] at hrun
  obtain ⟨_, between, hannounce, hreplace⟩ | ⟨f, hannounce, -⟩ := Act.runOn_bind_cases hrun
  · obtain ⟨made, hmade, -, hdelivery⟩ := delivery_of_runOn hannounce
    obtain ⟨called, hcalled, hnone, -⟩ := records_of_replaceImage w r between
    rw [hreplace] at hcalled
    refine ⟨words ++ made ++ called, ?_, ?_⟩
    · calc after.effects = between.effects ++ called := hcalled
        _ = j.effects ++ words ++ made ++ called := by rw [hmade]
        _ = j.effects ++ (words ++ made ++ called) := by simp only [List.append_assoc]
    · simp [hwords, hdelivery.recordsAt_eq_nil, hnone]
  · obtain ⟨made, hmade, -, hdelivery⟩ := delivery_of_runOn hannounce
    refine ⟨words ++ made, ?_, ?_⟩
    · simp only [hmade, List.append_assoc]
    · simp [hwords, hdelivery.recordsAt_eq_nil]

/-! ## One line for a record -/

theorem isControl_eq_false_of_mem_toString {n : Int} {c : Char} (h : c ∈ (toString n).toList) :
    isControl c = false := by
  have hdigit (n : Nat) (h : c ∈ Nat.toDigits 10 n) : isControl c = false := by
    have hc := Json.isDigit_of_mem_toDigits c h
    simp only [Char.isDigit_iff_toNat] at hc
    change 48 ≤ c.toNat ∧ c.toNat ≤ 57 at hc
    simp only [isControl, Bool.or_eq_false_iff, Bool.and_eq_false_iff, decide_eq_false_iff_not]
    omega
  cases n with
  | ofNat n => exact hdigit n (Nat.toList_repr ▸ h)
  | negSucc n =>
    rw [Json.toList_toString_negSucc, List.mem_cons] at h
    rcases h with rfl | h
    · rfl
    · exact hdigit _ h

theorem onOneLine_of_message {record : Log.Record} (htarget : '\n' ∉ record.target.toList)
    (hmessage : ∀ c ∈ record.message.toList, isControl c = false) : OnOneLine record := by
  refine ⟨hmessage, fun time => Log.Record.text_eq_line htarget ?_ time⟩
  intro hnewline
  cases hmessage '\n' hnewline

theorem onOneLine_announcementRecord (w : World) (r : Request) :
    OnOneLine (announcementRecord w r) := by
  have hmessage : (announcementRecord w r).message =
      "pid " ++ w.pid.text ++ " (parent " ++ w.parent.text ++ "), replacing image with " ++
        quoteList r.argv := rfl
  refine onOneLine_of_message (show '\n' ∉ "execve_test::run".toList by decide) ?_
  intro c hc
  simp only [hmessage, String.toList_append, List.mem_append] at hc
  rcases hc with ((((hc | hc) | hc) | hc) | hc) | hc
  · exact Text.isControl_eq_false_of_all (by decide) hc
  · exact isControl_eq_false_of_mem_toString hc
  · exact Text.isControl_eq_false_of_all (by decide) hc
  · exact isControl_eq_false_of_mem_toString hc
  · exact Text.isControl_eq_false_of_all (by decide) hc
  · exact Text.isControl_eq_false_of_mem_quoteList hc

theorem onOneLine_callRecord (r : Request) : OnOneLine (callRecord r) := by
  have hmessage : (callRecord r).message =
      "execvp " ++ quote r.program ++ " argv=" ++ quoteList r.argv := rfl
  refine onOneLine_of_message (show '\n' ∉ "execve_test::exec".toList by decide) ?_
  intro c hc
  simp only [hmessage, quote, String.toList_append, String.toList_ofList, List.mem_append] at hc
  rcases hc with ((hc | hc) | hc) | hc
  · exact Text.isControl_eq_false_of_all (by decide) hc
  · exact Text.isControl_eq_false_of_mem_quoteChars hc
  · exact Text.isControl_eq_false_of_all (by decide) hc
  · exact Text.isControl_eq_false_of_mem_quoteList hc

/-! ## What the log tells -/

/-- The record of a call tells the program and the arguments. -/
theorem argv_eq_of_callRecord {r' : Request} (h : (callRecord r).message = (callRecord r').message) :
    r.argv = r'.argv := by
  have hmessage (r : Request) : (callRecord r).message.toList =
      "execvp ".toList ++ (Text.quoteChars r.program.toList ++
        (" argv=".toList ++ (quoteList r.argv).toList)) := by
    change ("execvp " ++ quote r.program ++ " argv=" ++ quoteList r.argv).toList = _
    simp [quote]
  have hchars := congrArg String.toList h
  rw [hmessage, hmessage] at hchars
  obtain ⟨-, hargs⟩ := Text.quoteChars_append_inj (List.append_cancel_left hchars)
  exact Text.quoteList_cons_inj (String.toList_injective (List.append_cancel_left hargs))

/-- What the log tells of the arguments of a request cannot be taken for anything else. A run whose
image is to be replaced says so in one record, and a call that the system can take begins with a
record of it. Requests whose arguments are quoted alike in either record have the same arguments,
and each record is one line without control characters. -/
theorem argv_eq_of_logged :
    (∀ w format r j, ∃ made, ((execute w format r).runOn j).2.effects = j.effects ++ made ∧
      recordsAt .info made = [announcementRecord w r]) ∧
    (∀ w r j, r.Fit → ∃ after,
      ((replaceImage w r).runOn j).2.effects = j.effects ++ .log (callRecord r) :: after) ∧
    (∀ r r' : Request, quoteList r.argv = quoteList r'.argv → r.argv = r'.argv) ∧
    (∀ r r', (callRecord r).message = (callRecord r').message → r.argv = r'.argv) ∧
    ∀ w r, OnOneLine (announcementRecord w r) ∧ OnOneLine (callRecord r) := by
  refine ⟨records_of_execute, fun w r j hfit => ?_, fun r r' h => ?_, fun r r' h => ?_,
    fun w r => ⟨onOneLine_announcementRecord w r, onOneLine_callRecord r⟩⟩
  · obtain ⟨made, hmade, -, hcall⟩ := records_of_replaceImage w r j
    obtain ⟨after, rfl⟩ := hcall hfit
    exact ⟨after, hmade⟩
  · exact Text.quoteList_cons_inj h
  · exact argv_eq_of_callRecord h

end Run

end ImageSwap
