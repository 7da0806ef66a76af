import ImageSwap.Proofs.Replacement
import ImageSwap.Run.Session

/-!
# The courses that a run can take

Apart from words to the log and on the error stream, a run does few things, in a fixed order, and it
can be stopped between any two of them. Each part of a run is described by how it can go: what it
yields, the deeds it does, and what becomes of the setting for a closed pipe.
-/

namespace ImageSwap.Run

open CommandLine (Invocation)

namespace Effect

/-- Whether an effect is more than a word to the log or on the error stream. -/
def isDeed : Effect → Bool
  | log _ | print .stderr _ => false
  | _ => true

/-- Whether an effect asks the system for a new image. -/
def isCall : Effect → Bool
  | execute .. => true
  | _ => false

/-- Whether an effect changes the process: its setting for a closed pipe, or its image. -/
def changesProcess : Effect → Bool
  | setSigpipe _ | execute .. => true
  | _ => false

/-- The record that an effect hands to the log. -/
def record? : Effect → Option Log.Record
  | log record => some record
  | _ => none

end Effect

/-- The effects in a list that are more than words. -/
def deeds (effects : List Effect) : List Effect := effects.filter Effect.isDeed

@[simp] theorem deeds_nil : deeds [] = [] := rfl

@[simp] theorem deeds_append (before after : List Effect) :
    deeds (before ++ after) = deeds before ++ deeds after := List.filter_append ..

/-- A record that the log asks for, or nothing, is no deed. -/
@[simp] theorem deeds_asked (filter : Log.Filter) (record : Log.Record) :
    deeds (asked filter record) = [] := by
  unfold asked
  split <;> rfl

theorem deeds_cons (effect : Effect) (effects : List Effect) :
    deeds (effect :: effects) = if effect.isDeed then effect :: deeds effects else deeds effects :=
  List.filter_cons

/-- No call for a new image is a mere word. -/
theorem filter_isCall_deeds (effects : List Effect) :
    (deeds effects).filter Effect.isCall = effects.filter Effect.isCall := by
  rw [deeds, List.filter_filter]
  refine List.filter_congr fun effect _ => ?_
  cases effect <;> rfl

/-- The records among effects. -/
def records (effects : List Effect) : List Log.Record := effects.filterMap Effect.record?

@[simp] theorem records_append (before after : List Effect) :
    records (before ++ after) = records before ++ records after := List.filterMap_append

namespace Act

variable {α : Type} (j : Journal)

@[simp] theorem runOn_log (level : Log.Level) (target message : String) :
    (log level target message).runOn j =
      (.ok (), { j with effects := j.effects ++ [.log ⟨level, target, message⟩] }) := rfl

variable {β : Type}

theorem runOn_log_bind (level : Log.Level) (target message : String) (next : Unit → Act α) :
    (log level target message >>= next).runOn j =
      (next ()).runOn { j with effects := j.effects ++ [.log ⟨level, target, message⟩] } := rfl

theorem runOn_logIfAsked_bind (level : Log.Level) (target : String) (message : Unit → String)
    (left : Errno) (next : Unit → Act α) :
    (logIfAsked level target message left >>= next).runOn j = (next ()).runOn
      { j with
        effects := j.effects ++ asked j.filter ⟨level, target, message ()⟩
        errno := if j.filter.asksFor level target then left else j.errno } := rfl

theorem runOn_ok_bind (a : α) (next : α → Act β) :
    (ofExcept (.ok a) >>= next).runOn j = (next a).runOn j := rfl

/-- Whoever runs a part of a run to its end goes on with what it yields, be that a failure. -/
theorem run_bind_run (act : Act α) (next : Except Failure α → StateM Journal β) :
    (act.run >>= next).run j = (next (act.runOn j).1).run (act.runOn j).2 := rfl

variable {j} {after : Journal}

theorem exists_runOn {act : Act α} {result : Except Failure α} (h : act.result j = result) :
    ∃ after, act.runOn j = (result, after) := ⟨_, Prod.ext h rfl⟩

/-- Two parts of a run in a row: the second goes on where the first has succeeded. -/
theorem runOn_bind_cases {act : Act α} {next : α → Act β} {result : Except Failure β}
    (h : (act >>= next).runOn j = (result, after)) :
    (∃ a between, act.runOn j = (.ok a, between) ∧ (next a).runOn between = (result, after)) ∨
      ∃ f, act.runOn j = (.error f, after) ∧ result = .error f := by
  rw [runOn_bind] at h
  rcases hact : act.runOn j with ⟨f | a, between⟩
  · rw [hact] at h
    cases h
    exact .inr ⟨f, rfl, rfl⟩
  · rw [hact] at h
    exact .inl ⟨a, between, rfl, h⟩

/-- A call of standard output is refused and fails, or is not refused and done. -/
theorem runOn_onStdout_cases {w : World} {effect : Effect} {result : Except Failure Unit}
    (h : (onStdout w effect).runOn j = (result, after)) :
    (∃ errno, w.refusal j.stdoutCalls = some errno ∧ result = .error (.io (.os errno)) ∧
      after = { j with stdoutCalls := j.stdoutCalls + 1 }) ∨
    (w.refusal j.stdoutCalls = none ∧ result = .ok () ∧
      after = { j with effects := j.effects ++ [effect], stdoutCalls := j.stdoutCalls + 1 }) := by
  cases hrefusal : w.refusal j.stdoutCalls with
  | some errno =>
    simp only [onStdout, runOn_bind, runOn_get, runOn_set, hrefusal, runOn_throw] at h
    cases h
    exact .inl ⟨errno, rfl, rfl, rfl⟩
  | none =>
    simp only [onStdout, runOn_bind, runOn_get, runOn_set, hrefusal, runOn_note] at h
    cases h
    exact .inr ⟨rfl, rfl, rfl⟩

end Act

/-- A text announces the process: for people it is a sentence with its number, for programs an
object with its number, that of its parent, and the time. Either is a line. -/
def Announces (w : World) : OutputFormat → String → Prop
  | .human, text => text = s!"My PID is {w.pid.raw}\n"
  | .json, text => text = (Json.obj [("pid", .int w.pid.raw), ("ppid", .int w.parent.raw),
      ("observed_at", .str w.now.text)]).compact ++ "\n"

theorem announces_banner (w : World) (format : OutputFormat) :
    Announces w format (format.banner w.report) := by
  cases format <;> rfl

/-- How a text fares that is written to standard output and passed on at once, after a number of
calls of standard output: what comes of it, and what is done. -/
inductive Delivery (w : World) (text : String) (calls : Nat) :
    Except Failure Unit → List Effect → Prop where
  | unwritten {errno : Errno} (h : w.refusal calls = some errno) :
    Delivery w text calls (.error (.io (.os errno))) []
  | unflushed {errno : Errno} (hwrite : w.refusal calls = none)
    (h : w.refusal (calls + 1) = some errno) :
    Delivery w text calls (.error (.io (.os errno))) [.print .stdout text]
  | done (hwrite : w.refusal calls = none) (hflush : w.refusal (calls + 1) = none) :
    Delivery w text calls (.ok ()) [.print .stdout text, .flush]

/-- How a call for a new image goes that finds a setting for a closed pipe and an error number: what
it yields, what is done, and the setting then. -/
inductive Replacing (w : World) (r : Request) (previous : Disposition) (left : Errno) :
    Except Failure Image → List Effect → Disposition → Prop where
  /-- The request is refused before the system is asked. -/
  | unfit {f : Failure} (h : r.rawArgv = .error f) :
    Replacing w r previous left (.error f) [] previous
  | found {argv : List Bytes} {image : Image} (hargv : r.rawArgv = .ok argv)
    (h : Exec.search w.fs w.searchPath left (Bytes.ofString r.program) argv = .ok image) :
    Replacing w r previous left (.ok image)
      [.setSigpipe .default, .execute (Bytes.ofString r.program) argv] .default
  | missed {argv : List Bytes} {errno : Errno} (hargv : r.rawArgv = .ok argv)
    (h : Exec.search w.fs w.searchPath left (Bytes.ofString r.program) argv = .error errno) :
    Replacing w r previous left (.error (.ofErrno r.program errno))
      [.setSigpipe .default, .execute (Bytes.ofString r.program) argv, .setSigpipe previous]
      previous

/-- What a command comes to that only reports, given what is configured. -/
inductive Reporting (w : World) (configured : Request) :
    CommandLine.Command → Except Failure Json → Prop where
  | pid : Reporting w configured .pid (.ok w.report.toJson)
  | resolve (program : Option String) :
    Reporting w configured (.resolve program)
      (Search.resolve w.fs (program.getD configured.program) w.searchPath).report
  | help (subcommand : Option String) :
    Reporting w configured (.help subcommand) (Guide.report subcommand)

/-- How the command of an invocation is carried out, from a number of calls of standard output and a
setting for a closed pipe on, whatever error number the process is left with: what it leads to, and
what is done. -/
inductive Course (w : World) (i : Invocation) (calls : Nat) (previous : Disposition) :
    Except Failure Success → List Effect → Prop where
  | unconfigured {f : Failure} (h : Config.load w.fs i.config = .error f) :
    Course w i calls previous (.error f) []
  | unannounced {configured : Request} {o : Overrides} {f : Failure} {made : List Effect}
    (hload : Config.load w.fs i.config = .ok configured) (hrun : i.command = .run o)
    (h : Delivery w (i.output.banner w.report) calls (.error f) made) :
    Course w i calls previous (.error f) made
  | announced {configured : Request} {o : Overrides} {result : Except Failure Image}
    {made : List Effect} {sigpipe : Disposition} {left : Errno}
    (hload : Config.load w.fs i.config = .ok configured) (hrun : i.command = .run o)
    (hwrite : w.refusal calls = none) (hflush : w.refusal (calls + 1) = none)
    (h : Replacing w (configured.override o) previous left result made sigpipe) :
    Course w i calls previous (result.map .replaced)
      (.print .stdout (i.output.banner w.report) :: .flush :: made)
  | unreported {configured : Request} {f : Failure}
    (hload : Config.load w.fs i.config = .ok configured)
    (h : Reporting w configured i.command (.error f)) : Course w i calls previous (.error f) []
  | reported {configured : Request} {value : Json}
    (hload : Config.load w.fs i.config = .ok configured)
    (h : Reporting w configured i.command (.ok value)) :
    Course w i calls previous (.ok (.result value)) []

/-- How a run ends that reports a failure, after a number of calls of standard output. -/
inductive Concluding (w : World) (format : OutputFormat) (f : Failure) (calls : Nat) :
    Outcome → List Effect → Prop where
  | told (hformat : format = .human) :
    Concluding w format f calls (.exited f.exitStatus)
      [.print .stderr (format.failure f.exitStatus f.message).2]
  | printed (hformat : format = .json) (h : w.refusal calls = none) :
    Concluding w format f calls (.exited f.exitStatus)
      [.print .stdout (format.failure f.exitStatus f.message).2]
  | silenced {errno : Errno} (hformat : format = .json) (h : w.refusal calls = some errno) :
    Concluding w format f calls .aborted []

section

variable {w : World} {i : Invocation} {j after : Journal}

theorem Reporting.ne_run {configured : Request} {command : CommandLine.Command}
    {result : Except Failure Json} (h : Reporting w configured command result) (o : Overrides) :
    command ≠ .run o := by
  cases h <;> nofun

theorem delivery_of_runOn {text : String} {result : Except Failure Unit}
    (h : (do Act.write w text; Act.flush w).runOn j = (result, after)) :
    ∃ made, after.effects = j.effects ++ made ∧ after.sigpipe = j.sigpipe ∧
      Delivery w text j.stdoutCalls result made := by
  obtain ⟨_, between, hwrite, hflush⟩ | ⟨f, hwrite, rfl⟩ := Act.runOn_bind_cases h
  · obtain ⟨errno, -, hresult, -⟩ | ⟨htaken, -, rfl⟩ := Act.runOn_onStdout_cases hwrite
    · cases hresult
    · obtain ⟨errno, hrefused, rfl, rfl⟩ | ⟨hpassed, rfl, rfl⟩ := Act.runOn_onStdout_cases hflush
      · exact ⟨_, rfl, rfl, .unflushed htaken hrefused⟩
      · exact ⟨_, List.append_assoc .., rfl, .done htaken hpassed⟩
  · obtain ⟨errno, hrefused, hresult, rfl⟩ | ⟨-, hresult, -⟩ := Act.runOn_onStdout_cases hwrite
    · cases hresult
      exact ⟨[], (List.append_nil _).symm, rfl, .unwritten hrefused⟩
    · cases hresult

theorem replacing_of_runOn {r : Request} {result : Except Failure Image}
    (h : (replaceImage w r).runOn j = (result, after)) :
    ∃ made, after.effects = j.effects ++ made ∧ after.stdoutCalls = j.stdoutCalls ∧
      Replacing w r j.sigpipe j.errno result (deeds made) after.sigpipe := by
  cases hargv : r.rawArgv with
  | error f =>
    simp only [replaceImage, hargv, Act.runOn_bind, Act.runOn_ofExcept] at h
    cases h
    exact ⟨[], (List.append_nil _).symm, rfl, .unfit hargv⟩
  | ok argv =>
    cases hsearch : Exec.search w.fs w.searchPath j.errno (Bytes.ofString r.program) argv with
    | ok image =>
      simp only [replaceImage, hargv, hsearch, Act.runOn_bind, Act.runOn_ofExcept, Act.runOn_log,
        Act.runOn_setSigpipe, Act.runOn_note, Act.runOn_call, Act.runOn_pure,
        List.append_assoc] at h
      cases h
      exact ⟨_, rfl, rfl, .found hargv hsearch⟩
    | error errno =>
      simp only [replaceImage, hargv, hsearch, Act.runOn_bind, Act.runOn_ofExcept, Act.runOn_log,
        Act.runOn_setSigpipe, Act.runOn_note, Act.runOn_call, Act.runOn_throw,
        List.append_assoc] at h
      cases h
      exact ⟨_, rfl, rfl, .missed hargv hsearch⟩

/-- The process is announced, after words about what is to come, and then its image is replaced. -/
theorem announced_of_runOn {format : OutputFormat} {r : Request} {result : Except Failure Image}
    (h : (execute w format r).runOn j = (result, after)) :
    (∃ f made, result = .error f ∧ deeds after.effects = deeds j.effects ++ made ∧
      Delivery w (format.banner w.report) j.stdoutCalls (.error f) made) ∨
    ∃ made left, w.refusal j.stdoutCalls = none ∧ w.refusal (j.stdoutCalls + 1) = none ∧
      deeds after.effects =
        deeds j.effects ++ .print .stdout (format.banner w.report) :: .flush :: made ∧
      Replacing w r j.sigpipe left result made after.sigpipe := by
  simp only [execute, Act.runOn_logIfAsked_bind, Act.runOn_log_bind] at h
  obtain ⟨_, between, hannounce, hreplace⟩ | ⟨f, hannounce, rfl⟩ := Act.runOn_bind_cases h
  · obtain ⟨made, heffects, hsigpipe, hdelivery⟩ := delivery_of_runOn hannounce
    obtain ⟨made', heffects', -, hreplacing⟩ := replacing_of_runOn hreplace
    cases hdelivery with
    | done hwrite hflush =>
      refine .inr ⟨deeds made', _, hwrite, hflush, ?_, hsigpipe ▸ hreplacing⟩
      simp [heffects', heffects, deeds_cons, Effect.isDeed]
  · obtain ⟨made, heffects, -, hdelivery⟩ := delivery_of_runOn hannounce
    refine .inl ⟨f, deeds made, rfl, ?_, ?_⟩
    · simp [heffects, deeds_cons, Effect.isDeed]
    · cases hdelivery with
      | unwritten hwrite => exact .unwritten hwrite
      | unflushed hwrite hflush => exact .unflushed hwrite hflush

/-- A command that only reports leaves the journal as it was. -/
theorem runOn_report (x : Except Failure Json) :
    (do let value ← Act.ofExcept x; return Success.result value : Act Success).runOn j =
      (x.map .result, j) := by
  cases x <;> simp [Except.map]

/-- A search comes to what is reported of it, and nothing is done. -/
theorem runOn_dispatch_resolve {program : Option String} {configured : Request} (j : Journal)
    (hcommand : i.command = .resolve program)
    (hload : Config.load w.fs i.config = .ok configured) :
    (dispatch w i).runOn j =
      ((Search.resolve w.fs (program.getD configured.program) w.searchPath).report.map .result,
        j) := by
  simp only [dispatch, hload, Act.runOn_ok_bind, hcommand]
  exact runOn_report _

theorem course_of_runOn {result : Except Failure Success}
    (h : (dispatch w i).runOn j = (result, after)) :
    ∃ made, deeds after.effects = deeds j.effects ++ made ∧
      Course w i j.stdoutCalls j.sigpipe result made := by
  cases hload : Config.load w.fs i.config with
  | error f =>
    simp only [dispatch, hload, Act.runOn_bind, Act.runOn_ofExcept] at h
    cases h
    exact ⟨[], (List.append_nil _).symm, .unconfigured hload⟩
  | ok configured =>
    simp only [dispatch, hload, Act.runOn_ok_bind] at h
    have hreport (x : Except Failure Json) (hx : Reporting w configured i.command x)
        (h : (x.map Success.result, j) = (result, after)) :
        ∃ made, deeds after.effects = deeds j.effects ++ made ∧
          Course w i j.stdoutCalls j.sigpipe result made := by
      cases h
      refine ⟨[], (List.append_nil _).symm, ?_⟩
      cases x with
      | error f => exact .unreported hload hx
      | ok value => exact .reported hload hx
    cases hcommand : i.command with
    | run o =>
      simp only [hcommand] at h
      obtain ⟨image, between, hexecute, hreturn⟩ | ⟨f, hexecute, rfl⟩ := Act.runOn_bind_cases h
      · cases hreturn
        obtain ⟨f, made, hf, -⟩ | ⟨made, left, hwrite, hflush, hmade, hreplacing⟩ :=
          announced_of_runOn hexecute
        · cases hf
        · exact ⟨_, hmade, .announced hload hcommand hwrite hflush hreplacing⟩
      · obtain ⟨g, made, hg, hmade, hdelivery⟩ | ⟨made, left, hwrite, hflush, hmade, hreplacing⟩ :=
          announced_of_runOn hexecute
        · cases hg
          exact ⟨_, hmade, .unannounced hload hcommand hdelivery⟩
        · exact ⟨_, hmade, .announced hload hcommand hwrite hflush hreplacing⟩
    | pid =>
      simp only [hcommand] at h
      exact hreport (.ok w.report.toJson) (by rw [hcommand]; exact .pid) h
    | resolve program =>
      simp only [hcommand] at h
      rw [runOn_report] at h
      exact hreport _ (by rw [hcommand]; exact .resolve program) h
    | help subcommand =>
      simp only [hcommand] at h
      rw [runOn_report] at h
      exact hreport _ (by rw [hcommand]; exact .help subcommand) h

/-- A failure is told on the error stream, or printed where standard output takes it. -/
theorem concluding_of_run {format : OutputFormat} {f : Failure} {outcome : Outcome}
    (h : (conclude w format f).run j = (outcome, after)) :
    ∃ made, after.effects = j.effects ++ made ∧
      Concluding w format f j.stdoutCalls outcome made := by
  rw [conclude, Act.run_bind_run] at h
  cases format with
  | human =>
    cases h
    exact ⟨_, rfl, .told rfl⟩
  | json =>
    rcases hreport : (report w .json f).runOn j with ⟨result, between⟩
    rw [hreport] at h
    obtain ⟨errno, hrefused, rfl, rfl⟩ | ⟨htaken, rfl, rfl⟩ := Act.runOn_onStdout_cases hreport
    · cases h
      exact ⟨[], (List.append_nil _).symm, .silenced rfl hrefused⟩
    · cases h
      exact ⟨_, rfl, .printed rfl htaken⟩

theorem run_carryOut (w : World) (i : Invocation) (j : Journal) :
    (carryOut w i).run j =
      match (dispatch w i).runOn j with
      | (.ok (.replaced image), j) => (.replaced image, j)
      | (.ok (.result value), j) =>
        match (emit w i.output value).runOn j with
        | (.ok (), j) => (.exited 0, j)
        | (.error f, j) => (conclude w i.output f).run j
      | (.error f, j) =>
        (conclude w i.output f).run { j with
          effects := j.effects ++ [.log ⟨.debug, "execve_test",
            s!"exiting with status {f.exitStatus}: {f.diagnostic}"⟩] } := by
  rw [carryOut, Act.run_bind_run]
  rcases (dispatch w i).runOn j with ⟨f | image | value, between⟩
  · rfl
  · rfl
  · simp only [Act.run_bind_run]
    rcases (emit w i.output value).runOn between with ⟨_ | _, _⟩ <;> rfl

end

/-- What a run has done when it begins to carry out its command: it has set up the log. -/
def opening (w : World) (i : Invocation) : Journal where
  effects := (setUpLog w i.verbosity).2
  errno := w.errno
  filter := (setUpLog w i.verbosity).1

@[simp] theorem deeds_opening (w : World) (i : Invocation) : deeds (opening w i).effects = [] := by
  simp [deeds, opening, setUpLog, List.filter_map, Function.comp_def, Effect.isDeed]

section

variable {w : World} {i : Invocation} {j after : Journal} {f : Failure} {value : Json}

/-- A run whose command line is understood carries out what that asks for. -/
theorem session_of_parse {words : List Bytes}
    (hparse : CommandLine.parse (w.value? CommandLine.configVariable) words = .ok i) :
    session w words = perform w i := by
  rw [session, hparse]

/-- A run ends as the carrying out of its command does. -/
theorem perform_of_run {outcome : Outcome}
    (h : (carryOut w i).run (opening w i) = (outcome, after)) :
    (perform w i).outcome = outcome ∧ (perform w i).effects = after.effects := by
  have hperform : perform w i =
      { outcome := ((carryOut w i).run (opening w i)).1
        effects := ((carryOut w i).run (opening w i)).2.effects
        filter := (setUpLog w i.verbosity).1 } := rfl
  rw [hperform, h]
  exact ⟨rfl, rfl⟩

theorem perform_of_replaced {image : Image}
    (h : (dispatch w i).runOn (opening w i) = (.ok (.replaced image), j)) :
    (perform w i).outcome = .replaced image ∧ (perform w i).effects = j.effects :=
  perform_of_run (by rw [run_carryOut, h])

theorem perform_of_emitted
    (h : (dispatch w i).runOn (opening w i) = (.ok (.result value), j))
    (hemit : (emit w i.output value).runOn j = (.ok (), after)) :
    (perform w i).outcome = .exited 0 ∧ (perform w i).effects = after.effects :=
  perform_of_run (by simp only [run_carryOut, h, hemit])

/-- A run that has nothing left to do but to report a failure ends as the report does. -/
theorem concluding_of_perform
    (h : (carryOut w i).run (opening w i) = (conclude w i.output f).run j) :
    ∃ made, (perform w i).effects = j.effects ++ made ∧
      Concluding w i.output f j.stdoutCalls (perform w i).outcome made := by
  rcases hrun : (conclude w i.output f).run j with ⟨outcome, last⟩
  obtain ⟨made, hmade, hconcluding⟩ := concluding_of_run hrun
  obtain ⟨houtcome, heffects⟩ := perform_of_run (h.trans hrun)
  exact ⟨made, heffects.trans hmade, houtcome ▸ hconcluding⟩

theorem perform_of_unemitted
    (h : (dispatch w i).runOn (opening w i) = (.ok (.result value), j))
    (hemit : (emit w i.output value).runOn j = (.error f, after)) :
    ∃ made, (perform w i).effects = after.effects ++ made ∧
      Concluding w i.output f after.stdoutCalls (perform w i).outcome made :=
  concluding_of_perform (by simp only [run_carryOut, h, hemit])

theorem perform_of_failed (h : (dispatch w i).runOn (opening w i) = (.error f, j)) :
    ∃ record made, (perform w i).effects = j.effects ++ .log record :: made ∧
      Concluding w i.output f j.stdoutCalls (perform w i).outcome made := by
  obtain ⟨made, hmade, hconcluding⟩ := concluding_of_perform (w := w) (i := i) (f := f)
    (by simp only [run_carryOut, h]; rfl)
  rw [List.append_assoc, List.singleton_append] at hmade
  exact ⟨_, made, hmade, hconcluding⟩

end

end ImageSwap.Run
