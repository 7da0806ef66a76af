import ImageSwap.Proofs.Courses

/-!
# The steps of a run

What a run does depends on its world, on the calls of standard output before, and on the setting for
a closed pipe that it finds. The log has hardly a part in it. A record that is made on demand is
left out when the log does not ask for its like, and making it may change the error number with
which a call answers that tries nothing. So every part of a run has a row of steps that stands
before anything is known of the log, as long as that number makes no difference.
-/

namespace ImageSwap.Run

open CommandLine (Invocation)

/-- A step of a run: an effect, or a record that is handed to the log if that asks for its like. -/
inductive Step where
  | always (effect : Effect)
  | onDemand (record : Log.Record)

namespace Step

/-- The effects of a step with a log. -/
def effects (filter : Log.Filter) : Step → List Effect
  | always effect => [effect]
  | onDemand record => asked filter record

end Step

/-- The effects of steps with a log. -/
def taken (filter : Log.Filter) (steps : List Step) : List Effect :=
  steps.flatMap (Step.effects filter)

@[simp] theorem taken_nil (filter : Log.Filter) : taken filter [] = [] := rfl

theorem taken_cons (filter : Log.Filter) (step : Step) (steps : List Step) :
    taken filter (step :: steps) = step.effects filter ++ taken filter steps :=
  List.flatMap_cons

@[simp] theorem taken_append (filter : Log.Filter) (before after : List Step) :
    taken filter (before ++ after) = taken filter before ++ taken filter after :=
  List.flatMap_append

/-- A condition on what a journal holds beside the effects, the calls of standard output and the
setting for a closed pipe: the log, and the error number that the process was left with. -/
abbrev Condition := Log.Filter → Errno → Prop

/-- The condition that always holds. -/
def anyhow : Condition := fun _ _ => True

/-- Where a condition holds, a part of a run takes steps that depend on the calls of standard output
and on the setting for a closed pipe before it, and neither on the effects before it nor on the log.
Where it ends, another condition holds. -/
def Scripted {α : Type} (P : Condition) (part : StateM Journal α) (Q : α → Condition) : Prop :=
  ∀ calls sigpipe, ∃ result steps calls' sigpipe', ∀ effects errno filter, P filter errno →
    ∃ errno', Q result filter errno' ∧
      part.run ⟨effects, calls, sigpipe, errno, filter⟩ =
        (result, ⟨effects ++ taken filter steps, calls', sigpipe', errno', filter⟩)

section

variable {α β : Type} {P : Condition}

theorem scripted_return {Q : α → Condition} (a : α)
    (h : ∀ filter errno, P filter errno → Q a filter errno) : Scripted P (pure a) Q :=
  fun calls sigpipe => ⟨a, [], calls, sigpipe, fun effects errno filter hP =>
    ⟨errno, h filter errno hP, by simp [StateT.run_pure]; rfl⟩⟩

/-- Two parts in a row take the steps of the one and then of the other. -/
theorem Scripted.andThen {part : StateM Journal α} {next : α → StateM Journal β}
    {Q : α → Condition} {R : β → Condition} (hpart : Scripted P part Q)
    (hnext : ∀ a, Scripted (Q a) (next a) R) : Scripted P (part >>= next) R := by
  intro calls sigpipe
  obtain ⟨a, steps, calls', sigpipe', h⟩ := hpart calls sigpipe
  obtain ⟨b, steps', calls'', sigpipe'', h'⟩ := hnext a calls' sigpipe'
  refine ⟨b, steps ++ steps', calls'', sigpipe'', fun effects errno filter hP => ?_⟩
  obtain ⟨between, hQ, hrun⟩ := h effects errno filter hP
  obtain ⟨last, hR, hrun'⟩ := h' (effects ++ taken filter steps) between filter hQ
  have hbind (j : Journal) : (part >>= next).run j = (next (part.run j).1).run (part.run j).2 := rfl
  refine ⟨last, hR, ?_⟩
  rw [hbind, hrun]
  simp only [hrun', taken_append, List.append_assoc]

end

namespace Act

variable {α β γ : Type} {P Q R : Condition}

/-- What holds after a part of a run that may fail, where nothing is asked of a failure. -/
def afterwards (Q : Condition) : Except Failure α → Condition
  | .ok _ => Q
  | .error _ => anyhow

/-- A part of a run that may fail takes steps that do not depend on the log. -/
def Scripted (P : Condition) (act : Act α) (Q : Condition) : Prop :=
  Run.Scripted P act.run (afterwards Q)

theorem scripted_ofExcept (x : Except Failure α) : Scripted P (ofExcept x) P :=
  scripted_return x fun _ _ hP => by
    cases x with
    | ok => exact hP
    | error => trivial

theorem scripted_throw (f : Failure) : Scripted P (throw f : Act α) Q :=
  scripted_return (Except.error f : Except Failure α) fun _ _ _ => trivial

theorem scripted_pure (a : α) : Scripted P (pure a) P :=
  scripted_return (Except.ok a : Except Failure α) fun _ _ hP => hP

theorem scripted_note (effect : Effect) : Scripted P (note effect) P := fun calls sigpipe =>
  ⟨.ok (), [.always effect], calls, sigpipe, fun _ errno _ hP => ⟨errno, hP, rfl⟩⟩

theorem scripted_log (level : Log.Level) (target message : String) :
    Scripted P (log level target message) P := scripted_note _

/-- A record that is made on demand leaves another error number where it is made. -/
theorem scripted_logIfAsked (level : Log.Level) (target : String) (message : Unit → String)
    (left : Errno) :
    Scripted (fun filter errno => P filter (if filter.asksFor level target then left else errno))
      (logIfAsked level target message left) P := by
  intro calls sigpipe
  refine ⟨.ok (), [.onDemand ⟨level, target, message ()⟩], calls, sigpipe,
    fun effects errno filter hP => ⟨_, hP, ?_⟩⟩
  rw [taken, List.flatMap_singleton]
  rfl

theorem scripted_setSigpipe (disposition : Disposition) :
    Scripted P (setSigpipe disposition) P := fun calls sigpipe =>
  ⟨.ok sigpipe, [.always (.setSigpipe disposition)], calls, disposition,
    fun _ errno _ hP => ⟨errno, hP, rfl⟩⟩

/-- A call of the system is a step that does not show, if it answers the same whatever error number
there can be. -/
theorem scripted_call {answer : Errno → Except Errno α}
    (h : ∀ filter errno filter' errno', P filter errno → P filter' errno' →
      answer errno = answer errno') : Scripted P (call answer) anyhow := by
  intro calls sigpipe
  by_cases hpossible : ∃ filter errno, P filter errno
  · obtain ⟨filter, errno, hP⟩ := hpossible
    refine ⟨.ok (answer errno), [], calls, sigpipe, fun effects errno' filter' hP' => ?_⟩
    rw [h filter errno filter' errno' hP hP', taken_nil, List.append_nil]
    exact ⟨_, trivial, runOn_call ⟨effects, calls, sigpipe, errno', filter'⟩ answer⟩
  · exact ⟨.ok (answer ⟨0⟩), [], calls, sigpipe, fun _ errno filter hP =>
      absurd ⟨filter, errno, hP⟩ hpossible⟩

/-- Standard output refuses a call or not by the number of calls before. -/
theorem scripted_onStdout (w : World) (effect : Effect) : Scripted P (onStdout w effect) P := by
  intro calls sigpipe
  cases hrefusal : w.refusal calls with
  | some errno =>
    refine ⟨.error (.io (.os errno)), [], calls + 1, sigpipe, fun effects left filter hP =>
      ⟨left, trivial, ?_⟩⟩
    change (onStdout w effect).runOn _ = _
    simp [onStdout, hrefusal]
  | none =>
    refine ⟨.ok (), [.always effect], calls + 1, sigpipe, fun effects left filter hP =>
      ⟨left, hP, ?_⟩⟩
    change (onStdout w effect).runOn _ = _
    simp [onStdout, hrefusal, taken, Step.effects]

/-- Nothing needs to hold after a part of a run. -/
theorem Scripted.forget {act : Act α} (h : Scripted P act Q) : Scripted P act anyhow := by
  intro calls sigpipe
  obtain ⟨result, steps, calls', sigpipe', hrun⟩ := h calls sigpipe
  refine ⟨result, steps, calls', sigpipe', fun effects errno filter hP => ?_⟩
  obtain ⟨errno', -, hrun⟩ := hrun effects errno filter hP
  exact ⟨errno', by cases result <;> trivial, hrun⟩

/-- The second of two parts is left out when the first fails. -/
theorem Scripted.bind {act : Act α} {next : α → Act β} (hact : Scripted P act Q)
    (hnext : ∀ a, Scripted Q (next a) R) : Scripted P (act >>= next) R := by
  rw [Scripted, ExceptT.run_bind]
  refine hact.andThen fun result => ?_
  cases result with
  | error f => exact scripted_return (Except.error f) fun _ _ _ => trivial
  | ok a => exact hnext a

/-- What follows a result stands where there is one. -/
theorem scripted_ofExcept_bind {x : Except Failure α} {next : α → Act β}
    (h : ∀ a, x = .ok a → Scripted P (next a) Q) : Scripted P (ofExcept x >>= next) Q := by
  cases x with
  | error f => exact scripted_throw f
  | ok a => exact h a rfl

end Act

/-- Whichever of two error numbers the call of a run for a new image finds, if the run makes one, it
comes to the same: the numbers are the same, or the call has something to try. -/
def SameCall (w : World) (i : Invocation) (e e' : Errno) : Prop :=
  ∀ o configured, i.command = .run o → Config.load w.fs i.config = .ok configured →
    (configured.override o).Fit →
    Exec.TriesNothing w.searchPath (Bytes.ofString (configured.override o).program) → e = e'

section

open Act

variable (w : World) {P : Condition} {e e' : Errno}

theorem scripted_deliver (text : String) :
    Act.Scripted P (do Act.write w text; Act.flush w) P :=
  (scripted_onStdout w _).bind fun _ => scripted_onStdout w _

/-- The process was left with one of two error numbers. -/
def leftWith (e e' : Errno) : Condition := fun _ errno => errno = e ∨ errno = e'

/-- A call for a new image would find one of two error numbers. -/
def callFinds (e e' : Errno) : Condition := fun filter errno =>
  w.callErrno filter errno = e ∨ w.callErrno filter errno = e'

theorem scripted_replaceImage {r : Request}
    (h : r.Fit → Exec.TriesNothing w.searchPath (Bytes.ofString r.program) → e = e') :
    Act.Scripted (leftWith e e') (replaceImage w r) anyhow := by
  refine scripted_ofExcept_bind fun argv hargv => ?_
  have hfit : r.Fit := by
    by_contra hunfit
    obtain ⟨argument, reason, hrefused⟩ := Request.rawArgv_of_not_fit hunfit
    cases hargv.symm.trans hrefused
  refine (scripted_log _ _ _).bind fun _ => ?_
  refine (scripted_setSigpipe .default).bind fun previous => ?_
  refine (scripted_note _).bind fun _ => ?_
  refine (scripted_call fun _ errno _ errno' herrno herrno' => ?_).bind fun found => ?_
  · -- The search makes the same of both numbers.
    by_cases hnothing : Exec.TriesNothing w.searchPath (Bytes.ofString r.program)
    · have hsame := h hfit hnothing
      rcases herrno with rfl | rfl <;> rcases herrno' with rfl | rfl <;> simp [hsame]
    · exact Exec.search_congr_left hnothing errno'
  · split
    · exact scripted_pure _
    · refine (scripted_log _ _ _).bind fun _ => ?_
      exact (scripted_setSigpipe previous).bind fun _ => scripted_throw _

theorem scripted_execute (format : OutputFormat) {r : Request}
    (h : r.Fit → Exec.TriesNothing w.searchPath (Bytes.ofString r.program) → e = e') :
    Act.Scripted (callFinds w e e') (execute w format r) anyhow := by
  refine (scripted_logIfAsked (P := leftWith e e') _ _ _ _).bind fun _ => ?_
  refine (scripted_log _ _ _).bind fun _ => ?_
  exact (scripted_deliver w _).bind fun _ => scripted_replaceImage w h

theorem scripted_dispatch {i : Invocation} (h : SameCall w i e e') :
    Act.Scripted (callFinds w e e') (dispatch w i) anyhow := by
  refine scripted_ofExcept_bind fun configured hload => ?_
  split
  · next o hcommand =>
    exact (scripted_execute w _ (h o configured hcommand hload)).bind fun _ => scripted_pure _
  · exact (scripted_pure _).forget
  · exact ((scripted_ofExcept _).bind fun _ => scripted_pure _).forget
  · exact ((scripted_ofExcept _).bind fun _ => scripted_pure _).forget

theorem scripted_report (format : OutputFormat) (f : Failure) :
    Act.Scripted P (report w format f) P := by
  cases format with
  | human => exact scripted_note _
  | json => exact scripted_onStdout w _

theorem scripted_conclude (format : OutputFormat) (f : Failure) :
    Scripted P (conclude w format f) fun _ => anyhow := by
  refine Scripted.andThen (scripted_report w format f) fun result => ?_
  cases result with
  | ok => exact scripted_return _ fun _ _ _ => trivial
  | error => exact scripted_return _ fun _ _ _ => trivial

theorem scripted_carryOut {i : Invocation} (h : SameCall w i e e') :
    Scripted (callFinds w e e') (carryOut w i) fun _ => anyhow := by
  refine Scripted.andThen (scripted_dispatch w h) fun result => ?_
  rcases result with f | image | value
  · exact Scripted.andThen (scripted_log _ _ _) fun _ => scripted_conclude w _ f
  · exact scripted_return _ fun _ _ _ => trivial
  · refine Scripted.andThen (scripted_deliver w _) fun result => ?_
    cases result with
    | ok => exact scripted_return _ fun _ _ _ => trivial
    | error f => exact scripted_conclude w _ f

end

end ImageSwap.Run
