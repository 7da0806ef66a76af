import ImageSwap.Proofs.LogDirectives
import ImageSwap.Proofs.QuieterRuns

/-!
# Which records a run shows

A run takes the same steps whatever the log shows. So the records that it shows are those of a run
whose log shows everything, as far as the filter lets them through, and the environment variable of
the filter decides with the verbosity about nothing else. The two runs are compared where looking a
program up for the log leaves the error number that the call for a new image finds anyway.
-/

namespace ImageSwap.Run

open CommandLine (Invocation)

/-- The records on the error stream are those that the log shows. -/
theorem records_told (filter : Log.Filter) (effects : List Effect) :
    records (told filter effects) = (records effects).filter filter.admits := by
  induction effects with
  | nil => rfl
  | cons effect effects ih =>
    have hhead : records (told filter [effect]) = (records [effect]).filter filter.admits := by
      cases effect with
      | log record =>
        by_cases h : filter.admits record = true
        · simp [told, records, Effect.isTold, Effect.record?, h]
        · simp [told, records, Effect.isTold, Effect.record?, h]
      | print stream => cases stream <;> rfl
      | _ => rfl
    rw [← List.singleton_append, told_append, records_append, records_append, List.filter_append,
      hhead, ih]

/-- The records of a run that stand on the error stream. -/
def Transcript.shown (t : Transcript) : List Log.Record := records (told t.filter t.effects)

/-- The world in which looking a program up for the log leaves another error number. -/
def World.withLookupErrno (w : World) (errno : Errno) : World := { w with lookupErrno := errno }

/-- A call finds the same where looking a program up leaves what it finds anyway. -/
theorem World.errnoFound_withLookupErrno (w : World) (v : UInt8) :
    (w.withLookupErrno (w.errnoFound v)).errnoFound v = w.errnoFound v := by
  change (if (setUpLog w v).1.asksFor .debug runTarget then w.errnoFound v else w.errno) = _
  split
  · rfl
  · next hasks => rw [errnoFound, callErrno, if_neg hasks]

/-- The records that a run hands to a log that asks for everything, when its call for a new image
finds the same error number as with its own log. -/
def everyRecord (w : World) (i : Invocation) : List Log.Record :=
  records ((carryOut (w.withLookupErrno (w.errnoFound i.verbosity)) i).run {}).2.effects

/-- Where nothing is looked up for the log, what that would leave makes no difference. -/
theorem run_carryOut_withLookupErrno (w : World) (i : Invocation) {j : Journal}
    (h : ¬j.filter.asksFor .debug runTarget) (errno : Errno) :
    (carryOut (w.withLookupErrno errno) i).run j = (carryOut w i).run j := by
  have hexecute (format : OutputFormat) (r : Request) :
      (execute (w.withLookupErrno errno) format r).runOn j = (execute w format r).runOn j := by
    simp only [execute, Act.runOn_logIfAsked_bind, if_neg h]
    rfl
  have hdispatch : (dispatch (w.withLookupErrno errno) i).runOn j = (dispatch w i).runOn j := by
    have hload : Config.load (w.withLookupErrno errno).fs i.config = Config.load w.fs i.config :=
      rfl
    simp only [dispatch, hload]
    cases Config.load w.fs i.config with
    | error f => rfl
    | ok configured =>
      simp only [Act.runOn_ok_bind]
      cases i.command with
      | run o => simp only [Act.runOn_bind, hexecute]
      | _ => rfl
  rw [run_carryOut, run_carryOut, hdispatch]
  rfl

/-- A run goes the same way where looking a program up leaves what its call finds anyway. -/
theorem perform_withLookupErrno (w : World) (i : Invocation) :
    perform (w.withLookupErrno (w.errnoFound i.verbosity)) i = perform w i := by
  by_cases hasks : (setUpLog w i.verbosity).1.asksFor .debug runTarget = true
  · rw [World.errnoFound, World.callErrno, if_pos hasks]
    rfl
  · have hrun :=
      run_carryOut_withLookupErrno w i (j := opening w i) hasks (w.errnoFound i.verbosity)
    have hperform (w' : World) : perform w' i =
        { outcome := ((carryOut w' i).run (opening w' i)).1
          effects := ((carryOut w' i).run (opening w' i)).2.effects
          filter := (setUpLog w' i.verbosity).1 } := rfl
    rw [hperform, hperform w, ← hrun]
    rfl

/-- A record that is not asked for is not shown either. -/
theorem filter_records_taken (filter : Log.Filter) (steps : List Step) :
    (records (taken filter steps)).filter filter.admits =
      (records (taken .everything steps)).filter filter.admits := by
  induction steps with
  | nil => rfl
  | cons step steps ih =>
    have hstep : (records (step.effects filter)).filter filter.admits =
        (records (step.effects .everything)).filter filter.admits := by
      cases step with
      | always effect => rfl
      | onDemand record =>
        have hevery : asked .everything record = [.log record] := by
          cases record with
          | mk level => cases level <;> rfl
        rw [Step.effects, Step.effects, hevery, asked]
        by_cases hasks : filter.asksFor record.level record.target = true
        · rw [if_pos hasks]
        · have hnone : filter.admits record = false := by simp [Log.Filter.admits, hasks]
          simp [hasks, records, Effect.record?, hnone]
    rw [taken_cons, taken_cons, records_append, records_append, List.filter_append,
      List.filter_append, hstep, ih]

/-- What has been done when a run begins to carry out its command hands no record to the log. -/
theorem records_opening (w : World) (i : Invocation) : records (opening w i).effects = [] := by
  simp [records, opening, setUpLog, Effect.record?]

/-- A run shows the records that its filter lets through. -/
theorem shown_eq_filter (w : World) (i : Invocation) :
    (perform w i).shown = (everyRecord w i).filter (setUpLog w i.verbosity).1.admits := by
  have hsame : SameCall (w.withLookupErrno (w.errnoFound i.verbosity)) i
      (w.errnoFound i.verbosity) (w.errnoFound i.verbosity) := fun _ _ _ _ _ _ => rfl
  obtain ⟨outcome, steps, calls, sigpipe, h⟩ :=
    scripted_carryOut (w.withLookupErrno (w.errnoFound i.verbosity)) hsame 0 .ignore
  have hevery : everyRecord w i = records (taken .everything steps) := by
    obtain ⟨errno, -, hrun⟩ := h [] ⟨0⟩ .everything (.inl rfl)
    exact congrArg (records ·.2.effects) hrun
  have hperform : (perform w i).effects =
      (opening w i).effects ++ taken (setUpLog w i.verbosity).1 steps := by
    obtain ⟨errno, -, hrun⟩ := h (opening w i).effects w.errno (setUpLog w i.verbosity).1
      (.inl (w.errnoFound_withLookupErrno i.verbosity))
    rw [← perform_withLookupErrno]
    exact (perform_of_run hrun).2
  have hfilter : (perform w i).filter = (setUpLog w i.verbosity).1 := rfl
  rw [Transcript.shown, records_told, hperform, hfilter, records_append, records_opening,
    List.nil_append, filter_records_taken, hevery]

namespace World

variable (w : World) {name other : String}

/-- A world in which an environment variable is not set. -/
def without (w : World) (name : String) : World :=
  { w with environment := w.environment.filter fun entry => entry.1 != name }

theorem value?_without_self : (w.without name).value? name = none := by
  rw [value?, List.lookup_eq_none_iff]
  intro entry hentry
  have hne : entry.1 ≠ name := by simpa using (List.mem_filter.mp hentry).2
  simpa using hne.symm

theorem value?_without_of_ne (h : other ≠ name) :
    (w.without name).value? other = w.value? other :=
  lookup_filter_of_ne h w.environment

end World

/-- A command is carried out the same way in worlds that differ in environment variables other than
the search path. -/
theorem carryOut_without (w : World) {name : String} (h : "PATH" ≠ name) (i : Invocation) :
    carryOut (w.without name) i = carryOut w i := by
  have hpath : (w.without name).searchPath = w.searchPath := w.value?_without_of_ne h
  have hreplace (r : Request) : replaceImage (w.without name) r = replaceImage w r := by
    simp only [replaceImage, hpath]
    rfl
  have hexecute (format : OutputFormat) (r : Request) :
      execute (w.without name) format r = execute w format r := by
    simp only [execute, lookupMessage, hpath, hreplace]
    rfl
  have hdispatch : dispatch (w.without name) i = dispatch w i := by
    simp only [dispatch, hpath, hexecute]
    rfl
  rw [carryOut, hdispatch]
  rfl

/-- How the environment variable decides with the verbosity which records a run shows. -/
structure ShowsByDirectives (w : World) (i : Invocation) : Prop where
  /-- Of the records that there are, those are shown that match the expression and are within the
  threshold of their target; nothing else of the log stands on the error stream. -/
  shown : ∃ admits : Log.Record → Bool,
    (∀ r, admits r = true ↔ Log.Filter.Passes (.ofVerbosity i.verbosity)
      (w.value? Log.filterVariable) r) ∧
    (perform w i).shown = (everyRecord w i).filter admits ∧
    (perform w i).stderr w.now =
      wordsOf w.now (told (perform w i).filter (perform w i).effects)
  /-- A directive without a prefix leaves nothing to the verbosity. -/
  overridden : (∃ d ∈ Log.Specification.givenDirectives (w.value? Log.filterVariable),
      d.target = none) →
    ∀ v v', (perform w { i with verbosity := v }).shown =
      (perform w { i with verbosity := v' }).shown
  /-- A value with more than one slash counts as none. -/
  slashes : ∀ text, (w.value? Log.filterVariable).bind Bytes.decode? = some text →
    1 < text.toList.count '/' →
      (perform w i).shown = (perform (w.without Log.filterVariable) i).shown
  /-- A value without a directive and without an expression that can be read counts as none. -/
  unread : Log.Specification.givenDirectives (w.value? Log.filterVariable) = [] →
    Log.Specification.givenPattern (w.value? Log.filterVariable) = none →
      (perform w i).shown = (perform (w.without Log.filterVariable) i).shown

/-- A run shows the records that the directives of the environment variable let through; the
verbosity decides about the targets that they leave. -/
theorem showsByDirectives (w : World) (i : Invocation) : ShowsByDirectives w i := by
  have hunread (hdirectives : Log.Specification.givenDirectives
      (w.value? Log.filterVariable) = [])
      (hpattern : Log.Specification.givenPattern (w.value? Log.filterVariable) = none) :
      (perform w i).shown = (perform (w.without Log.filterVariable) i).shown := by
    have hfilter : (setUpLog w i.verbosity).1 =
        (setUpLog (w.without Log.filterVariable) i.verbosity).1 := by
      simp only [setUpLog, w.value?_without_self]
      exact Log.Filter.setUp_eq_unset hdirectives hpattern _
    have hevery : everyRecord (w.without Log.filterVariable) i = everyRecord w i := by
      have herrno : (w.without Log.filterVariable).errnoFound i.verbosity =
          w.errnoFound i.verbosity := by
        simp only [World.errnoFound, ← hfilter]
        rfl
      have hworld (errno : Errno) : (w.without Log.filterVariable).withLookupErrno errno =
          (w.withLookupErrno errno).without Log.filterVariable := rfl
      rw [everyRecord, herrno, hworld, carryOut_without _ (by decide), everyRecord]
    rw [shown_eq_filter, shown_eq_filter, hfilter, hevery]
  refine ⟨⟨_, fun r => Log.Filter.admits_setUp_iff, shown_eq_filter w i, stderr_eq_wordsOf _ _⟩,
    fun hgeneral v v' => ?_, fun text hvalue hslashes => ?_, hunread⟩
  · -- The log is the same, and so are the records that there are.
    have hfilter : (setUpLog w v).1 = (setUpLog w v').1 := Log.Filter.setUp_congr hgeneral _
    have herrno : w.errnoFound v = w.errnoFound v' := by
      rw [World.errnoFound, hfilter, World.errnoFound]
    have hevery : everyRecord w { i with verbosity := v } =
        everyRecord w { i with verbosity := v' } := by
      simp only [everyRecord, herrno]
      rfl
    rw [shown_eq_filter, shown_eq_filter, hevery, hfilter]
  · obtain ⟨value, hset, htext⟩ := Option.bind_eq_some_iff.mp hvalue
    rw [hset] at hunread
    obtain ⟨hdirectives, hpattern⟩ := Log.Specification.given_of_slashes htext hslashes
    exact hunread hdirectives hpattern

end ImageSwap.Run
