import ImageSwap.Proofs.AnnouncedFirst

/-!
# Exit statuses when standard output refuses

A run that fails is to end with the exit status of its failure, also when the failure is that
standard output refused what the run had to print. It does so for people, and for programs as long
as standard output takes the report; a run whose report is refused is cut off instead. Where
standard output refuses everything, this makes a difference between the two formats in every run.
-/

namespace ImageSwap.Run

open CommandLine (Invocation)

/-- The exit statuses that a run is to end with when it cannot do what it was asked to, or cannot
print what it is about to do or has found out. -/
structure ExitsAsDue (w : World) (i : Invocation) : Prop where
  /-- The run is not cut off. -/
  uncut : (perform w i).outcome ≠ .aborted
  failed : ∀ f, (dispatch w i).result (opening w i) = .error f →
    (perform w i).outcome = .exited f.exitStatus
  unannounced : ∀ configured o f, Config.load w.fs i.config = .ok configured →
    i.command = .run o → (announce w i.output).result {} = .error f →
      (perform w i).outcome = .exited 2
  unemitted : ∀ value j f, (dispatch w i).runOn (opening w i) = (.ok (.result value), j) →
    (emit w i.output value).result j = .error f → (perform w i).outcome = .exited 2

/-- Standard output takes the report of whatever failure a run has to report. -/
structure ReportsTaken (w : World) (i : Invocation) : Prop where
  failed : ∀ f j, (dispatch w i).runOn (opening w i) = (.error f, j) → w.TakesReport i.output j
  unemitted : ∀ value j f after, (dispatch w i).runOn (opening w i) = (.ok (.result value), j) →
    (emit w i.output value).runOn j = (.error f, after) → w.TakesReport i.output after

variable {w : World} {i : Invocation}

/-- What standard output refuses is a failure with exit status 2. -/
theorem Delivery.exitStatus_eq {text : String} {calls : Nat} {f : Failure} {made : List Effect}
    (h : Delivery w text calls (.error f) made) : f.exitStatus = 2 := by
  cases h <;> rfl

theorem exitStatus_of_emit {format : OutputFormat} {value : Json} {j after : Journal} {f : Failure}
    (h : (emit w format value).runOn j = (.error f, after)) : f.exitStatus = 2 := by
  obtain ⟨made, -, -, hdelivery⟩ := delivery_of_runOn h
  exact hdelivery.exitStatus_eq

theorem ExitsAsDue.reportsTaken (h : ExitsAsDue w i) : ReportsTaken w i where
  failed f j hrun := by
    obtain ⟨record, made, -, hconcluding⟩ := perform_of_failed hrun
    exact hconcluding.outcome_eq_exited_iff.mp (h.failed f (by rw [Act.result, hrun]))
  unemitted value j f after hrun hemit := by
    obtain ⟨made, -, hconcluding⟩ := perform_of_unemitted hrun hemit
    have houtcome := h.unemitted value j f hrun (by rw [Act.result, hemit])
    rw [← exitStatus_of_emit hemit] at houtcome
    exact hconcluding.outcome_eq_exited_iff.mp houtcome

namespace ReportsTaken

variable (h : ReportsTaken w i)

include h

theorem outcome_of_failed {f : Failure} {j : Journal}
    (hrun : (dispatch w i).runOn (opening w i) = (.error f, j)) :
    (perform w i).outcome = .exited f.exitStatus := by
  obtain ⟨record, made, -, hconcluding⟩ := perform_of_failed hrun
  exact hconcluding.outcome_eq_exited_iff.mpr (h.failed f j hrun)

theorem outcome_of_unemitted {value : Json} {j after : Journal} {f : Failure}
    (hrun : (dispatch w i).runOn (opening w i) = (.ok (.result value), j))
    (hemit : (emit w i.output value).runOn j = (.error f, after)) :
    (perform w i).outcome = .exited 2 := by
  obtain ⟨made, -, hconcluding⟩ := perform_of_unemitted hrun hemit
  rw [← exitStatus_of_emit hemit]
  exact hconcluding.outcome_eq_exited_iff.mpr (h.unemitted value j f after hrun hemit)

theorem outcome_ne_aborted : (perform w i).outcome ≠ .aborted := by
  rcases hrun : (dispatch w i).runOn (opening w i) with ⟨f | image | value, j⟩
  · rw [h.outcome_of_failed hrun]
    exact nofun
  · rw [(perform_of_replaced hrun).1]
    exact nofun
  · rcases hemit : (emit w i.output value).runOn j with ⟨f | ⟨⟩, after⟩
    · rw [h.outcome_of_unemitted hrun hemit]
      exact nofun
    · rw [(perform_of_emitted hrun hemit).1]
      exact nofun

theorem exitsAsDue : ExitsAsDue w i where
  uncut := h.outcome_ne_aborted
  failed f hresult := h.outcome_of_failed (Prod.ext hresult rfl)
  unannounced configured o f hload hcommand hannounce := by
    have hearly : FailsEarly w i f := .announcement hload hcommand hannounce
    obtain ⟨hresult, -⟩ := not_changesProcess_of_failsEarly hearly
    obtain ⟨made, hdelivery⟩ := delivery_of_announce hannounce
    rw [← hdelivery.exitStatus_eq]
    exact h.outcome_of_failed (Prod.ext hresult rfl)
  unemitted value j f hrun hresult := h.outcome_of_unemitted hrun (Prod.ext hresult rfl)

end ReportsTaken

/-- Standard output refuses every write and every flush. -/
def World.RefusesOutput (w : World) : Prop := ∀ n, w.refusal n ≠ none

/-- Where standard output refuses everything, some failure is to be reported in every run, and only
the error stream takes it. -/
theorem reportsTaken_iff_of_refuses (hw : w.RefusesOutput) :
    ReportsTaken w i ↔ i.output = .human := by
  have hformat {j : Journal} : w.TakesReport i.output j ↔ i.output = .human := by
    unfold World.TakesReport
    cases i.output with
    | human => simp
    | json => simpa using hw j.stdoutCalls
  constructor
  · intro h
    rcases hrun : (dispatch w i).runOn (opening w i) with ⟨f | image | value, j⟩
    · exact hformat.mp (h.failed f j hrun)
    · obtain ⟨made, -, hcourse⟩ := course_of_runOn hrun
      generalize hresult : Except.ok (Success.replaced image) = result at hcourse
      cases hcourse with
      | announced _ _ hwrite => exact absurd hwrite (hw _)
      | _ => cases hresult
    · rcases hemit : (emit w i.output value).runOn j with ⟨f | ⟨⟩, after⟩
      · exact hformat.mp (h.unemitted value j f after hrun hemit)
      · obtain ⟨made, -, -, hdelivery⟩ := delivery_of_runOn hemit
        cases hdelivery with
        | done hwrite => exact absurd hwrite (hw _)
  · exact fun h => ⟨fun _ _ _ => hformat.mpr h, fun _ _ _ _ _ _ => hformat.mpr h⟩

/-- Where standard output refuses everything, a run ends with the exit status that is due exactly
when it prints for people. -/
theorem exitsAsDue_iff_of_refuses (hw : w.RefusesOutput) :
    ExitsAsDue w i ↔ i.output = .human :=
  ⟨fun h => (reportsTaken_iff_of_refuses hw).mp h.reportsTaken,
    fun h => ((reportsTaken_iff_of_refuses hw).mpr h).exitsAsDue⟩

/-- A run ends with the exit status that is due exactly when standard output takes the report of
whatever failure there is to report, or the report goes to the error stream. -/
theorem exitsAsDue_iff (w : World) (i : Invocation) : ExitsAsDue w i ↔ ReportsTaken w i :=
  ⟨ExitsAsDue.reportsTaken, ReportsTaken.exitsAsDue⟩

/-- On a full device the report of the process in JSON is refused, and so is the report of that: the
run is cut off, and its exit status is not 2. -/
theorem not_exitsAsDue_of_full :
    (perform .full { named := some .pid, output := .json }).outcome = .aborted ∧
      Outcome.aborted.exitStatus? = some 101 ∧
      ¬ExitsAsDue .full { named := some .pid, output := .json } :=
  ⟨rfl, rfl, fun h => h.uncut rfl⟩

end ImageSwap.Run
