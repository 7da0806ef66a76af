import ImageSwap.Proofs.Courses
import Mathlib.Data.List.Basic

/-!
# No new image without an announcement

A run asks for a new image at most once, and only after the process has been announced completely,
the announcement has been passed on, and a closed pipe has been set to its default. A run that fails
before that leaves the process as it is, and ends with its failure unless standard output refuses
the report of it.
-/

namespace ImageSwap.Run

open CommandLine (Invocation)

/-- The failures with which a run can end before it changes the process: the config cannot be
loaded, the announcement is refused, or the request is not fit for the system. -/
inductive FailsEarly (w : World) (i : Invocation) : Failure → Prop where
  | config {f : Failure} (h : Config.load w.fs i.config = .error f) : FailsEarly w i f
  | announcement {configured : Request} {o : Overrides} {f : Failure}
    (hload : Config.load w.fs i.config = .ok configured) (hrun : i.command = .run o)
    (h : (announce w i.output).result {} = .error f) : FailsEarly w i f
  | request {configured : Request} {o : Overrides} {f : Failure}
    (hload : Config.load w.fs i.config = .ok configured) (hrun : i.command = .run o)
    (hannounce : (announce w i.output).result {} = .ok ())
    (h : (configured.override o).rawArgv = .error f) : FailsEarly w i f

/-- The order that a run is to keep. -/
structure KeepsOrder (w : World) (i : Invocation) : Prop where
  /-- The system is asked for a new image at most once. -/
  once : (perform w i).effects.countP Effect.isCall ≤ 1
  /-- It is asked by the command to run alone, with a config that was loaded, and all that was done
  before is to announce the process, pass that on, and set a closed pipe to its default. -/
  announced : ∀ before file argv after,
    (perform w i).effects = before ++ .execute file argv :: after →
      (∃ o configured, i.command = .run o ∧ Config.load w.fs i.config = .ok configured) ∧
      ∃ text, Announces w i.output text ∧
        deeds before = [.print .stdout text, .flush, .setSigpipe .default]
  /-- A run that fails before leaves the process as it is and ends with the failure. -/
  untouched : ∀ f, FailsEarly w i f →
    (∀ effect ∈ (perform w i).effects, effect.changesProcess = false) ∧
      (dispatch w i).result (opening w i) = .error f ∧ (perform w i).outcome = .exited f.exitStatus
  /-- Every other command leaves the process as it is. -/
  unchanged : (∀ o, i.command ≠ .run o) →
    ∀ effect ∈ (perform w i).effects, effect.changesProcess = false

/-- Standard output takes the report of a failure, if it is to go there. -/
def World.TakesReport (w : World) (format : OutputFormat) (j : Journal) : Prop :=
  format = .json → w.refusal j.stdoutCalls = none

variable {w : World} {i : Invocation}

/-- After the config only the command to run has anything that can fail early. -/
theorem FailsEarly.exists_run {f : Failure} {configured : Request} (h : FailsEarly w i f)
    (hload : Config.load w.fs i.config = .ok configured) : ∃ o, i.command = .run o := by
  cases h with
  | config h => cases hload.symm.trans h
  | announcement _ hrun => exact ⟨_, hrun⟩
  | request _ hrun => exact ⟨_, hrun⟩

namespace Delivery

variable {text : String} {calls : Nat} {result : Except Failure Unit} {made : List Effect}

theorem not_changesProcess (h : Delivery w text calls result made) :
    ∀ effect ∈ made, effect.changesProcess = false := by
  cases h <;> simp [Effect.changesProcess]

/-- There is one way for a text to fare. -/
theorem result_eq {result' : Except Failure Unit} {made' : List Effect}
    (h : Delivery w text calls result made) (h' : Delivery w text calls result' made') :
    result = result' := by
  cases h <;> cases h' <;> simp_all

end Delivery

/-- The announcement is the first text that goes to standard output. -/
theorem delivery_of_announce {format : OutputFormat} {result : Except Failure Unit}
    (h : (announce w format).result {} = result) :
    ∃ made, Delivery w (format.banner w.report) 0 result made := by
  obtain ⟨made, -, -, hdelivery⟩ := delivery_of_runOn (w := w) (Prod.ext h rfl)
  exact ⟨made, hdelivery⟩

theorem Concluding.not_changesProcess {format : OutputFormat} {f : Failure} {calls : Nat}
    {outcome : Outcome} {made : List Effect} (h : Concluding w format f calls outcome made) :
    ∀ effect ∈ made, effect.changesProcess = false := by
  cases h <;> simp [Effect.changesProcess]

/-- A run ends with its failure exactly when that is not to be printed where it is refused. -/
theorem Concluding.outcome_eq_exited_iff {format : OutputFormat} {f : Failure} {j : Journal}
    {outcome : Outcome} {made : List Effect}
    (h : Concluding w format f j.stdoutCalls outcome made) :
    outcome = .exited f.exitStatus ↔ w.TakesReport format j := by
  cases h with
  | told hformat => simp [World.TakesReport, hformat]
  | printed hformat h => simp [World.TakesReport, h]
  | silenced hformat h => simp [World.TakesReport, hformat, h]

namespace Course

variable {calls : Nat} {previous : Disposition} {result : Except Failure Success}
  {made : List Effect}

/-- The command to run alone changes the process. -/
theorem not_changesProcess (h : Course w i calls previous result made)
    (hother : ∀ o, i.command ≠ .run o) : ∀ effect ∈ made, effect.changesProcess = false := by
  cases h with
  | unconfigured h => simp
  | unannounced _ hrun => exact absurd hrun (hother _)
  | announced _ hrun => exact absurd hrun (hother _)
  | unreported => simp
  | reported => simp

/-- The system is asked once the process has been announced, and not again. -/
theorem of_execute_mem (h : Course w i calls previous result made) {file : Bytes}
    {argv : List Bytes} (hexecute : .execute file argv ∈ made) :
    (∃ o configured, i.command = .run o ∧ Config.load w.fs i.config = .ok configured) ∧
      ∃ rest, made = [.print .stdout (i.output.banner w.report), .flush, .setSigpipe .default] ++
        .execute file argv :: rest ∧ ∀ effect ∈ rest, effect.isCall = false := by
  cases h with
  | unconfigured => cases hexecute
  | unannounced _ _ h =>
    cases h.not_changesProcess _ hexecute
  | announced hload hrun _ _ h =>
    refine ⟨⟨_, _, hrun, hload⟩, ?_⟩
    cases h with
    | unfit => simp at hexecute
    | found =>
      simp only [List.mem_cons, reduceCtorEq, Effect.execute.injEq, List.not_mem_nil, or_false,
        false_or] at hexecute
      obtain ⟨rfl, rfl⟩ := hexecute
      exact ⟨[], rfl, by simp⟩
    | missed =>
      simp only [List.mem_cons, reduceCtorEq, Effect.execute.injEq, List.not_mem_nil, or_false,
        false_or] at hexecute
      obtain ⟨rfl, rfl⟩ := hexecute
      exact ⟨_, rfl, by simp [Effect.isCall]⟩
  | unreported => cases hexecute
  | reported => cases hexecute

/-- A command that fails early does so with its failure, and leaves the process as it is. -/
theorem of_failsEarly {f : Failure} (h : Course w i 0 previous result made)
    (hearly : FailsEarly w i f) :
    result = .error f ∧ ∀ effect ∈ made, effect.changesProcess = false := by
  cases h with
  | unconfigured h =>
    refine ⟨?_, by simp⟩
    cases hearly with
    | config h' =>
      cases h.symm.trans h'
      rfl
    | announcement hload => cases h.symm.trans hload
    | request hload => cases h.symm.trans hload
  | unannounced hload hrun h =>
    refine ⟨?_, h.not_changesProcess⟩
    cases hearly with
    | config h' => cases hload.symm.trans h'
    | announcement _ _ h' =>
      obtain ⟨_, h'⟩ := delivery_of_announce h'
      cases h.result_eq h'
      rfl
    | request _ _ h' =>
      obtain ⟨_, h'⟩ := delivery_of_announce h'
      cases h.result_eq h'
  | announced hload hrun hwrite hflush h =>
    have hdone : Delivery w (i.output.banner w.report) 0 _ _ := .done hwrite hflush
    cases hearly with
    | config h' => cases hload.symm.trans h'
    | announcement _ _ h' =>
      obtain ⟨_, h'⟩ := delivery_of_announce h'
      cases hdone.result_eq h'
    | request hload' hrun' _ hargv =>
      cases hload.symm.trans hload'
      cases hrun.symm.trans hrun'
      cases h with
      | unfit h =>
        cases h.symm.trans hargv
        exact ⟨rfl, by simp [Effect.changesProcess]⟩
      | found h => cases h.symm.trans hargv
      | missed h => cases h.symm.trans hargv
  | unreported hload h =>
    obtain ⟨o, hrun⟩ := hearly.exists_run hload
    exact absurd hrun (h.ne_run o)
  | reported hload h =>
    obtain ⟨o, hrun⟩ := hearly.exists_run hload
    exact absurd hrun (h.ne_run o)

theorem countP_isCall_le (h : Course w i calls previous result made) :
    made.countP Effect.isCall ≤ 1 := by
  by_cases hcall : ∃ effect ∈ made, effect.isCall
  · obtain ⟨effect, hmem, hcall⟩ := hcall
    cases effect with
    | execute file argv =>
      obtain ⟨-, rest, rfl, hrest⟩ := h.of_execute_mem hmem
      have hzero : rest.countP Effect.isCall = 0 :=
        List.countP_eq_zero.mpr fun effect h => by simp [hrest effect h]
      simp [List.countP_cons, Effect.isCall, hzero]
    | _ => cases hcall
  · rw [List.countP_eq_zero.mpr fun effect hmem hcall' => hcall ⟨effect, hmem, hcall'⟩]
    exact Nat.zero_le 1

end Course

/-- What a run does is what carrying out its command does, and then nothing that changes the
process. -/
theorem exists_course (w : World) (i : Invocation) :
    ∃ result made closing, (dispatch w i).result (opening w i) = result ∧
      Course w i 0 .ignore result made ∧ deeds (perform w i).effects = made ++ closing ∧
      ∀ effect ∈ closing, effect.changesProcess = false := by
  rcases hrun : (dispatch w i).runOn (opening w i) with ⟨result, j⟩
  obtain ⟨made, hmade, hcourse⟩ := course_of_runOn hrun
  rw [deeds_opening, List.nil_append] at hmade
  refine ⟨result, made, ?_⟩
  have hresult : (dispatch w i).result (opening w i) = result := by rw [Act.result, hrun]
  rcases result with f | image | value
  · obtain ⟨record, closing, heffects, hconcluding⟩ := perform_of_failed hrun
    refine ⟨deeds closing, hresult, hcourse, ?_, fun effect h => ?_⟩
    · simp [heffects, hmade, deeds_cons, Effect.isDeed]
    · exact hconcluding.not_changesProcess effect (List.mem_of_mem_filter h)
  · obtain ⟨-, heffects⟩ := perform_of_replaced hrun
    exact ⟨[], hresult, hcourse, by simp [heffects, hmade], by simp⟩
  · rcases hemit : (emit w i.output value).runOn j with ⟨f | ⟨⟩, after⟩
    all_goals obtain ⟨text, htext, -, hdelivery⟩ := delivery_of_runOn hemit
    · obtain ⟨closing, heffects, hconcluding⟩ := perform_of_unemitted hrun hemit
      refine ⟨deeds (text ++ closing), hresult, hcourse, ?_, fun effect h => ?_⟩
      · simp [heffects, htext, hmade]
      · rcases List.mem_append.mp (List.mem_of_mem_filter h) with h | h
        · exact hdelivery.not_changesProcess effect h
        · exact hconcluding.not_changesProcess effect h
    · obtain ⟨-, heffects⟩ := perform_of_emitted hrun hemit
      refine ⟨deeds text, hresult, hcourse, by simp [heffects, htext, hmade], fun effect h => ?_⟩
      exact hdelivery.not_changesProcess effect (List.mem_of_mem_filter h)

theorem countP_isCall_deeds (effects : List Effect) :
    (deeds effects).countP Effect.isCall = effects.countP Effect.isCall := by
  rw [List.countP_eq_length_filter, filter_isCall_deeds, List.countP_eq_length_filter]

theorem not_isCall_of_not_changesProcess {effect : Effect} (h : effect.changesProcess = false) :
    effect.isCall = false := by
  cases effect with
  | execute => cases h
  | _ => rfl

/-- What changes the process is done while the command is carried out. -/
theorem mem_of_changesProcess {effects made closing : List Effect} {effect : Effect}
    (hdeeds : deeds effects = made ++ closing)
    (hclosing : ∀ effect ∈ closing, effect.changesProcess = false) (hmem : effect ∈ effects)
    (hchanges : effect.changesProcess = true) : effect ∈ made := by
  have hdeed : effect.isDeed = true := by
    cases effect with
    | setSigpipe => rfl
    | execute => rfl
    | _ => cases hchanges
  have hmade : effect ∈ made ++ closing := hdeeds ▸ List.mem_filter.mpr ⟨hmem, hdeed⟩
  refine (List.mem_append.mp hmade).resolve_right fun h => ?_
  rw [hclosing effect h] at hchanges
  cases hchanges

theorem countP_isCall_perform_le (w : World) (i : Invocation) :
    (perform w i).effects.countP Effect.isCall ≤ 1 := by
  obtain ⟨result, made, closing, -, hcourse, hdeeds, hclosing⟩ := exists_course w i
  have hzero : closing.countP Effect.isCall = 0 :=
    List.countP_eq_zero.mpr fun effect h => by
      simp [not_isCall_of_not_changesProcess (hclosing effect h)]
  rw [← countP_isCall_deeds, hdeeds, List.countP_append, hzero]
  exact hcourse.countP_isCall_le

/-- All that a run has done when it asks for a new image. -/
theorem deeds_before_execute {before after : List Effect} {file : Bytes} {argv : List Bytes}
    (h : (perform w i).effects = before ++ .execute file argv :: after) :
    (∃ o configured, i.command = .run o ∧ Config.load w.fs i.config = .ok configured) ∧
      deeds before = [.print .stdout (i.output.banner w.report), .flush, .setSigpipe .default] := by
  obtain ⟨result, made, closing, -, hcourse, hdeeds, hclosing⟩ := exists_course w i
  have hmem : .execute file argv ∈ made :=
    mem_of_changesProcess hdeeds hclosing (h ▸ List.mem_append_right _ List.mem_cons_self) rfl
  obtain ⟨hcommand, rest, rfl, hrest⟩ := hcourse.of_execute_mem hmem
  refine ⟨hcommand, ?_⟩
  have hcall : deeds (.execute file argv :: after) = .execute file argv :: deeds after := rfl
  rw [h, deeds_append, hcall, List.append_assoc, List.cons_append] at hdeeds
  -- There is no other call behind this one, so the two splittings are the same.
  have hlast : .execute file argv ∉ rest ++ closing := by
    intro hmem
    rcases List.mem_append.mp hmem with hmem | hmem
    · cases hrest _ hmem
    · cases hclosing _ hmem
  exact ((List.append_cons_inj_of_notMem (by simp) hlast).mp hdeeds.symm).1.symm

/-- A run that fails early leaves the process as it is. -/
theorem not_changesProcess_of_failsEarly {f : Failure} (hearly : FailsEarly w i f) :
    (dispatch w i).result (opening w i) = .error f ∧
      ∀ effect ∈ (perform w i).effects, effect.changesProcess = false := by
  obtain ⟨result, made, closing, hresult, hcourse, hdeeds, hclosing⟩ := exists_course w i
  obtain ⟨rfl, hmade⟩ := hcourse.of_failsEarly hearly
  refine ⟨hresult, fun effect hmem => ?_⟩
  by_contra hchanges
  rw [Bool.not_eq_false] at hchanges
  cases hchanges.symm.trans (hmade effect (mem_of_changesProcess hdeeds hclosing hmem hchanges))

/-- A run that does not carry out the command to run leaves the process as it is. -/
theorem not_changesProcess_of_other (hother : ∀ o, i.command ≠ .run o) :
    ∀ effect ∈ (perform w i).effects, effect.changesProcess = false := by
  obtain ⟨result, made, closing, -, hcourse, hdeeds, hclosing⟩ := exists_course w i
  intro effect hmem
  by_contra hchanges
  rw [Bool.not_eq_false] at hchanges
  cases hchanges.symm.trans
    (hcourse.not_changesProcess hother effect (mem_of_changesProcess hdeeds hclosing hmem hchanges))

/-- A run keeps its order exactly when standard output takes the report of any early failure. -/
theorem keepsOrder_iff (w : World) (i : Invocation) :
    KeepsOrder w i ↔ ∀ f j, FailsEarly w i f →
      (dispatch w i).runOn (opening w i) = (.error f, j) → w.TakesReport i.output j := by
  constructor
  · intro h f j hearly hrun
    obtain ⟨record, closing, -, hconcluding⟩ := perform_of_failed hrun
    exact hconcluding.outcome_eq_exited_iff.mp (h.untouched f hearly).2.2
  · intro htakes
    refine ⟨countP_isCall_perform_le w i, fun before file argv after h => ?_, fun f hearly => ?_,
      not_changesProcess_of_other⟩
    · obtain ⟨hcommand, hbefore⟩ := deeds_before_execute h
      exact ⟨hcommand, _, announces_banner w i.output, hbefore⟩
    obtain ⟨hresult, hunchanged⟩ := not_changesProcess_of_failsEarly hearly
    obtain ⟨j, hrun⟩ := Act.exists_runOn hresult
    obtain ⟨record, closing, -, hconcluding⟩ := perform_of_failed hrun
    exact ⟨hunchanged, hresult,
      hconcluding.outcome_eq_exited_iff.mpr (htakes f j hearly hrun)⟩

/-- A world in which standard output is a full device. -/
def World.full : World where
  fs := {}
  pid := ⟨2⟩
  parent := ⟨1⟩
  now := ⟨0, 0⟩
  refusal _ := some .enospc

/-- On a full device the announcement in JSON is refused, and so is the report of that: the run is
cut off, and its exit status is not that of the failure. -/
theorem not_keepsOrder_of_full :
    FailsEarly .full { output := .json } (.io (.os .enospc)) ∧
      (perform .full { output := .json }).outcome = .aborted ∧
      ¬KeepsOrder .full { output := .json } := by
  have hearly : FailsEarly .full { output := .json } (.io (.os .enospc)) :=
    .announcement rfl rfl rfl
  have haborted : (perform .full { output := .json }).outcome = .aborted := rfl
  refine ⟨hearly, haborted, fun h => ?_⟩
  cases haborted.symm.trans (h.untouched _ hearly).2.2

end ImageSwap.Run
