import ImageSwap.Proofs.ConfigLoading
import ImageSwap.Proofs.PrintedOutput
import ImageSwap.Proofs.RefusedOutput
import ImageSwap.Proofs.ReportAgreement
import ImageSwap.Proofs.SearchReports

/-!
# Exit statuses that the guide lists

The guide lists the exit statuses of every subcommand. Where standard output takes everything, a run
that is not replaced ends with a status from the list of its subcommand, but for one case: a run
that is asked where a program is, and finds it, ends with status 0. The guide lists that status for
the other subcommands that only report, but for this one it has the list of the subcommand that
replaces the image.
-/

namespace ImageSwap

namespace CommandLine

/-- The name of the subcommand that a command belongs to. -/
def Command.name : Command → String
  | run _ => "run"
  | pid => "pid"
  | resolve _ => "resolve"
  | help _ => "help-cmd"

/-- What is said in the scope of a subcommand makes a command of that name. -/
theorem mem_subcommands_of_commandOf {scope : Scope} {g : Given} {command : Command}
    (h : commandOf scope g = some command) : (command.name, scope) ∈ Scope.subcommands := by
  cases scope <;> cases h <;> simp [Command.name, Scope.subcommands]

end CommandLine

open CommandLine (Command Invocation)

namespace Guide

/-- The exit statuses that are listed for the subcommand of a given name. -/
def statuses (name : String) : List UInt8 :=
  (detail? name).elim [] fun detail => detail.exitCodes.map ExitCode.code

theorem statuses_name (command : Command) :
    statuses command.name =
      match command with
      | .run _ | .resolve _ => [1, 2, 126, 127]
      | .pid | .help _ => [0, 2] := by
  cases command <;> rfl

/-- Status 2, for what goes wrong before anything is done, is listed everywhere. -/
theorem two_mem_statuses (command : Command) : 2 ∈ statuses command.name := by
  rw [statuses_name]
  cases command <;> simp

end Guide

namespace Run

/-- A run is asked where a program is, and finds it: the program can run, and its path is text. -/
def FindsProgram (w : World) (i : Invocation) : Prop :=
  ∃ program configured text, i.command = .resolve program ∧
    Config.load w.fs i.config = .ok configured ∧
    let found := Search.resolve w.fs (program.getD configured.program) w.searchPath
    found.executable = true ∧ found.path = some (Bytes.ofString text)

/-- The guide lists the exit status of a run for its subcommand, unless the run is replaced. -/
def EndsAsListed (i : Invocation) (outcome : Outcome) : Prop :=
  ∀ status, outcome.exitStatus? = some status → status ∈ Guide.statuses i.command.name

variable {w : World} {i : Invocation}

/-- What keeps the image from being replaced is listed for the subcommand that replaces it. -/
theorem Replacing.exitStatus_mem {r : Request} {previous sigpipe : Disposition} {f : Failure}
    {left : Errno} {made : List Effect} (h : Replacing w r previous left (.error f) made sigpipe)
    (o : Overrides) :
    f.exitStatus ∈ Guide.statuses (Command.run o).name := by
  rw [Guide.statuses_name]
  cases h with
  | unfit hargv =>
    have hnot : ¬r.Fit := fun hfit => by
      rw [Request.rawArgv_of_fit hfit] at hargv
      cases hargv
    obtain ⟨argument, reason, hrefused⟩ := Request.rawArgv_of_not_fit hnot
    cases hargv.symm.trans hrefused
    simp [Failure.exitStatus]
  | missed =>
    rw [Failure.exitStatus_ofErrno]
    split_ifs <;> simp

/-- What keeps a command from reporting is listed for its subcommand. -/
theorem Reporting.exitStatus_mem {configured : Request} {command : Command} {f : Failure}
    (h : Reporting w configured command (.error f)) :
    f.exitStatus ∈ Guide.statuses command.name := by
  generalize hresult : Except.error f = result at h
  cases h with
  | pid => cases hresult
  | resolve program =>
    rw [Guide.statuses_name]
    obtain h | h | ⟨h, -⟩ := Search.exitStatus_of_report hresult.symm <;> simp [h]
  | help subcommand =>
    have htwo : f.exitStatus = 2 := by
      unfold Guide.report at hresult
      split at hresult
      · cases hresult
      · split at hresult <;> cases hresult
        rfl
    rw [htwo]
    exact Guide.two_mem_statuses _

/-- Whatever a command fails with is listed for its subcommand. -/
theorem Course.exitStatus_mem {calls : Nat} {previous : Disposition} {f : Failure}
    {made : List Effect} (h : Course w i calls previous (.error f) made) :
    f.exitStatus ∈ Guide.statuses i.command.name := by
  -- Only a replacement and a search can fail with a status other than 2.
  generalize hresult : Except.error f = result at h
  cases h with
  | unconfigured hload =>
    cases hresult
    rw [Config.exitStatus_of_load hload]
    exact Guide.two_mem_statuses _
  | unannounced _ _ h =>
    cases hresult
    rw [h.exitStatus_eq]
    exact Guide.two_mem_statuses _
  | @announced _ o result _ _ _ _ hrun _ _ h =>
    cases result <;> cases hresult
    rw [hrun]
    exact h.exitStatus_mem o
  | unreported _ h =>
    cases hresult
    exact h.exitStatus_mem
  | reported => cases hresult

theorem reportsTaken_of_acceptsOutput (hw : w.AcceptsOutput) (i : Invocation) :
    ReportsTaken w i := ⟨fun _ _ _ _ => hw _, fun _ _ _ _ _ _ _ => hw _⟩

/-- A result is listed as a success, but for that of a search, which finds its program. -/
theorem Reporting.zero_mem_or_findsProgram {configured : Request} {value : Json}
    (hload : Config.load w.fs i.config = .ok configured)
    (h : Reporting w configured i.command (.ok value)) :
    0 ∈ Guide.statuses i.command.name ∨ FindsProgram w i := by
  generalize hcommand : i.command = command at h
  generalize hresult : Except.ok value = result at h
  cases h with
  | pid => exact .inl (by simp [Guide.statuses_name])
  | resolve program =>
    have hreported := Search.reported_resolve w.fs (program.getD configured.program) w.searchPath
    obtain ⟨hx, text, hpath, -⟩ := (hreported.result_iff value).mp hresult.symm
    exact .inr ⟨program, configured, text, hcommand, hload, hx, hpath⟩
  | help => exact .inl (by simp [Guide.statuses_name])

/-- A search that does not find its program ends with the exit status of the failure. -/
theorem outcome_of_report_error {program : Option String} {configured : Request} {f : Failure}
    (hw : w.AcceptsOutput) (hcommand : i.command = .resolve program)
    (hload : Config.load w.fs i.config = .ok configured)
    (hreport : (Search.resolve w.fs (program.getD configured.program) w.searchPath).report =
      .error f) : (perform w i).outcome = .exited f.exitStatus := by
  have hrun := runOn_dispatch_resolve (opening w i) hcommand hload
  rw [hreport] at hrun
  exact (reportsTaken_of_acceptsOutput hw i).outcome_of_failed hrun

/-- A search that finds its program is a success. -/
theorem FindsProgram.outcome_eq (h : FindsProgram w i) (hw : w.AcceptsOutput) :
    (perform w i).outcome = .exited 0 := by
  obtain ⟨program, configured, text, hcommand, hload, hx, hpath⟩ := h
  have hreported := Search.reported_resolve w.fs (program.getD configured.program) w.searchPath
  have hreport := (hreported.result_iff _).mpr ⟨hx, text, hpath, rfl⟩
  have hrun := runOn_dispatch_resolve (opening w i) hcommand hload
  rw [hreport] at hrun
  exact (perform_of_result hw hrun).1

/-- Success is not listed for a search. -/
theorem FindsProgram.zero_notMem (h : FindsProgram w i) :
    0 ∉ Guide.statuses i.command.name := by
  obtain ⟨program, configured, text, hcommand, -⟩ := h
  rw [hcommand, Guide.statuses_name]
  simp

/-- A run that does not find a program it was asked for ends as listed. -/
theorem endsAsListed_perform (hw : w.AcceptsOutput) (h : ¬FindsProgram w i) :
    EndsAsListed i (perform w i).outcome := by
  intro status hstatus
  rcases hrun : (dispatch w i).runOn (opening w i) with ⟨f | image | value, j⟩
  · obtain ⟨made, -, hcourse⟩ := course_of_runOn hrun
    rw [(reportsTaken_of_acceptsOutput hw i).outcome_of_failed hrun] at hstatus
    cases hstatus
    exact hcourse.exitStatus_mem
  · rw [(perform_of_replaced hrun).1] at hstatus
    cases hstatus
  · obtain ⟨made, -, hcourse⟩ := course_of_runOn hrun
    obtain ⟨configured, hload, hreporting⟩ := hcourse.reporting
    rw [(perform_of_result hw hrun).1] at hstatus
    cases hstatus
    exact (hreporting.zero_mem_or_findsProgram hload).resolve_right h

/-- A run whose command line is understood ends with an exit status that the guide lists for its
subcommand exactly when it was not asked for a program that it finds; and when it was, it ends with
status 0. -/
theorem endsAsListed_session_iff {words : List Bytes}
    (hparse : CommandLine.parse (w.value? CommandLine.configVariable) words = .ok i)
    (hw : w.AcceptsOutput) :
    (EndsAsListed i (session w words).outcome ↔ ¬FindsProgram w i) ∧
      (FindsProgram w i → (session w words).outcome = .exited 0) := by
  rw [session_of_parse hparse]
  refine ⟨⟨fun hlisted hfinds => ?_, endsAsListed_perform hw⟩, fun hfinds => hfinds.outcome_eq hw⟩
  have hzero := hlisted 0
  rw [hfinds.outcome_eq hw] at hzero
  exact hfinds.zero_notMem (hzero rfl)

/-- A command line that asks where a program is. -/
def whereIs (program : String) : List Bytes :=
  ["resolve", "--program", program].map Bytes.ofString

/-- What such a command line asks for. -/
def searchFor (program : String) : Invocation := { named := some (.resolve (some program)) }

/-- A run that is asked for a program that is not there does not find it. It ends with status 127,
and that is listed. -/
theorem endsAsListed_of_missing_program :
    ¬FindsProgram (.ofFiles {} Path.dot) (searchFor "/t") ∧
      (session (.ofFiles {} Path.dot) (whereIs "/t")).outcome = .exited 127 ∧
      EndsAsListed (searchFor "/t") (session (.ofFiles {} Path.dot) (whereIs "/t")).outcome := by
  have hparse : CommandLine.parse ((World.ofFiles {} Path.dot).value? CommandLine.configVariable)
      (whereIs "/t") = .ok (searchFor "/t") := by rfl
  have hpath : (World.ofFiles {} Path.dot).searchPath = some Path.dot := by decide
  have hreport : (Search.resolve {} ((some "/t").getD "pwd")
      (World.ofFiles {} Path.dot).searchPath).report = .error (.programNotFound "/t" .enoent) := by
    rw [Option.getD_some, hpath, report_empty]
  have houtcome : (perform (.ofFiles {} Path.dot) (searchFor "/t")).outcome = .exited 127 :=
    outcome_of_report_error (w := .ofFiles {} Path.dot) (i := searchFor "/t") (fun _ => rfl)
      rfl rfl hreport
  have hmissing : ¬FindsProgram (.ofFiles {} Path.dot) (searchFor "/t") := by
    intro hfinds
    have hzero := hfinds.outcome_eq fun _ => rfl
    rw [houtcome] at hzero
    exact absurd hzero (by decide)
  exact ⟨hmissing, houtcome, (endsAsListed_session_iff hparse fun _ => rfl).1.mpr hmissing⟩

/-- In a directory with one program a run is asked where that is, and finds it. The exit status of
that run is not listed. -/
theorem not_endsAsListed_of_lonelyFile :
    (session (.ofFiles lonelyFile Path.dot) (whereIs "t")).outcome = .exited 0 ∧
      Guide.statuses "resolve" = [1, 2, 126, 127] ∧
      ¬EndsAsListed (searchFor "t")
        (session (.ofFiles lonelyFile Path.dot) (whereIs "t")).outcome := by
  have hcandidates : Search.candidates (Bytes.ofString "t") (some Path.dot) =
      [] ++ [0x2e, 0x2f, 0x74] :: [] := by decide
  have hx : Search.isExecutable lonelyFile [0x2e, 0x2f, 0x74] = true :=
    (Search.isExecutable_iff (by decide)).mpr ⟨_, _, lookup_lonelyFile, by decide⟩
  obtain ⟨hpath, hexecutable⟩ := Search.resolve_of_executable hcandidates nofun hx
  have hfinds : FindsProgram (.ofFiles lonelyFile Path.dot) (searchFor "t") :=
    ⟨some "t", {}, "./t", rfl, rfl, hexecutable, hpath⟩
  have houtcome : (session (.ofFiles lonelyFile Path.dot) (whereIs "t")).outcome = .exited 0 :=
    hfinds.outcome_eq fun _ => rfl
  refine ⟨houtcome, rfl, fun hlisted => ?_⟩
  rw [houtcome] at hlisted
  exact hfinds.zero_notMem (hlisted 0 rfl)

end Run

end ImageSwap
