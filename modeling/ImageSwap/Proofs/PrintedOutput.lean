import ImageSwap.Proofs.Courses
import ImageSwap.Proofs.JsonDocuments
import ImageSwap.Proofs.SearchAgreement

/-!
# What stands on the streams

Where the streams take everything, a run prints the line that announces the process, if it gets that
far, and then at most one more text: the report of its failure, the document with its result, or
what a new image writes. A program that reads standard output finds whole lines there, each of which
is read back as what it reports.
-/

namespace ImageSwap

/-- The numbers that processes have: those of 32 bits with a sign. -/
def ProcessId.InRange (p : ProcessId) : Prop :=
  Int32.minValue.toInt ≤ p.raw ∧ p.raw ≤ Int32.maxValue.toInt

theorem ProcessId.InRange.whole {p : ProcessId} (h : p.InRange) : Json.Whole p.raw := by
  have h : -2147483648 ≤ p.raw ∧ p.raw ≤ 2147483647 := h
  rw [Json.whole_iff]
  omega

section

open Json (FitsIn)

variable {depth : Nat} {value : Json}

theorem ProcessReport.fitsIn_toJson {r : ProcessReport} (hpid : r.pid.InRange)
    (hparent : r.parent.InRange) : FitsIn (depth + 1) r.toJson := by
  simp [toJson, hpid.whole, hparent.whole]

/-- A path that may be absent becomes null or a text. -/
theorem Resolution.eq_null_or_str_of_pathJson {path : Option Bytes}
    (h : pathJson path = .ok value) : value = .null ∨ ∃ s, value = .str s := by
  cases path with
  | none =>
    cases h
    exact .inl rfl
  | some path =>
    rw [pathJson] at h
    split at h
    · cases h
      exact .inr ⟨_, rfl⟩
    · cases h

theorem Resolution.fitsIn_of_pathJson {path : Option Bytes} (h : pathJson path = .ok value) :
    FitsIn depth value := by
  obtain rfl | ⟨s, rfl⟩ := eq_null_or_str_of_pathJson h
  · exact .null
  · exact .str

theorem Resolution.fitsIn_of_report {r : Resolution} (h : r.report = .ok value) :
    FitsIn (depth + 1) value := by
  obtain ⟨r, -, hjson⟩ := except_bind_eq_ok_iff.mp h
  obtain ⟨path, hpath, hvalue⟩ := except_bind_eq_ok_iff.mp hjson
  cases hvalue
  simp [fitsIn_of_pathJson hpath]

theorem Guide.fitsIn_of_report {subcommand : Option String}
    (h : report subcommand = .ok value) : FitsIn (depth + 3) value := by
  cases subcommand with
  | none =>
    cases h
    simp [Summary.toJson]
  | some name =>
    rw [report] at h
    split at h
    · cases h
      simp [Detail.toJson, Parameter.toJson, ExitCode.toJson]
    · cases h

end

/-- Every document that reports a result is read back, for whomever it is printed. -/
theorem OutputFormat.decode_document {value : Json} (h : value.FitsIn Json.nestingLimit)
    (format : OutputFormat) : Json.decode (format.document value) = .ok value.sorted := by
  cases format with
  | json => exact Json.decode_compact h.sorted ['\n'] rfl
  | human => exact Json.decode_indented h.sorted ['\n'] rfl

namespace Run

open CommandLine (Invocation)

/-- The line that a run prints before it replaces the image, if its config lets it get that far. -/
def announcement (w : World) (i : Invocation) : String :=
  match i.command, Config.load w.fs i.config with
  | .run _, .ok _ => i.output.banner w.report
  | _, _ => ""

/-- A text is a single line, which is read as a value. -/
def IsLine (text : String) (value : Json) : Prop :=
  ∃ line, text = line ++ "\n" ∧ '\n' ∉ line.toList ∧ Json.decode line = .ok value

/-- What a run has left behind that has ended with a failure, after its announcement. -/
structure ReportsFailure (format : OutputFormat) (f : Failure) (announced : String)
    (done : Completion) : Prop where
  ending : done.ending = .exit f.exitStatus
  exitStatus_ne_zero : f.exitStatus ≠ 0
  human : format = .human → done.stdout = Bytes.ofString announced ∧
    Bytes.ofString s!"error: {f.message}\n" <:+ done.stderr
  json : format = .json → ∃ text, done.stdout = Bytes.ofString (announced ++ text) ∧
    IsLine text (.obj [("error", .str f.message), ("exit_code", .int f.exitStatus.toNat)])

/-- What a run has left behind, given what its command has come to. -/
structure FollowsProtocol (w : World) (i : Invocation) (stdin : Bytes) (done : Completion) :
    Prop where
  /-- The command to run announces the process once the config is loaded. -/
  announced : ∀ o configured, i.command = .run o → Config.load w.fs i.config = .ok configured →
    Announces w i.output (announcement w i) ∧
      (i.output = .json → IsLine (announcement w i) w.report.toJson)
  /-- Nothing else is announced. -/
  unannounced : (∀ o configured, i.command = .run o →
    Config.load w.fs i.config ≠ .ok configured) → announcement w i = ""
  failed : ∀ f, (dispatch w i).result (opening w i) = .error f →
    ReportsFailure i.output f (announcement w i) done
  replaced : ∀ image, (dispatch w i).result (opening w i) = .ok (.replaced image) →
    done.stdout = Bytes.ofString (announcement w i) ++
      (image.start { fs := w.fs, pid := w.pid, stdin }).stdout
  reported : ∀ value, (dispatch w i).result (opening w i) = .ok (.result value) →
    done.ending = .exit 0 ∧ done.stdout = Bytes.ofString (i.output.document value) ∧
      Json.decode (i.output.document value) = .ok value.sorted

/-- What effects add to standard output. -/
def printed (effects : List Effect) : String := String.join (effects.map Effect.onStdout)

@[simp] theorem printed_nil : printed [] = "" := rfl

@[simp] theorem printed_cons (effect : Effect) (effects : List Effect) :
    printed (effect :: effects) = effect.onStdout ++ printed effects := String.join_cons

@[simp] theorem printed_append (before after : List Effect) :
    printed (before ++ after) = printed before ++ printed after := by
  simp [printed, String.join_append]

/-- What is no deed adds nothing to standard output. -/
theorem printed_deeds (effects : List Effect) : printed (deeds effects) = printed effects := by
  induction effects with
  | nil => rfl
  | cons effect effects ih =>
    rw [deeds_cons, printed_cons, ← ih]
    split
    · rw [printed_cons]
    · next hword =>
      have hsilent : effect.onStdout = "" := by
        cases effect with
        | log => rfl
        | print stream =>
          cases stream with
          | stdout => exact absurd rfl hword
          | stderr => rfl
        | _ => rfl
      rw [hsilent, String.empty_append]

variable {w : World} {i : Invocation} {calls : Nat} {previous : Disposition}
variable {result : Except Failure Success} {made : List Effect} {value : Json}

theorem isLine_compact (h : value.FitsIn Json.nestingLimit) :
    IsLine (value.compact ++ "\n") value := by
  have hdecode := Json.decode_compact h [] rfl
  rw [String.ofList_nil, String.append_empty] at hdecode
  refine ⟨value.compact, rfl, ?_, hdecode⟩
  rw [Json.compact, String.toList_ofList]
  exact Json.newline_notMem_compactChars h

theorem isLine_banner {format : OutputFormat} {r : ProcessReport} (hpid : r.pid.InRange)
    (hparent : r.parent.InRange) (hformat : format = .json) :
    IsLine (format.banner r) r.toJson := by
  subst hformat
  exact isLine_compact (ProcessReport.fitsIn_toJson hpid hparent)

theorem isLine_failure (format : OutputFormat) (hformat : format = .json) (f : Failure) :
    IsLine (format.failure f.exitStatus f.message).2
      (.obj [("error", .str f.message), ("exit_code", .int f.exitStatus.toNat)]) := by
  subst hformat
  exact isLine_compact (Json.fitsIn_obj_iff.mpr (by simp))

/-- Where everything is taken, a text is written and passed on. -/
theorem Delivery.eq_done {text : String} {result : Except Failure Unit} (hw : w.AcceptsOutput)
    (h : Delivery w text calls result made) :
    result = .ok () ∧ made = [.print .stdout text, .flush] := by
  cases h with
  | unwritten h => cases (hw _).symm.trans h
  | unflushed _ h => cases (hw _).symm.trans h
  | done => exact ⟨rfl, rfl⟩

theorem Replacing.printed_eq {r : Request} {result : Except Failure Image} {sigpipe : Disposition}
    {left : Errno} (h : Replacing w r previous left result made sigpipe) : printed made = "" := by
  cases h <;> rfl

theorem announcement_of_reporting {configured : Request} {result : Except Failure Json}
    (h : Reporting w configured i.command result) : announcement w i = "" := by
  unfold announcement
  cases hcommand : i.command with
  | run o => exact absurd hcommand (h.ne_run o)
  | _ => rfl

/-- Where everything is taken, the announcement is all that a command prints. -/
theorem Course.printed_eq (hw : w.AcceptsOutput) (h : Course w i calls previous result made) :
    printed made = announcement w i := by
  cases h with
  | unconfigured hload => simp [announcement, hload]
  | unannounced _ _ h => cases (h.eq_done hw).1
  | announced hload hrun _ _ h => simp [announcement, hload, hrun, h.printed_eq, Effect.onStdout]
  | unreported _ h => rw [announcement_of_reporting h, printed_nil]
  | reported _ h => rw [announcement_of_reporting h, printed_nil]

/-- A command with a result only reports, given what is configured. -/
theorem Course.reporting (h : Course w i calls previous (.ok (.result value)) made) :
    ∃ configured, Config.load w.fs i.config = .ok configured ∧
      Reporting w configured i.command (.ok value) := by
  generalize hresult : Except.ok (Success.result value) = result at h
  cases h with
  | @announced _ _ result => cases result <;> cases hresult
  | reported hload h =>
    cases hresult
    exact ⟨_, hload, h⟩
  | _ => cases hresult

/-- Every result is read back from its document. -/
theorem Reporting.fitsIn {configured : Request} {command : CommandLine.Command}
    (hpid : w.pid.InRange) (hparent : w.parent.InRange)
    (h : Reporting w configured command (.ok value)) : value.FitsIn Json.nestingLimit := by
  generalize hresult : Except.ok value = result at h
  cases h with
  | pid =>
    cases hresult
    exact ProcessReport.fitsIn_toJson hpid hparent
  | resolve => exact Resolution.fitsIn_of_report hresult.symm
  | help => exact Guide.fitsIn_of_report hresult.symm

/-- What a command has printed by the time it has come to something. -/
theorem printed_of_dispatch {j : Journal} (hw : w.AcceptsOutput)
    (h : (dispatch w i).runOn (opening w i) = (result, j)) :
    printed j.effects = announcement w i := by
  obtain ⟨made, hmade, hcourse⟩ := course_of_runOn h
  rw [deeds_opening, List.nil_append] at hmade
  rw [← printed_deeds, hmade, hcourse.printed_eq hw]

theorem complete_of_exited {t : Transcript} {status : UInt8} (h : t.outcome = .exited status)
    (w : World) (stdin : Bytes) :
    t.complete w stdin =
      { ending := .exit status
        stdout := Bytes.ofString (printed t.effects)
        stderr := Bytes.ofString (t.stderr w.now) } := by
  rw [Transcript.complete, h]
  rfl

/-- What is told last on the error stream stands at its end. -/
theorem suffix_stderr {t : Transcript} {before : List Effect} {text : String}
    (h : t.effects = before ++ [.print .stderr text]) (now : Timestamp) :
    Bytes.ofString text <:+ Bytes.ofString (t.stderr now) := by
  rw [Transcript.stderr, h, List.map_append, String.join_append, Bytes.ofString_append]
  refine List.suffix_append_of_suffix ?_
  rw [List.map_singleton, String.join_cons, String.join_nil, String.append_empty]
  exact List.suffix_rfl

theorem reportsFailure_of_failed {f : Failure} (hw : w.AcceptsOutput) (stdin : Bytes)
    (h : (dispatch w i).result (opening w i) = .error f) :
    ReportsFailure i.output f (announcement w i) ((perform w i).complete w stdin) := by
  obtain ⟨j, hrun⟩ := Act.exists_runOn h
  have hprinted := printed_of_dispatch hw hrun
  obtain ⟨record, closing, heffects, hconcluding⟩ := perform_of_failed hrun
  generalize houtcome : (perform w i).outcome = outcome at hconcluding
  cases hconcluding with
  | told hformat =>
    rw [complete_of_exited houtcome]
    refine ⟨rfl, f.exitStatus_ne_zero, fun _ => ⟨?_, ?_⟩, fun hjson => ?_⟩
    · simp [heffects, hprinted, Effect.onStdout]
    · have hlast : (perform w i).effects =
          (j.effects ++ [.log record]) ++ [.print .stderr s!"error: {f.message}\n"] := by
        rw [heffects, hformat, List.append_assoc]
        rfl
      exact suffix_stderr hlast w.now
    · cases hformat.symm.trans hjson
  | printed hformat =>
    rw [complete_of_exited houtcome]
    refine ⟨rfl, f.exitStatus_ne_zero, fun hhuman => ?_, fun _ => ?_⟩
    · cases hformat.symm.trans hhuman
    · exact ⟨_, by simp [heffects, hprinted, Effect.onStdout], isLine_failure _ hformat f⟩
  | silenced _ h => cases (hw _).symm.trans h

theorem stdout_of_replaced {image : Image} (hw : w.AcceptsOutput) (stdin : Bytes)
    (h : (dispatch w i).result (opening w i) = .ok (.replaced image)) :
    ((perform w i).complete w stdin).stdout = Bytes.ofString (announcement w i) ++
      (image.start { fs := w.fs, pid := w.pid, stdin }).stdout := by
  obtain ⟨j, hrun⟩ := Act.exists_runOn h
  obtain ⟨houtcome, heffects⟩ := perform_of_replaced hrun
  have hstdout : (perform w i).stdout = announcement w i := by
    rw [← printed_of_dispatch hw hrun, ← heffects]
    rfl
  simp only [Transcript.complete, houtcome, hstdout]

theorem reporting_of_result (h : (dispatch w i).result (opening w i) = .ok (.result value)) :
    ∃ configured, Reporting w configured i.command (.ok value) := by
  obtain ⟨j, hrun⟩ := Act.exists_runOn h
  obtain ⟨made, -, hcourse⟩ := course_of_runOn hrun
  obtain ⟨configured, -, hreporting⟩ := hcourse.reporting
  exact ⟨configured, hreporting⟩

/-- Where everything is taken, a result is printed, and the run is a success. -/
theorem perform_of_result {j : Journal} (hw : w.AcceptsOutput)
    (h : (dispatch w i).runOn (opening w i) = (.ok (.result value), j)) :
    (perform w i).outcome = .exited 0 ∧ (perform w i).effects =
      j.effects ++ [.print .stdout (i.output.document value), .flush] := by
  rcases hemit : (emit w i.output value).runOn j with ⟨result, after⟩
  obtain ⟨made, heffects, -, hdelivery⟩ := delivery_of_runOn hemit
  obtain ⟨rfl, rfl⟩ := hdelivery.eq_done hw
  obtain ⟨houtcome, hafter⟩ := perform_of_emitted h hemit
  exact ⟨houtcome, hafter.trans heffects⟩

theorem complete_of_result (hw : w.AcceptsOutput) (stdin : Bytes)
    (h : (dispatch w i).result (opening w i) = .ok (.result value)) :
    ((perform w i).complete w stdin).ending = .exit 0 ∧
      ((perform w i).complete w stdin).stdout = Bytes.ofString (i.output.document value) := by
  obtain ⟨j, hrun⟩ := Act.exists_runOn h
  obtain ⟨configured, hreporting⟩ := reporting_of_result h
  have hsilent := printed_of_dispatch hw hrun
  rw [announcement_of_reporting hreporting] at hsilent
  obtain ⟨houtcome, heffects⟩ := perform_of_result hw hrun
  rw [complete_of_exited houtcome]
  refine ⟨rfl, ?_⟩
  simp [heffects, hsilent, Effect.onStdout]

/-- Every run with a command line that is understood follows the protocol for its output, where the
streams take everything. -/
theorem followsProtocol_session {words : List Bytes}
    (hparse : CommandLine.parse (w.value? CommandLine.configVariable) words = .ok i)
    (hw : w.AcceptsOutput) (hpid : w.pid.InRange) (hparent : w.parent.InRange) (stdin : Bytes) :
    FollowsProtocol w i stdin ((session w words).complete w stdin) := by
  rw [session_of_parse hparse]
  refine ⟨fun o configured hrun hload => ?_, fun hnone => ?_, fun f h => ?_, fun image h => ?_,
    fun value h => ?_⟩
  · have hbanner : announcement w i = i.output.banner w.report := by
      simp only [announcement, hrun, hload]
    rw [hbanner]
    exact ⟨announces_banner w i.output, isLine_banner hpid hparent⟩
  · unfold announcement
    split
    · next o configured hrun hload => exact absurd hload (hnone o configured hrun)
    · rfl
  · exact reportsFailure_of_failed hw stdin h
  · exact stdout_of_replaced hw stdin h
  · obtain ⟨hending, hstdout⟩ := complete_of_result hw stdin h
    obtain ⟨configured, hreporting⟩ := reporting_of_result h
    exact ⟨hending, hstdout, OutputFormat.decode_document (hreporting.fitsIn hpid hparent) _⟩

/-- A command line that asks for JSON, and for a program without a name. -/
def namelessProgram : List Bytes :=
  ["--output", "json", "run", "--program", ""].map Bytes.ofString

/-- A run that asks for a program without a name announces the process all the same, and then
reports its failure on a line of its own. -/
theorem followsProtocol_namelessProgram :
    ((session (.ofFiles {} Path.dot) namelessProgram).complete (.ofFiles {} Path.dot) []).ending =
      .exit 2 ∧
    IsLine (OutputFormat.json.banner (World.ofFiles {} Path.dot).report)
      (World.ofFiles {} Path.dot).report.toJson ∧
    ∃ text,
      ((session (.ofFiles {} Path.dot) namelessProgram).complete (.ofFiles {} Path.dot) []).stdout =
        Bytes.ofString (OutputFormat.json.banner (World.ofFiles {} Path.dot).report ++ text) ∧
      IsLine text (.obj [("error", .str "Invalid argument \"\": program name is empty"),
        ("exit_code", .int 2)]) := by
  have hparse : CommandLine.parse ((World.ofFiles {} Path.dot).value? CommandLine.configVariable)
      namelessProgram =
        .ok { output := .json, named := some (.run { program := some "" }) } := by rfl
  have hprotocol := followsProtocol_session hparse (fun _ => rfl) ⟨by decide, by decide⟩
    ⟨by decide, by decide⟩ []
  have hfailure := hprotocol.failed (.invalidArgument "" "program name is empty") rfl
  exact ⟨hfailure.ending, (hprotocol.announced _ _ rfl rfl).2 rfl, hfailure.json rfl⟩

end Run

end ImageSwap
