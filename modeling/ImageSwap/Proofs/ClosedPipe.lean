import ImageSwap.Proofs.Courses
import ImageSwap.Proofs.ReportAgreement

/-!
# The setting for a closed pipe

A call for a new image changes what happens to the process at a closed pipe, for the sake of the
image. A call that fails puts the setting back, whether or not the system was asked, and so does any
row of failed calls; the image that is started at last finds the default.
-/

namespace ImageSwap.Run

namespace Replacing

variable {w : World} {r : Request} {previous sigpipe : Disposition} {left : Errno}
  {made : List Effect} {f : Failure}

theorem sigpipe_of_failed (h : Replacing w r previous left (.error f) made sigpipe) :
    sigpipe = previous := by
  cases h <;> rfl

theorem sigpipe_of_replaced {image : Image}
    (h : Replacing w r previous left (.ok image) made sigpipe) : sigpipe = .default := by
  cases h
  rfl

/-- A call that asks the system and fails does so with the system's error. -/
theorem failure_of_execute {file : Bytes} {argv : List Bytes}
    (h : Replacing w r previous left (.error f) made sigpipe)
    (hexecute : .execute file argv ∈ made) :
    ∃ errno, Exec.search w.fs w.searchPath left file argv = .error errno ∧
      f = .ofErrno r.program errno := by
  cases h with
  | unfit => cases hexecute
  | missed hargv hsearch =>
    simp only [List.mem_cons, reduceCtorEq, Effect.execute.injEq, List.not_mem_nil, or_false,
      false_or] at hexecute
    obtain ⟨rfl, rfl⟩ := hexecute
    exact ⟨_, hsearch, rfl⟩

end Replacing

/-- A row of calls for new images in one process, all of which fail, from one journal to another.
Each call may find another world. -/
inductive FailedCalls (start : Journal) : List Request → Journal → Prop where
  | nil : FailedCalls start [] start
  | snoc {requests : List Request} {before after : Journal} {w : World} {r : Request} {f : Failure}
    (h : FailedCalls start requests before)
    (hcall : (replaceImage w r).runOn before = (.error f, after)) :
    FailedCalls start (requests ++ [r]) after

/-- The setting after a row of failed calls is the one before it. -/
theorem FailedCalls.sigpipe_eq {start j : Journal} {requests : List Request}
    (h : FailedCalls start requests j) : j.sigpipe = start.sigpipe := by
  induction h with
  | nil => rfl
  | snoc _ hcall ih =>
    obtain ⟨made, -, -, hreplacing⟩ := replacing_of_runOn hcall
    exact hreplacing.sigpipe_of_failed.trans ih

/-- After any row of failed calls, a call that fails leaves the setting for a closed pipe as it was
before the call and before the row, and fails with the system's error if it asked the system; a call
that succeeds starts its image with the default setting. -/
theorem sigpipe_after_failedCalls {start j : Journal} {requests : List Request}
    (h : FailedCalls start requests j) (w : World) (r : Request) :
    match (replaceImage w r).runOn j with
    | (.error f, after) =>
      after.sigpipe = j.sigpipe ∧ after.sigpipe = start.sigpipe ∧
        ∃ made, after.effects = j.effects ++ made ∧
          ∀ file argv, .execute file argv ∈ made →
            ∃ errno, Exec.search w.fs w.searchPath j.errno file argv = .error errno ∧
              f = .ofErrno r.program errno
    | (.ok _, after) => after.sigpipe = .default := by
  rcases hcall : (replaceImage w r).runOn j with ⟨f | image, after⟩
  · obtain ⟨made, hmade, -, hreplacing⟩ := replacing_of_runOn hcall
    have hkept := hreplacing.sigpipe_of_failed
    refine ⟨hkept, hkept.trans h.sigpipe_eq, made, hmade, fun file argv hexecute => ?_⟩
    exact hreplacing.failure_of_execute (List.mem_filter.mpr ⟨hexecute, rfl⟩)
  · obtain ⟨made, -, -, hreplacing⟩ := replacing_of_runOn hcall
    exact hreplacing.sigpipe_of_replaced

/-- A file that can be started from the root is started. -/
private theorem search_lonelyFile (left : Errno) :
    Exec.search lonelyFile (some Path.dot) left (Bytes.ofString "/t") [Bytes.ofString "/t"] =
      .ok ⟨[[0x74]], .succeed, [Bytes.ofString "/t"]⟩ := by
  have hbytes : Bytes.ofString "/t" = [0x2f, 0x74] := by decide
  have hlookup : lonelyFile.lookup [0x2f, 0x74] =
      .ok ([[0x74]], .file 0o755 (.utility .succeed)) := by
    have hnames : Path.names [0x2f, 0x74] = [[0x74]] := by decide
    have hroot : lonelyFile.entry? [] = some .directory := rfl
    have hentry : lonelyFile.entry? [[0x74]] = some (.file 0o755 (.utility .succeed)) := rfl
    rw [FileSystem.lookup_of_fits (by decide) (by decide), hnames]
    simp [FileSystem.walk, hroot, hentry, Path.isAbsolute, Path.dot, Path.dotDot, Path.slash,
      Path.nameLimit]
  rw [hbytes, Exec.search, if_neg (by decide), if_pos (by decide)]
  simp [Exec.loadOrInterpret, Exec.load, Exec.openExecutable, hlookup, bind, Except.bind,
    Entry.isExecutable, Exec.tooLong, Exec.loadContent, Exec.argumentLimit, Exec.argumentsLimit]

/-- A request without a program is refused, one for a program that is missing fails, and once the
program is there it starts with the default setting. -/
theorem sigpipe_after_missing_program :
    ∃ j, FailedCalls {} [⟨"", []⟩, ⟨"/t", []⟩] j ∧ ∃ image after,
      (replaceImage (.ofFiles lonelyFile Path.dot) ⟨"/t", []⟩).runOn j = (.ok image, after) ∧
        after.sigpipe = .default := by
  have hunfit : (replaceImage (.ofFiles {} Path.dot) ⟨"", []⟩).runOn {} =
      (.error (.invalidArgument "" "program name is empty"), {}) := rfl
  have hmissed : ∃ after, (replaceImage (.ofFiles {} Path.dot) ⟨"/t", []⟩).runOn {} =
      (.error (.programNotFound "/t" .enoent), after) := by
    have hload (argv : List Bytes) : Exec.loadOrInterpret {} (Bytes.ofString "/t") argv =
        .error .enoent :=
      Exec.loadOrInterpret_of_lookup_error lookup_empty
    refine ⟨_, Prod.ext ((result_replaceImage_of_fit _ ⟨by decide, by decide⟩ {}).trans ?_) rfl⟩
    rw [Exec.search, if_neg (by decide), if_pos (by decide), World.ofFiles, hload]
    rfl
  have hstarted (j : Journal) : ∃ after,
      (replaceImage (.ofFiles lonelyFile Path.dot) ⟨"/t", []⟩).runOn j =
        (.ok ⟨[[0x74]], .succeed, [Bytes.ofString "/t"]⟩, after) := by
    refine ⟨_, Prod.ext ((result_replaceImage_of_fit _ ⟨by decide, by decide⟩ j).trans ?_) rfl⟩
    exact congrArg _ (search_lonelyFile j.errno)
  obtain ⟨j, hmissed⟩ := hmissed
  obtain ⟨after, hstarted⟩ := hstarted j
  have hrow := (FailedCalls.nil.snoc hunfit).snoc hmissed
  have h := sigpipe_after_failedCalls hrow (.ofFiles lonelyFile Path.dot) ⟨"/t", []⟩
  rw [hstarted] at h
  exact ⟨j, hrow, _, after, hstarted, h⟩

end ImageSwap.Run
