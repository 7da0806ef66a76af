import ImageSwap.Proofs.PathSearch
import ImageSwap.Run.Replace

/-!
# What a replacement comes to

A request is fit for the system when it names a program and holds no zero character. Replacing the
image yields what the system's search for the program yields, and refuses a request that is not fit
without asking the system. All that counts of what the run has done before is the error number that
it was left with. Announcing the process first changes nothing about this as long as standard output
takes everything, but looking the program up for the log may leave another number.
-/

namespace ImageSwap

namespace Request

/-- Whether the system can take a request: it names a program, and no text in it holds a zero
character. -/
def Fit (r : Request) : Prop :=
  r.program ≠ "" ∧ ∀ arg ∈ r.argv, '\x00' ∉ arg.toList

theorem rawArgv_of_fit {r : Request} (h : r.Fit) :
    r.rawArgv = .ok (r.argv.map Bytes.ofString) := by
  have hnone : r.argv.find? (·.toList.contains '\x00') = none := by
    simpa using h.2
  rw [rawArgv, if_neg h.1, hnone]

/-- A request that is not fit is refused before the system is asked, with exit status 2. -/
theorem rawArgv_of_not_fit {r : Request} (h : ¬r.Fit) :
    ∃ argument reason, r.rawArgv = .error (.invalidArgument argument reason) := by
  rw [rawArgv]
  by_cases hempty : r.program = ""
  · exact ⟨_, _, if_pos hempty⟩
  · rw [if_neg hempty]
    cases hfind : r.argv.find? (·.toList.contains '\x00') with
    | some arg => exact ⟨_, _, rfl⟩
    | none => exact absurd ⟨hempty, by simpa using hfind⟩ h

end Request

namespace Run

/-- Standard output takes every write and every flush. -/
def World.AcceptsOutput (w : World) : Prop := ∀ n, w.refusal n = none

/-- What becomes of a record that the log is handed only if it asks for its like. -/
def asked (filter : Log.Filter) (record : Log.Record) : List Effect :=
  if filter.asksFor record.level record.target then [.log record] else []

/-- The error number that a call for a new image finds in a run with a log, which leaves another
than the one from before when it has the program looked up. -/
def World.callErrno (w : World) (filter : Log.Filter) (before : Errno) : Errno :=
  if filter.asksFor .debug runTarget then w.lookupErrno else before

namespace Act

variable {α β : Type} (j : Journal)

/-- What a part of a run yields after a journal, and the journal after it. -/
def runOn (act : Act α) (j : Journal) : Except Failure α × Journal := act.run.run j

/-- What a part of a run yields after a journal. -/
def result (act : Act α) (j : Journal) : Except Failure α := (act.runOn j).1

@[simp] theorem runOn_pure (a : α) : (pure a : Act α).runOn j = (.ok a, j) := rfl

@[simp] theorem runOn_throw (f : Failure) : (throw f : Act α).runOn j = (.error f, j) := rfl

@[simp] theorem runOn_bind (act : Act α) (next : α → Act β) :
    (act >>= next).runOn j =
      match act.runOn j with
      | (.ok a, j) => (next a).runOn j
      | (.error f, j) => (.error f, j) := by
  simp only [runOn, ExceptT.run_bind, StateT.run_bind]
  rcases act.run.run j with ⟨_ | _, _⟩ <;> rfl

@[simp] theorem runOn_map (f : α → β) (act : Act α) :
    (f <$> act).runOn j = ((act.runOn j).1.map f, (act.runOn j).2) := by
  rw [← bind_pure_comp, runOn_bind]
  rcases act.runOn j with ⟨_ | _, _⟩ <;> rfl

@[simp] theorem runOn_get : (get : Act Journal).runOn j = (.ok j, j) := rfl

@[simp] theorem runOn_set (j' : Journal) : (set j' : Act Unit).runOn j = (.ok (), j') := rfl

@[simp] theorem runOn_ofExcept (x : Except Failure α) : (ofExcept x).runOn j = (x, j) := rfl

@[simp] theorem runOn_note (effect : Effect) :
    (note effect).runOn j = (.ok (), { j with effects := j.effects ++ [effect] }) := rfl

@[simp] theorem runOn_call (answer : Errno → Except Errno α) :
    (call answer).runOn j = (.ok (answer j.errno),
      { j with
        errno := match answer j.errno with
          | .ok _ => j.errno
          | .error errno => errno }) := by
  simp only [call, runOn_bind, runOn_get]
  cases answer j.errno <;> rfl

@[simp] theorem runOn_setSigpipe (disposition : Disposition) :
    (setSigpipe disposition).runOn j = (.ok j.sigpipe,
      { j with
        effects := j.effects ++ [.setSigpipe disposition]
        sigpipe := disposition }) := rfl

end Act

/-- Replacing the image yields what the system's search for the program yields. -/
theorem result_replaceImage (w : World) (r : Request) (j : Journal) :
    (replaceImage w r).result j = r.rawArgv.bind fun argv =>
      (Exec.search w.fs w.searchPath j.errno (Bytes.ofString r.program) argv).mapError
        (Failure.ofErrno r.program) := by
  cases hargv : r.rawArgv with
  | error f => simp [replaceImage, Act.result, hargv, Except.bind]
  | ok argv =>
    simp only [Except.bind]
    cases hsearch : Exec.search w.fs w.searchPath j.errno (Bytes.ofString r.program) argv <;>
      simp [replaceImage, Act.result, Act.log, hargv, hsearch]

theorem result_replaceImage_of_fit (w : World) {r : Request} (h : r.Fit) (j : Journal) :
    (replaceImage w r).result j =
      (Exec.search w.fs w.searchPath j.errno (Bytes.ofString r.program)
        (r.argv.map Bytes.ofString)).mapError (Failure.ofErrno r.program) := by
  rw [result_replaceImage, Request.rawArgv_of_fit h]
  rfl

end Run

end ImageSwap
