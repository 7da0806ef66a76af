import ImageSwap.Proofs.SearchAgreement

/-!
# When a run fails as was reported

A report of a resolution fails when the program cannot run, or when its path has no JSON form. A run
that asks for the same program fails with the same exit status only if its request is as sound as
the report takes it to be, and if the system goes on after every path it tries. Where the system has
no path to try, all depends on the error number that the run was left with before.
-/

namespace ImageSwap

namespace Failure

/-- The exit status of a failed replacement tells what the system's error was. -/
theorem exitStatus_ofErrno (program : String) (errno : Errno) :
    (ofErrno program errno).exitStatus =
      if errno = .enoent ∨ errno = .enotdir then 127
      else if errno = .eacces ∨ errno = .eperm then 126 else 1 := by
  unfold ofErrno
  split_ifs <;> rfl

theorem exitStatus_ofErrno_ne_two (program : String) (errno : Errno) :
    (ofErrno program errno).exitStatus ≠ 2 := by
  rw [exitStatus_ofErrno]
  split_ifs <;> decide

end Failure

namespace Exec

variable {fs : FileSystem} {argv : List Bytes} {path : Bytes}

/-- The search goes on after no path that is too long. -/
theorem PassedOver.length_lt (h : PassedOver fs argv path) : path.length < Path.lengthLimit := by
  by_contra hl
  obtain ⟨errno, herror, hgo⟩ := h
  rw [loadOrInterpret_of_lookup_error (FileSystem.lookup_of_limit_le (Nat.not_lt.mp hl))] at herror
  cases herror
  cases hgo

end Exec

namespace Search

open Exec (attempts PassedOver loadOrInterpret fileNameLimit)

variable {fs : FileSystem} {searchPath : Option Bytes}

/-- A resolution that stands for a refusal has found something that is not executable. -/
theorem exists_candidate_of_refused {program : String} {path : Bytes}
    (hpath : (resolve fs program searchPath).path = some path)
    (hx : (resolve fs program searchPath).executable = false) :
    path ∈ candidates (Bytes.ofString program) searchPath ∧
      ∃ place entry, fs.lookup path = .ok (place, entry) ∧ entry.isExecutable = false := by
  have hnone : ∀ p ∈ candidates (Bytes.ofString program) searchPath,
      ¬isExecutable fs p = true := by
    intro p hp hp'
    obtain ⟨c, hc⟩ := Option.isSome_iff_exists.mp (List.find?_isSome.mpr ⟨p, hp, hp'⟩)
    rw [resolve, choose, hc, Option.some_or] at hx
    exact absurd (List.find?_some hc) (by simpa using hx)
  rw [(resolve_of_not_executable hnone).1] at hpath
  have hmem := List.mem_of_find?_eq_some hpath
  have hsome : (fs.stat? path).isSome = true := by simpa using List.find?_some hpath
  obtain ⟨entry, hstat⟩ := Option.isSome_iff_exists.mp hsome
  have hzero := FileSystem.zero_notMem_of_stat? hstat
  obtain ⟨place, hfound⟩ := (FileSystem.stat?_eq_some_iff hzero).mp hstat
  refine ⟨hmem, place, entry, hfound, ?_⟩
  by_contra hentry
  exact hnone path hmem ((isExecutable_iff hzero).mpr ⟨place, entry, hfound, by simpa using hentry⟩)

/-- A report fails with exit status 2, because its path is not text, with 126, because what was
found is not executable, or with 127, because nothing was found. -/
theorem exitStatus_of_report {program : String} {f : Failure}
    (h : (resolve fs program searchPath).report = .error f) :
    f.exitStatus = 2 ∨ f.exitStatus = 127 ∨ f.exitStatus = 126 ∧
      ∃ path ∈ candidates (Bytes.ofString program) searchPath,
        ∃ place entry, fs.lookup path = .ok (place, entry) ∧ entry.isExecutable = false := by
  rcases except_bind_eq_error_iff.mp h with h | ⟨r, -, h⟩
  · unfold Resolution.toResult at h
    split at h
    · cases h
    · next path hpath hx =>
      cases h
      obtain ⟨hmem, hfound⟩ := exists_candidate_of_refused hpath hx
      exact .inr (.inr ⟨rfl, path, hmem, hfound⟩)
    · cases h
      exact .inr (.inl rfl)
  · left
    rcases except_bind_eq_error_iff.mp h with h | ⟨_, -, h⟩
    · unfold Resolution.pathJson at h
      split at h
      · cases h
      · split at h
        · cases h
        · cases h
          rfl
    · cases h

/-- A program is reported missing when nothing is seen at any candidate. -/
theorem report_of_missing {program : String}
    (h : ∀ p ∈ candidates (Bytes.ofString program) searchPath, fs.stat? p = none) :
    (resolve fs program searchPath).report = .error (.programNotFound program .enoent) := by
  have hx : ∀ p ∈ candidates (Bytes.ofString program) searchPath, ¬isExecutable fs p = true := by
    intro p hp
    simp [isExecutable, h p hp]
  have hpath : (resolve fs program searchPath).path = none := by
    rw [(resolve_of_not_executable hx).1, List.find?_eq_none]
    intro p hp
    simp [h p hp]
  refine except_bind_eq_error_iff.mpr (.inl ?_)
  simp only [Resolution.toResult, hpath, resolve_program]

end Search

namespace Run

open Exec (attempts PassedOver Missing TriesNothing loadOrInterpret fileNameLimit)

variable {left : Errno}

theorem lookup_empty : FileSystem.lookup {} [0x2f, 0x74] = .error .enoent := by
  have hnames : Path.names [0x2f, 0x74] = [[0x74]] := by decide
  rw [FileSystem.lookup_of_fits (by decide) (by decide), hnames]
  simp [FileSystem.walk, FileSystem.entry?, Path.isAbsolute, Path.dot, Path.dotDot, Path.slash,
    Path.nameLimit]

theorem report_empty : (Search.resolve {} "/t" (some Path.dot)).report =
    .error (.programNotFound "/t" .enoent) := by
  have hcandidates : Search.candidates (Bytes.ofString "/t") (some Path.dot) = [[0x2f, 0x74]] := by
    decide
  refine Search.report_of_missing ?_
  rw [hcandidates, List.forall_mem_singleton]
  exact (FileSystem.stat?_eq_none_iff (by decide)).mpr ⟨_, lookup_empty⟩

end Run

end ImageSwap
