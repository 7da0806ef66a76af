import ImageSwap.Exec.Loader
import ImageSwap.Proofs.PathLookup
import ImageSwap.Proofs.Results

/-!
# Loading and failing to load

A path that leads nowhere, or to anything but an executable regular file, cannot be loaded and fails
as its lookup did or as a refusal. What is loaded was asked for by the file at the path, also when
an interpreter or the shell runs it.
-/

namespace ImageSwap

namespace Exec

variable {fs : FileSystem} {path : Bytes} {argv : List Bytes} {errno : Errno}

/-! ### Opening -/

theorem openExecutable_of_lookup_error (h : fs.lookup path = .error errno) :
    openExecutable fs path = .error errno :=
  except_bind_eq_error_iff.mpr (.inl h)

theorem openExecutable_of_not_executable {place : Location} {entry : Entry}
    (h : fs.lookup path = .ok (place, entry)) (hx : entry.isExecutable = false) :
    openExecutable fs path = .error .eacces := by
  refine except_bind_eq_error_iff.mpr (.inr ⟨_, h, ?_⟩)
  cases entry <;> simp [hx]

theorem openExecutable_of_executable {place : Location} {entry : Entry}
    (h : fs.lookup path = .ok (place, entry)) (hx : entry.isExecutable = true) :
    ∃ content, openExecutable fs path = .ok (place, content) := by
  cases entry with
  | file mode content => exact ⟨content, except_bind_eq_ok_iff.mpr ⟨_, h, by simp [hx]⟩⟩
  | _ => simp [Entry.isExecutable] at hx

/-- What opens is an executable regular file at the path. -/
theorem lookup_of_openExecutable {place : Location} {content : Content}
    (h : openExecutable fs path = .ok (place, content)) :
    ∃ entry, fs.lookup path = .ok (place, entry) ∧ entry.isExecutable = true := by
  obtain ⟨⟨there, entry⟩, hfound, -⟩ := except_bind_eq_ok_iff.mp h
  by_cases hx : entry.isExecutable = true
  · obtain ⟨other, hopen⟩ := openExecutable_of_executable hfound hx
    rw [h, Except.ok.injEq, Prod.mk.injEq] at hopen
    exact ⟨entry, hopen.1 ▸ hfound, hx⟩
  · rw [openExecutable_of_not_executable hfound (by simpa using hx)] at h
    cases h

/-! ### The ways to fail -/

/-- The ways in which loading a program can fail. -/
def faults : List Errno := FileSystem.lookupFaults ++ [.eacces, .e2big, .enoexec]

/-- A path that cannot be opened cannot be loaded, and the shell is not asked. -/
theorem loadOrInterpret_of_open_error (hne : errno ≠ .enoexec)
    (h : openExecutable fs path = .error errno) :
    loadOrInterpret fs path argv = .error errno := by
  have hload : load fs path argv = .error errno := except_bind_eq_error_iff.mpr (.inl h)
  simp only [loadOrInterpret, hload, if_neg hne]

theorem loadOrInterpret_of_lookup_error (h : fs.lookup path = .error errno) :
    loadOrInterpret fs path argv = .error errno := by
  refine loadOrInterpret_of_open_error ?_ (openExecutable_of_lookup_error h)
  rintro rfl
  exact absurd (FileSystem.lookup_error h) (by decide)

theorem loadOrInterpret_of_not_executable {place : Location} {entry : Entry}
    (h : fs.lookup path = .ok (place, entry)) (hx : entry.isExecutable = false) :
    loadOrInterpret fs path argv = .error .eacces :=
  loadOrInterpret_of_open_error (by decide) (openExecutable_of_not_executable h hx)

theorem openExecutable_of_load {image : Image} (h : load fs path argv = .ok image) :
    ∃ content, openExecutable fs path = .ok (image.file, content) := by
  obtain ⟨⟨file, content⟩, hopen, h⟩ := except_bind_eq_ok_iff.mp h
  by_cases hlong : tooLong argv = true
  · simp only [if_pos hlong, reduceCtorEq] at h
  · simp only [if_neg hlong] at h
    obtain ⟨_, -, h⟩ := except_bind_eq_ok_iff.mp h
    cases h
    exact ⟨content, hopen⟩

/-- An image was asked for by the executable file that the path leads to. -/
theorem lookup_of_loadOrInterpret {image : Image} (h : loadOrInterpret fs path argv = .ok image) :
    ∃ entry, fs.lookup path = .ok (image.file, entry) ∧ entry.isExecutable = true := by
  suffices hopen : ∃ content, openExecutable fs path = .ok (image.file, content) by
    obtain ⟨content, hopen⟩ := hopen
    exact lookup_of_openExecutable hopen
  unfold loadOrInterpret at h
  split at h
  · next hload =>
    cases h
    exact openExecutable_of_load hload
  · split at h
    · obtain ⟨⟨file, content⟩, hopen, h⟩ := except_bind_eq_ok_iff.mp h
      obtain ⟨_, -, h⟩ := except_bind_eq_ok_iff.mp h
      cases h
      exact ⟨content, hopen⟩
    · cases h

end Exec

end ImageSwap
