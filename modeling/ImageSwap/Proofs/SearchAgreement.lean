import ImageSwap.Proofs.Replacement

/-!
# What a search foretells of a replacement

A mere search looks at its candidates, the system loads the paths it tries. Entry by entry the two
see the same file, since they differ at most in a slash, until a path is too long for the system:
such a path ends its search. As long as the candidates are there or missing, a resolution hence
foretells what a replacement comes to exactly when no path that the system tries is too long, or an
executable file comes before the first that is.
-/

namespace ImageSwap

/-- What stands in a part of a list stands in the list. -/
theorem Text.mem_of_mem_split {α : Type} [DecidableEq α] {separator x : α} {xs part : List α}
    (hpart : part ∈ split separator xs) (hx : x ∈ part) : x ∈ xs := by
  induction xs generalizing part with
  | nil =>
    rw [split, List.mem_singleton] at hpart
    rwa [hpart] at hx
  | cons y ys ih =>
    rw [split] at hpart
    split at hpart
    · rcases List.mem_cons.mp hpart with rfl | hpart
      · cases hx
      · exact List.mem_cons_of_mem _ (ih hpart hx)
    · cases hys : split separator ys with
      | nil => exact absurd hys (split_ne_nil separator ys)
      | cons first rest =>
        rw [hys] at hpart ih
        rcases List.mem_cons.mp hpart with rfl | hpart
        · rcases List.mem_cons.mp hx with rfl | hx
          · exact List.mem_cons_self
          · exact List.mem_cons_of_mem _ (ih List.mem_cons_self hx)
        · exact List.mem_cons_of_mem _ (ih (List.mem_cons_of_mem _ hpart) hx)

/-- Looking up a path finds something, or finds that nothing is there. -/
def FileSystem.Decides (fs : FileSystem) (path : Bytes) : Prop :=
  ∀ errno, fs.lookup path = .error errno → errno = .enoent ∨ errno = .enotdir

/-- A path that a lookup decides is short enough for the system. -/
theorem FileSystem.Decides.length_lt {fs : FileSystem} {path : Bytes} (h : fs.Decides path) :
    path.length < Path.lengthLimit := by
  by_contra hl
  rcases h _ (lookup_of_limit_le (Nat.not_lt.mp hl)) with h | h <;> cases h

namespace Search

variable {fs : FileSystem}

/-- A path without zeros is executable where its lookup finds an executable file. -/
theorem isExecutable_iff {path : Bytes} (h : 0 ∉ path) :
    isExecutable fs path = true ↔
      ∃ place entry, fs.lookup path = .ok (place, entry) ∧ entry.isExecutable = true := by
  simp only [isExecutable, Option.any_eq_true, FileSystem.stat?_eq_some_iff h]
  constructor
  · rintro ⟨entry, ⟨place, hfound⟩, hx⟩
    exact ⟨place, entry, hfound, hx⟩
  · rintro ⟨place, entry, hfound, hx⟩
    exact ⟨entry, ⟨place, hfound⟩, hx⟩

/-- A path where nothing executable is found is passed over: it is refused if something is there,
else it is missing. -/
theorem loadOrInterpret_of_not_isExecutable {path : Bytes} {argv : List Bytes} (hnul : 0 ∉ path)
    (hdecides : fs.Decides path) (hx : ¬isExecutable fs path = true) :
    ∃ errno, Exec.loadOrInterpret fs path argv = .error errno ∧
      ((fs.stat? path).isSome = true ∧ errno = .eacces ∨
        fs.stat? path = none ∧ (errno = .enoent ∨ errno = .enotdir)) := by
  cases hfound : fs.lookup path with
  | error errno =>
    have hstat : fs.stat? path = none := (FileSystem.stat?_eq_none_iff hnul).mpr ⟨errno, hfound⟩
    exact ⟨errno, Exec.loadOrInterpret_of_lookup_error hfound, .inr ⟨hstat, hdecides _ hfound⟩⟩
  | ok found =>
    obtain ⟨place, entry⟩ := found
    have hstat : fs.stat? path = some entry := (FileSystem.stat?_eq_some_iff hnul).mpr ⟨_, hfound⟩
    have hentry : entry.isExecutable = false := by
      by_contra he
      exact hx ((isExecutable_iff hnul).mpr ⟨place, entry, hfound, by simpa using he⟩)
    exact ⟨.eacces, Exec.loadOrInterpret_of_not_executable hfound hentry,
      .inl ⟨by rw [hstat]; rfl, rfl⟩⟩

/-! ### Candidates and the paths of the system in step -/

/-- A candidate and the path that the system tries for the same entry lead to the same place, unless
the path is too long. -/
structure Twins (fs : FileSystem) (candidate attempt : Bytes) : Prop where
  zero_notMem_candidate : 0 ∉ candidate
  zero_notMem_attempt : 0 ∉ attempt
  decides : fs.Decides candidate
  lookup_eq : attempt.length < Path.lengthLimit → fs.lookup attempt = fs.lookup candidate

namespace Twins

variable {candidate attempt : Bytes}

theorem stat?_eq (h : Twins fs candidate attempt) (hl : attempt.length < Path.lengthLimit) :
    fs.stat? attempt = fs.stat? candidate := by
  have hcandidate : candidate.contains 0 = false := by simpa using h.zero_notMem_candidate
  have hattempt : attempt.contains 0 = false := by simpa using h.zero_notMem_attempt
  simp only [FileSystem.stat?, hcandidate, hattempt, h.lookup_eq hl]

theorem isExecutable_eq (h : Twins fs candidate attempt)
    (hl : attempt.length < Path.lengthLimit) :
    isExecutable fs attempt = isExecutable fs candidate := by
  rw [isExecutable, isExecutable, h.stat?_eq hl]

/-- What the system meets at its path when the candidate is not executable. -/
theorem fails (argv : List Bytes) (h : Twins fs candidate attempt)
    (hl : attempt.length < Path.lengthLimit) (hx : ¬isExecutable fs candidate = true) :
    ∃ errno, Exec.loadOrInterpret fs attempt argv = .error errno ∧
      ((fs.stat? candidate).isSome = true ∧ errno = .eacces ∨
        fs.stat? candidate = none ∧ (errno = .enoent ∨ errno = .enotdir)) := by
  rw [← h.isExecutable_eq hl] at hx
  rw [← h.stat?_eq hl]
  refine loadOrInterpret_of_not_isExecutable h.zero_notMem_attempt ?_ hx
  rw [FileSystem.Decides, h.lookup_eq hl]
  exact h.decides

end Twins

theorem zero_notMem_candidate {file entry : Bytes} (hfile : 0 ∉ file) (hentry : 0 ∉ entry) :
    0 ∉ candidate file entry := by
  unfold candidate Path.join
  split_ifs <;> simp_all [Path.dot, Path.slash]

theorem zero_notMem_entryPath {file entry : Bytes} (hfile : 0 ∉ file) (hentry : 0 ∉ entry) :
    0 ∉ Exec.entryPath file entry := by
  unfold Exec.entryPath
  split_ifs <;> simp_all [Path.slash]

/-- The entries of a search path without zeros hold none. -/
theorem zero_notMem_entries {searchPath : Option Bytes} (h : ∀ p, searchPath = some p → 0 ∉ p) :
    ∀ entry ∈ SearchPath.entries searchPath, 0 ∉ entry := by
  intro entry hentry hzero
  have hmem := Text.mem_of_mem_split hentry hzero
  cases searchPath with
  | none => exact absurd hmem (by decide)
  | some p => exact h p rfl hmem

/-- The candidates of a search and the paths that the system tries are twins, entry by entry. -/
theorem exists_twins {searchPath : Option Bytes} {file : Bytes} (hne : file ≠ []) (hfile : 0 ∉ file)
    (hpath : ∀ p, searchPath = some p → 0 ∉ p)
    (hdecides : ∀ p ∈ candidates file searchPath, fs.Decides p)
    (hname : Path.slash ∉ file → file.length ≤ Exec.fileNameLimit) :
    ∃ twins : List (Bytes × Bytes), candidates file searchPath = twins.map Prod.fst ∧
      Exec.attempts searchPath file = twins.map Prod.snd ∧ ∀ t ∈ twins, Twins fs t.1 t.2 := by
  by_cases hs : file.contains Path.slash = true
  · have hcandidates : candidates file searchPath = [file] := if_pos hs
    refine ⟨[(file, file)], hcandidates, if_pos hs, ?_⟩
    rw [hcandidates] at hdecides
    rintro t ht
    rw [List.mem_singleton.mp ht]
    exact ⟨hfile, hfile, hdecides file List.mem_cons_self, fun _ => rfl⟩
  · have hcandidates : candidates file searchPath =
        (SearchPath.entries searchPath).map (candidate file) := if_neg hs
    have hslash : Path.slash ∉ file := by simpa using hs
    rw [hcandidates, List.forall_mem_map] at hdecides
    have hlength : ∀ entry ∈ SearchPath.entries searchPath, entry.length < Path.lengthLimit :=
      fun entry hentry => Nat.lt_of_le_of_lt (length_le_candidate file entry)
        (hdecides entry hentry).length_lt
    refine ⟨(SearchPath.entries searchPath).map fun entry =>
      (candidate file entry, Exec.entryPath file entry), ?_, ?_, ?_⟩
    · rw [hcandidates, List.map_map]
      rfl
    · rw [Exec.attempts, if_neg hs, Exec.attemptsAlong_eq_map hlength, List.map_map]
      rfl
    · refine List.forall_mem_map.mpr fun entry hentry => ?_
      have hzero := zero_notMem_entries hpath entry hentry
      exact ⟨zero_notMem_candidate hfile hzero, zero_notMem_entryPath hfile hzero,
        hdecides entry hentry, lookup_entryPath hne hslash (hname hslash) (hlength entry hentry)⟩

/-! ### What a resolution says -/

@[simp] theorem resolve_program (program : String) (searchPath : Option Bytes) :
    (resolve fs program searchPath).program = program := by
  unfold resolve
  split <;> rfl

/-- The first executable candidate is the answer. -/
theorem resolve_of_executable {program : String} {searchPath : Option Bytes} {path : Bytes}
    {before after : List Bytes}
    (hpaths : candidates (Bytes.ofString program) searchPath = before ++ path :: after)
    (hbefore : ∀ p ∈ before, ¬isExecutable fs p = true) (hx : isExecutable fs path = true) :
    (resolve fs program searchPath).path = some path ∧
      (resolve fs program searchPath).executable = true := by
  have hfind : (before ++ path :: after).find? (isExecutable fs) = some path := by
    refine List.find?_eq_some_iff_append.mpr ⟨hx, before, after, rfl, fun p hp => ?_⟩
    simpa using hbefore p hp
  simp only [resolve, choose, hpaths, hfind, Option.some_or, hx, and_self]

/-- When no candidate is executable, the answer is the first where something is found. -/
theorem resolve_of_not_executable {program : String} {searchPath : Option Bytes}
    (h : ∀ p ∈ candidates (Bytes.ofString program) searchPath, ¬isExecutable fs p = true) :
    (resolve fs program searchPath).path = (candidates (Bytes.ofString program) searchPath).find?
        (fun path => (fs.stat? path).isSome) ∧
      (resolve fs program searchPath).executable = false := by
  have hfind : (candidates (Bytes.ofString program) searchPath).find? (isExecutable fs) = none :=
    List.find?_eq_none.mpr h
  simp only [resolve, choose, hfind, Option.none_or]
  split
  · next path hpath =>
    rw [hpath]
    exact ⟨rfl, by simpa using h path (List.mem_of_find?_eq_some hpath)⟩
  · next hnone => exact ⟨hnone.symm, rfl⟩

end Search

/-- A resolution foretells what comes of a replacement: an executable file is the one that is
started, any other file is refused, and no file is missing, each with the failure that the
resolution stands for. -/
structure Resolution.Foretells (fs : FileSystem) (r : Resolution)
    (outcome : Except Failure Image) : Prop where
  started : r.executable = true → ∃ image path entry,
    outcome = .ok image ∧ r.path = some path ∧ fs.lookup path = .ok (image.file, entry)
  refused : r.path.isSome = true → r.executable = false →
    outcome = .error (.permissionDenied r.program .eacces) ∧
      r.toResult = .error (.permissionDenied r.program .eacces)
  missing : r.path = none → ∃ errno, (errno = .enoent ∨ errno = .enotdir) ∧
    outcome = .error (.programNotFound r.program errno) ∧
      r.toResult = .error (.programNotFound r.program .enoent)

/-- The system gets to its answer: no path is too long, or an executable file comes before the first
that is. -/
def Exec.Unhindered (fs : FileSystem) (paths : List Bytes) : Prop :=
  (∀ p ∈ paths, p.length < Path.lengthLimit) ∨
    ∃ p ∈ paths.takeWhile (·.length < Path.lengthLimit), Search.isExecutable fs p = true

namespace Exec

variable {fs : FileSystem} {before after : List Bytes} {path : Bytes}

theorem unhindered_of_executable (hbefore : ∀ p ∈ before, p.length < Path.lengthLimit)
    (hl : path.length < Path.lengthLimit) (hx : Search.isExecutable fs path = true) :
    Unhindered fs (before ++ path :: after) := by
  refine .inr ⟨path, ?_, hx⟩
  rw [List.takeWhile_append_of_pos (by simpa using hbefore),
    List.takeWhile_cons_of_pos (by simpa using hl)]
  simp

theorem not_unhindered_of_too_long
    (hbefore : ∀ p ∈ before, p.length < Path.lengthLimit ∧ ¬Search.isExecutable fs p = true)
    (hl : Path.lengthLimit ≤ path.length) : ¬Unhindered fs (before ++ path :: after) := by
  rintro (hall | ⟨p, hp, hx⟩)
  · exact absurd (hall path (by simp)) (Nat.not_lt.mpr hl)
  · rw [List.takeWhile_append_of_pos (by simpa using fun p hp => (hbefore p hp).1),
      List.takeWhile_cons_of_neg (by simpa using hl), List.append_nil] at hp
    exact (hbefore p hp).2 hx

end Exec

/-- No resolution foretells that a replacement fails for a reason of its own. -/
theorem Resolution.Foretells.ne_execFailed {fs : FileSystem} {r : Resolution}
    {outcome : Except Failure Image} (h : r.Foretells fs outcome) (program : String)
    (errno : Errno) : outcome ≠ .error (.execFailed program errno) := by
  rintro rfl
  by_cases hx : r.executable = true
  · obtain ⟨_, _, _, hok, -⟩ := h.started hx
    cases hok
  · by_cases hpath : r.path = none
    · obtain ⟨_, -, hmissing, -⟩ := h.missing hpath
      cases hmissing
    · obtain ⟨hrefused, -⟩ := h.refused (Option.isSome_iff_ne_none.mpr hpath) (by simpa using hx)
      cases hrefused

namespace Search

section Foretelling

variable {fs : FileSystem} {program : String} {searchPath : Option Bytes} {argv : List Bytes}
  {left : Errno} {twins before after : List (Bytes × Bytes)} {t : Bytes × Bytes}

theorem Twins.passedOver {candidate attempt : Bytes} (h : Twins fs candidate attempt)
    (hl : attempt.length < Path.lengthLimit) (hx : ¬isExecutable fs candidate = true) :
    Exec.PassedOver fs argv attempt := by
  obtain ⟨errno, hload, ⟨-, rfl⟩ | ⟨-, rfl | rfl⟩⟩ := h.fails argv hl hx
  all_goals exact ⟨_, hload, rfl⟩

/-- The system starts the first executable candidate when it gets there. -/
theorem foretells_of_executable
    (hpaths : candidates (Bytes.ofString program) searchPath =
      (before ++ t :: after).map Prod.fst)
    (htwins : ∀ q ∈ before ++ t :: after, Twins fs q.1 q.2)
    (hbefore : ∀ q ∈ before, q.2.length < Path.lengthLimit ∧ ¬isExecutable fs q.1 = true)
    (hl : t.2.length < Path.lengthLimit) (hx : isExecutable fs t.1 = true)
    (hload : ∃ image, Exec.loadOrInterpret fs t.2 argv = .ok image) :
    (resolve fs program searchPath).Foretells fs
      ((Exec.tryPaths fs argv false left ((before ++ t :: after).map Prod.snd)).mapError
        (Failure.ofErrno program)) := by
  obtain ⟨image, himage⟩ := hload
  rw [List.map_append, List.map_cons] at hpaths
  have htry : Exec.tryPaths fs argv false left ((before ++ t :: after).map Prod.snd) =
      .ok image := by
    rw [List.map_append, List.map_cons, Exec.tryPaths_of_decisive, himage]
    · refine List.forall_mem_map.mpr fun q hq => ?_
      exact (htwins q (List.mem_append_left _ hq)).passedOver (hbefore q hq).1 (hbefore q hq).2
    · rintro ⟨errno, herror, -⟩
      rw [himage] at herror
      cases herror
  obtain ⟨hpath, hexecutable⟩ := resolve_of_executable hpaths
    (List.forall_mem_map.mpr fun q hq => (hbefore q hq).2) hx
  obtain ⟨entry, hfound, -⟩ := Exec.lookup_of_loadOrInterpret himage
  rw [(htwins t (by simp)).lookup_eq hl] at hfound
  rw [htry]
  refine ⟨fun _ => ⟨image, t.1, entry, rfl, hpath, hfound⟩, fun _ h => ?_, fun h => ?_⟩
  · rw [hexecutable] at h
    cases h
  · rw [hpath] at h
    cases h

/-- A path that is too long ends the system's search before it gets to an executable file. -/
theorem not_foretells_of_too_long (htwins : ∀ q ∈ before, Twins fs q.1 q.2)
    (hbefore : ∀ q ∈ before, q.2.length < Path.lengthLimit ∧ ¬isExecutable fs q.1 = true)
    (hl : Path.lengthLimit ≤ t.2.length) :
    ¬(resolve fs program searchPath).Foretells fs
      ((Exec.tryPaths fs argv false left ((before ++ t :: after).map Prod.snd)).mapError
        (Failure.ofErrno program)) := by
  have hload : Exec.loadOrInterpret fs t.2 argv = .error .enametoolong :=
    Exec.loadOrInterpret_of_lookup_error (FileSystem.lookup_of_limit_le hl)
  have htry : Exec.tryPaths fs argv false left ((before ++ t :: after).map Prod.snd) =
      .error .enametoolong := by
    rw [List.map_append, List.map_cons, Exec.tryPaths_of_decisive, hload]
    · refine List.forall_mem_map.mpr fun q hq => ?_
      exact (htwins q hq).passedOver (hbefore q hq).1 (hbefore q hq).2
    · rintro ⟨errno, herror, hgo⟩
      rw [hload] at herror
      cases herror
      cases hgo
  rw [htry]
  exact fun h => h.ne_execFailed program .enametoolong rfl

/-- When nothing executable is there and no path is too long, the system refuses or misses the
program as the resolution says. -/
theorem foretells_of_not_executable
    (hpaths : candidates (Bytes.ofString program) searchPath = twins.map Prod.fst)
    (htwins : ∀ q ∈ twins, Twins fs q.1 q.2)
    (h : ∀ q ∈ twins, q.2.length < Path.lengthLimit ∧ ¬isExecutable fs q.1 = true) :
    (resolve fs program searchPath).Foretells fs
      ((Exec.tryPaths fs argv false left (twins.map Prod.snd)).mapError
        (Failure.ofErrno program)) := by
  have hx : ∀ p ∈ candidates (Bytes.ofString program) searchPath, ¬isExecutable fs p = true := by
    rw [hpaths]
    exact List.forall_mem_map.mpr fun q hq => (h q hq).2
  obtain ⟨hpath, hexecutable⟩ := resolve_of_not_executable hx
  have hload := fun q hq => (htwins q hq).fails argv (h q hq).1 (h q hq).2
  rw [hpaths] at hpath
  refine ⟨fun h => ?_, fun hsome _ => ?_, fun hnone => ?_⟩
  · rw [hexecutable] at h
    cases h
  · -- The first candidate where something is found is refused, and the refusal is remembered.
    obtain ⟨path, hsome⟩ := Option.isSome_iff_exists.mp hsome
    obtain ⟨q, hq, rfl⟩ :=
      List.mem_map.mp (List.mem_of_find?_eq_some (hpath.symm.trans hsome))
    have hstat := List.find?_some (hpath.symm.trans hsome)
    have hrefused : Exec.loadOrInterpret fs q.2 argv = .error .eacces := by
      obtain ⟨errno, hfound, ⟨-, rfl⟩ | ⟨hnothing, -⟩⟩ := hload q hq
      · exact hfound
      · rw [hnothing] at hstat
        cases hstat
    rw [Exec.tryPaths_of_refused
      (List.forall_mem_map.mpr fun q hq => (htwins q hq).passedOver (h q hq).1 (h q hq).2)
      (.inr ⟨q.2, List.mem_map_of_mem hq, hrefused⟩), resolve_program]
    exact ⟨rfl, by simp only [Resolution.toResult, hsome, hexecutable, resolve_program]⟩
  · have hmissing : ∀ p ∈ twins.map Prod.snd, Exec.Missing fs argv p := by
      refine List.forall_mem_map.mpr fun q hq => ?_
      have hstat := List.find?_eq_none.mp (hpath.symm.trans hnone) q.1 (List.mem_map_of_mem hq)
      obtain ⟨errno, hfound, ⟨hsomething, -⟩ | ⟨-, hfault⟩⟩ := hload q hq
      · exact absurd hsomething hstat
      · exact ⟨errno, hfault, hfound⟩
    have hlast (hnil : twins.map Prod.snd = []) : left = .enoent ∨ left = .enotdir := by
      have hne := candidates_ne_nil (Bytes.ofString program) searchPath
      rw [hpaths, List.map_eq_nil_iff.mp hnil] at hne
      exact absurd rfl hne
    obtain ⟨errno, hfault, htry⟩ := Exec.tryPaths_of_missing hlast hmissing
    refine ⟨errno, hfault, ?_, ?_⟩
    · rw [htry, resolve_program]
      rcases hfault with rfl | rfl <;> rfl
    · simp only [Resolution.toResult, hnone, resolve_program]

end Foretelling

end Search

namespace Run

/-- Where looking decides, and what is executable loads, a resolution foretells what replacing the
image comes to exactly when the system gets to its answer. -/
theorem foretells_replaceImage_iff (w : World) {r : Request} (hfit : r.Fit)
    (hpath : ∀ p, w.searchPath = some p → 0 ∉ p)
    (hdecides : ∀ p ∈ Search.candidates (Bytes.ofString r.program) w.searchPath, w.fs.Decides p)
    (hname : Path.slash ∉ Bytes.ofString r.program →
      (Bytes.ofString r.program).length ≤ Exec.fileNameLimit)
    (hloads : ∀ p ∈ Exec.attempts w.searchPath (Bytes.ofString r.program),
      Search.isExecutable w.fs p = true →
        ∃ image, Exec.loadOrInterpret w.fs p (r.argv.map Bytes.ofString) = .ok image)
    (j : Journal) :
    (Search.resolve w.fs r.program w.searchPath).Foretells w.fs ((replaceImage w r).result j) ↔
      Exec.Unhindered w.fs (Exec.attempts w.searchPath (Bytes.ofString r.program)) := by
  have hne : Bytes.ofString r.program ≠ [] := mt Bytes.ofString_eq_nil_iff.mp hfit.1
  have hzero : 0 ∉ Bytes.ofString r.program := by
    rw [Bytes.mem_ofString_iff (by decide)]
    exact hfit.2 r.program List.mem_cons_self
  obtain ⟨twins, hcandidates, hattempts, htwins⟩ :=
    Search.exists_twins hne hzero hpath hdecides hname
  rw [result_replaceImage_of_fit w hfit, Exec.search_eq_tryPaths w.searchPath hne hname, hattempts]
  rw [hattempts, List.forall_mem_map] at hloads
  -- The first path that is too long or executable settles both sides.
  cases hfind : twins.find? fun q =>
      decide (Path.lengthLimit ≤ q.2.length) || Search.isExecutable w.fs q.1 with
  | none =>
    have h : ∀ q ∈ twins, q.2.length < Path.lengthLimit ∧
        ¬Search.isExecutable w.fs q.1 = true := by
      simpa using hfind
    exact iff_of_true (Search.foretells_of_not_executable hcandidates htwins h)
      (.inl (List.forall_mem_map.mpr fun q hq => (h q hq).1))
  | some t =>
    obtain ⟨hsettles, before, after, rfl, hbefore⟩ := List.find?_eq_some_iff_append.mp hfind
    have hbefore : ∀ q ∈ before, q.2.length < Path.lengthLimit ∧
        ¬Search.isExecutable w.fs q.1 = true := by
      simpa using hbefore
    have hlead : ∀ q ∈ before, Search.Twins w.fs q.1 q.2 :=
      fun q hq => htwins q (List.mem_append_left _ hq)
    by_cases hl : t.2.length < Path.lengthLimit
    · have hx : Search.isExecutable w.fs t.1 = true := by
        simpa [Nat.not_le.mpr hl] using hsettles
      have hx' : Search.isExecutable w.fs t.2 = true := by
        rw [(htwins t (by simp)).isExecutable_eq hl, hx]
      refine iff_of_true (Search.foretells_of_executable hcandidates htwins hbefore hl hx
        (hloads t (by simp) hx')) ?_
      rw [List.map_append, List.map_cons]
      exact Exec.unhindered_of_executable
        (List.forall_mem_map.mpr fun q hq => (hbefore q hq).1) hl hx'
    · have hl := Nat.not_lt.mp hl
      refine iff_of_false (Search.not_foretells_of_too_long hlead hbefore hl) ?_
      rw [List.map_append, List.map_cons]
      refine Exec.not_unhindered_of_too_long (List.forall_mem_map.mpr fun q hq => ?_) hl
      rw [(hlead q hq).isExecutable_eq (hbefore q hq).1]
      exact hbefore q hq

/-- The world of a process that sees a file system and has a search path. -/
def World.ofFiles (fs : FileSystem) (searchPath : Bytes) : World where
  fs
  environment := [("PATH", searchPath)]
  pid := ⟨2⟩
  parent := ⟨1⟩
  now := ⟨0, 0⟩

/-- A working directory that holds one executable file. -/
def lonelyFile : FileSystem := ⟨[([[0x74]], .file 0o755 (.utility .succeed))], []⟩

theorem lookup_lonelyFile :
    lonelyFile.lookup [0x2e, 0x2f, 0x74] = .ok ([[0x74]], .file 0o755 (.utility .succeed)) := by
  have hnames : Path.names [0x2e, 0x2f, 0x74] = [Path.dot, [0x74]] := by decide
  have hdirectory : lonelyFile.workingDirectory = [] := rfl
  have hroot : lonelyFile.entry? [] = some .directory := rfl
  have hentry : lonelyFile.entry? [[0x74]] = some (.file 0o755 (.utility .succeed)) := rfl
  rw [FileSystem.lookup_of_fits (by decide) (by decide), hnames]
  simp [FileSystem.walk, hdirectory, hroot, hentry, Path.isAbsolute, Path.dot, Path.dotDot,
    Path.slash, Path.nameLimit]

/-- A program in the working directory is found and started. -/
theorem foretells_lonelyFile :
    (Search.resolve lonelyFile "t" (some Path.dot)).Foretells lonelyFile
      ((replaceImage (.ofFiles lonelyFile Path.dot) ⟨"t", []⟩).result {}) := by
  have hpath : (World.ofFiles lonelyFile Path.dot).searchPath = some Path.dot := by decide
  have hcandidates : Search.candidates (Bytes.ofString "t") (some Path.dot) =
      [[0x2e, 0x2f, 0x74]] := by decide
  have hattempts : Exec.attempts (some Path.dot) (Bytes.ofString "t") = [[0x2e, 0x2f, 0x74]] := by
    decide
  have hload : Exec.loadOrInterpret lonelyFile [0x2e, 0x2f, 0x74] [[0x74]] =
      .ok ⟨[[0x74]], .succeed, [[0x74]]⟩ := by
    simp [Exec.loadOrInterpret, Exec.load, Exec.openExecutable, lookup_lonelyFile, bind,
      Except.bind, Entry.isExecutable, Exec.tooLong, Exec.loadContent, Exec.argumentLimit,
      Exec.argumentsLimit]
  refine (foretells_replaceImage_iff (.ofFiles lonelyFile Path.dot) (r := ⟨"t", []⟩)
    ⟨by decide, by decide⟩ ?_ ?_ (fun _ => by decide) ?_ {}).mpr ?_
  all_goals rw [hpath]
  · simp [Path.dot]
  · intro p hp errno herror
    rw [hcandidates, List.mem_singleton] at hp
    rw [hp, World.ofFiles, lookup_lonelyFile] at herror
    cases herror
  · intro p hp _
    rw [hattempts, List.mem_singleton] at hp
    rw [hp]
    exact ⟨_, hload⟩
  · rw [hattempts]
    exact .inl (by decide)

/-- A search path of one entry, which has as many slashes at its end as leave room for a candidate
of one letter and for no path of the system. -/
def crampedPath : Bytes := Path.dot ++ List.replicate 4093 Path.slash

private theorem length_crampedPath : crampedPath.length = 4094 := by
  rw [crampedPath, List.length_append, List.length_replicate]
  rfl

private theorem notMem_crampedPath {b : UInt8} (hdot : b ≠ 0x2e) (hslash : b ≠ Path.slash) :
    b ∉ crampedPath := by
  rw [crampedPath, List.mem_append, List.mem_replicate, Path.dot, List.mem_singleton]
  exact fun h => h.elim hdot fun h => hslash h.2

private theorem entries_crampedPath : SearchPath.entries (some crampedPath) = [crampedPath] :=
  Text.split_of_not_mem (notMem_crampedPath (by decide) (by decide))

private theorem lookup_crampedPath :
    FileSystem.lookup {} (crampedPath ++ [0x74]) = .error .enoent := by
  have hnames : Path.names (crampedPath ++ [0x74]) = [Path.dot, [0x74]] :=
    (Path.names_append_slashes (by decide) (by decide) 4092 Path.dot).trans (by decide)
  have hlength : (crampedPath ++ [0x74]).length < Path.lengthLimit := by
    rw [List.length_append, length_crampedPath]
    decide
  rw [FileSystem.lookup_of_fits (by simp) hlength, hnames, FileSystem.walk_dot_cons]
  simp only [FileSystem.walk, ite_self]
  rfl

private theorem getLast?_crampedPath : crampedPath.getLast? = some Path.slash := by
  rw [crampedPath, List.getLast?_append, List.getLast?_replicate]
  rfl

private theorem candidates_crampedPath :
    Search.candidates (Bytes.ofString "t") (some crampedPath) = [crampedPath ++ [0x74]] := by
  have hbytes : Bytes.ofString "t" = [0x74] := by decide
  rw [hbytes, Search.candidates, if_neg (by decide), entries_crampedPath, List.map_singleton,
    Search.candidate_of_getLast? getLast?_crampedPath]

private theorem attempts_crampedPath :
    Exec.attempts (some crampedPath) (Bytes.ofString "t") =
      [crampedPath ++ Path.slash :: [0x74]] := by
  have hbytes : Bytes.ofString "t" = [0x74] := by decide
  have hentry : ∀ entry ∈ [crampedPath], entry.length < Path.lengthLimit := by
    rw [List.forall_mem_singleton, length_crampedPath]
    decide
  rw [hbytes, Exec.attempts, if_neg (by decide), entries_crampedPath,
    Exec.attemptsAlong_eq_map hentry, List.map_singleton, Exec.entryPath, if_neg]
  rintro (hnil | hlong)
  · simpa [hnil] using length_crampedPath
  · exact absurd (hentry _ List.mem_cons_self) (Nat.not_lt.mpr hlong)

private theorem lookup_attempt_crampedPath :
    FileSystem.lookup {} (crampedPath ++ Path.slash :: [0x74]) = .error .enametoolong := by
  refine FileSystem.lookup_of_limit_le ?_
  rw [List.length_append, length_crampedPath]
  decide

private theorem result_crampedPath :
    (replaceImage (.ofFiles {} crampedPath) ⟨"t", []⟩).result {} =
      .error (.execFailed "t" .enametoolong) := by
  have hload (argv : List Bytes) : Exec.loadOrInterpret {} (crampedPath ++ Path.slash :: [0x74])
      argv = .error .enametoolong :=
    Exec.loadOrInterpret_of_lookup_error lookup_attempt_crampedPath
  have hpath : (World.ofFiles {} crampedPath).searchPath = some crampedPath := rfl
  rw [result_replaceImage_of_fit _ ⟨by decide, by decide⟩, hpath,
    Exec.search_eq_tryPaths _ (by decide) (fun _ => by decide), attempts_crampedPath,
    ← List.nil_append [_], Exec.tryPaths_of_decisive (by simp), World.ofFiles, hload]
  · rfl
  · rintro ⟨errno, herror, hgo⟩
    cases (hload _).symm.trans herror
    cases hgo

/-- A program is missing, and its name is short, but the system stops at a path that is too long
before it can miss it: the resolution does not foretell what comes of the replacement. -/
theorem not_foretells_crampedPath :
    Request.Fit ⟨"t", []⟩ ∧ 0 ∉ crampedPath ∧
    (∀ p ∈ Search.candidates (Bytes.ofString "t") (some crampedPath),
      FileSystem.lookup {} p = .error .enoent) ∧
    (∀ p ∈ Exec.attempts (some crampedPath) (Bytes.ofString "t"),
      FileSystem.lookup {} p = .error .enametoolong) ∧
    (replaceImage (.ofFiles {} crampedPath) ⟨"t", []⟩).result {} =
      .error (.execFailed "t" .enametoolong) ∧
    ¬(Search.resolve {} "t" (some crampedPath)).Foretells {}
      ((replaceImage (.ofFiles {} crampedPath) ⟨"t", []⟩).result {}) := by
  refine ⟨⟨by decide, by decide⟩, notMem_crampedPath (by decide) (by decide), ?_, ?_,
    result_crampedPath, fun h => h.ne_execFailed "t" .enametoolong result_crampedPath⟩
  · rw [candidates_crampedPath]
    exact List.forall_mem_singleton.mpr lookup_crampedPath
  · rw [attempts_crampedPath]
    exact List.forall_mem_singleton.mpr lookup_attempt_crampedPath

end Run

end ImageSwap
