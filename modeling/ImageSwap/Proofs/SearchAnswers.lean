import ImageSwap.Proofs.JoinedParts
import ImageSwap.Proofs.SearchAgreement

/-!
# What a search answers

A search names the first of its candidates that can be run, else the first at which anything is
found, and says what stands in the way there. One pass over the candidates that keeps its first
find comes to the same path. Which paths are candidates depends on the search path only for a
program without a slash.
-/

namespace ImageSwap

/-- A path is the first in a list that has a property. -/
def IsFirst (p : Bytes → Prop) (paths : List Bytes) (path : Bytes) : Prop :=
  ∃ i : Nat, paths[i]? = some path ∧ p path ∧ ∀ j < i, ∀ other, paths[j]? = some other → ¬p other

namespace IsFirst

variable {p : Bytes → Prop} {paths : List Bytes} {path : Bytes}

theorem mem (h : IsFirst p paths path) : path ∈ paths := by
  obtain ⟨i, hget, -⟩ := h
  exact List.mem_of_getElem? hget

theorem holds (h : IsFirst p paths path) : p path := by
  obtain ⟨i, -, hpath, -⟩ := h
  exact hpath

end IsFirst

/-- What a test finds in a list is the first path that passes it. -/
theorem find?_eq_some_iff_isFirst {test : Bytes → Bool} {p : Bytes → Prop}
    (htest : ∀ path, test path = true ↔ p path) {paths : List Bytes} {path : Bytes} :
    paths.find? test = some path ↔ IsFirst p paths path := by
  rw [List.find?_eq_some_iff_getElem]
  constructor
  · rintro ⟨hpath, i, hi, hget, hbefore⟩
    refine ⟨i, List.getElem?_eq_some_iff.mpr ⟨hi, hget⟩, (htest path).mp hpath, ?_⟩
    intro j hj other hother hp
    obtain ⟨hlt, rfl⟩ := List.getElem?_eq_some_iff.mp hother
    have hnot := hbefore j hj
    rw [(htest _).mpr hp] at hnot
    cases hnot
  · rintro ⟨i, hget, hpath, hbefore⟩
    obtain ⟨hi, hget⟩ := List.getElem?_eq_some_iff.mp hget
    refine ⟨(htest path).mpr hpath, i, hi, hget, fun j hj => ?_⟩
    have hnot := hbefore j hj paths[j] (List.getElem?_eq_getElem _)
    rw [← htest] at hnot
    simpa using hnot

theorem find?_eq_none_iff_forall {test : Bytes → Bool} {p : Bytes → Prop}
    (htest : ∀ path, test path = true ↔ p path) {paths : List Bytes} :
    paths.find? test = none ↔ ∀ path ∈ paths, ¬p path := by
  simp only [List.find?_eq_none, htest]

namespace FileSystem

variable {fs : FileSystem} {path : Bytes}

/-- Something is found at a path. -/
def Present (fs : FileSystem) (path : Bytes) : Prop := ∃ entry, fs.stat? path = some entry

/-- A path leads to a regular file. -/
def Regular (fs : FileSystem) (path : Bytes) : Prop :=
  ∃ mode content, fs.stat? path = some (.file mode content)

/-- A path leads to a regular file that its owner, its group or all others may execute. -/
def Runnable (fs : FileSystem) (path : Bytes) : Prop :=
  ∃ mode content, fs.stat? path = some (.file mode content) ∧
    (mode.testBit 6 ∨ mode.testBit 3 ∨ mode.testBit 0)

theorem Runnable.present (h : fs.Runnable path) : fs.Present path := by
  obtain ⟨mode, content, hstat, -⟩ := h
  exact ⟨_, hstat⟩

theorem present_iff : (fs.stat? path).isSome = true ↔ fs.Present path :=
  Option.isSome_iff_exists

theorem regular_iff : (fs.stat? path).any Entry.isRegular = true ↔ fs.Regular path := by
  rw [Option.any_eq_true]
  constructor
  · rintro ⟨entry, hstat, hregular⟩
    cases entry with
    | file mode content => exact ⟨mode, content, hstat⟩
    | _ => cases hregular
  · rintro ⟨mode, content, hstat⟩
    exact ⟨_, hstat, rfl⟩

private theorem and_ne_zero_iff (m n : Nat) :
    m &&& n ≠ 0 ↔ ∃ i, m.testBit i = true ∧ n.testBit i = true := by
  constructor
  · intro h
    obtain ⟨i, hi⟩ := Nat.exists_testBit_of_ne_zero h
    rw [Nat.testBit_and, Bool.and_eq_true] at hi
    exact ⟨i, hi⟩
  · rintro ⟨i, hm, hn⟩ hzero
    have hbit : (m &&& n).testBit i = true := by rw [Nat.testBit_and, hm, hn, Bool.and_self]
    rw [hzero, Nat.zero_testBit] at hbit
    cases hbit

/-- The execute bits of a mode are its bits 6, 3 and 0. -/
private theorem testBit_executeBits_iff (i : Nat) :
    Nat.testBit 0o111 i = true ↔ i = 6 ∨ i = 3 ∨ i = 0 := by
  constructor
  · intro h
    have hlt : i < 7 := by
      by_contra hge
      have hbig : 0o111 < 2 ^ i :=
        Nat.lt_of_lt_of_le (by decide : 0o111 < 2 ^ 7) (Nat.pow_le_pow_right (by decide) (by omega))
      rw [Nat.testBit_lt_two_pow hbig] at h
      cases h
    have hall : ∀ i < 7, Nat.testBit 0o111 i = true → i = 6 ∨ i = 3 ∨ i = 0 := by decide
    exact hall i hlt h
  · rintro (rfl | rfl | rfl) <;> rfl

theorem and_executeBits_ne_zero_iff (mode : Nat) :
    mode &&& 0o111 ≠ 0 ↔ mode.testBit 6 ∨ mode.testBit 3 ∨ mode.testBit 0 := by
  simp only [and_ne_zero_iff, testBit_executeBits_iff, and_or_left, exists_or, exists_eq_right]

theorem runnable_iff : Search.isExecutable fs path = true ↔ fs.Runnable path := by
  rw [Search.isExecutable, Option.any_eq_true]
  constructor
  · rintro ⟨entry, hstat, hx⟩
    cases entry with
    | file mode content =>
      have hmode : mode &&& 0o111 ≠ 0 := by simpa [Entry.isExecutable] using hx
      exact ⟨mode, content, hstat, (and_executeBits_ne_zero_iff mode).mp hmode⟩
    | _ => cases hx
  · rintro ⟨mode, content, hstat, hbit⟩
    have hmode := (and_executeBits_ne_zero_iff mode).mpr hbit
    exact ⟨_, hstat, by simpa [Entry.isExecutable] using hmode⟩

end FileSystem

namespace Search

variable {fs : FileSystem} {program : String} {searchPath : Option Bytes} {paths : List Bytes}

/-! ### The candidates -/

/-- The path of a program in the directory that an entry of the search path names, with one slash
between the two. An empty entry is the working directory. -/
def inDirectory (program entry : Bytes) : Bytes :=
  match entry.getLast? with
  | none => Bytes.ofString "./" ++ program
  | some last => if last = Path.slash then entry ++ program else entry ++ Path.slash :: program

theorem candidate_eq_inDirectory (program entry : Bytes) :
    candidate program entry = inDirectory program entry := by
  unfold inDirectory
  cases hlast : entry.getLast? with
  | none =>
    rw [List.getLast?_eq_none_iff.mp hlast, candidate_of_nil]
    rfl
  | some last =>
    have hne : entry ≠ [] := by
      rintro rfl
      cases hlast
    by_cases hslash : last = Path.slash
    · simp only [if_pos hslash]
      exact candidate_of_getLast? (hslash ▸ hlast)
    · simp only [if_neg hslash]
      refine candidate_of_plain hne ?_
      rw [hlast]
      exact mt Option.some.inj hslash

/-- The paths at which a program is looked for. A name with a slash is a path; any other is looked
for in every entry between the colons of the search path. -/
inductive LooksAt (program : String) (searchPath : Option Bytes) : List Bytes → Prop where
  | path (h : '/' ∈ program.toList) : LooksAt program searchPath [Bytes.ofString program]
  | along {entries : List Bytes} (h : '/' ∉ program.toList) (hne : entries ≠ [])
    (hplain : ∀ entry ∈ entries, SearchPath.colon ∉ entry)
    (hjoined : [SearchPath.colon].intercalate entries =
      searchPath.getD (Bytes.ofString "/bin:/usr/bin")) :
    LooksAt program searchPath (entries.map (inDirectory (Bytes.ofString program)))

theorem looksAt_iff : LooksAt program searchPath paths ↔
    candidates (Bytes.ofString program) searchPath = paths := by
  have hslash : (Bytes.ofString program).contains Path.slash = true ↔ '/' ∈ program.toList := by
    rw [List.contains_iff_mem]
    exact Bytes.mem_ofString_iff (by decide) program
  have hentries (entries : List Bytes) :
      Text.split SearchPath.colon (searchPath.getD SearchPath.standard) = entries ↔
        entries ≠ [] ∧ (∀ entry ∈ entries, SearchPath.colon ∉ entry) ∧
          [SearchPath.colon].intercalate entries = searchPath.getD SearchPath.standard :=
    Text.split_eq_iff
  constructor
  · intro h
    cases h with
    | path h => rw [candidates, if_pos (hslash.mpr h)]
    | along h hne hplain hjoined =>
      have hsplit := (hentries _).mpr ⟨hne, hplain, hjoined⟩
      rw [candidates, if_neg (mt hslash.mp h), SearchPath.entries, hsplit]
      exact List.map_congr_left fun entry _ => candidate_eq_inDirectory _ entry
  · rintro rfl
    by_cases h : '/' ∈ program.toList
    · rw [candidates, if_pos (hslash.mpr h)]
      exact .path h
    · obtain ⟨hne, hplain, hjoined⟩ := (hentries _).mp rfl
      rw [candidates, if_neg (mt hslash.mp h), SearchPath.entries,
        List.map_congr_left fun entry _ => candidate_eq_inDirectory _ entry]
      exact .along h hne hplain hjoined

theorem candidates_of_slash (h : '/' ∈ program.toList) (searchPath : Option Bytes) :
    candidates (Bytes.ofString program) searchPath = [Bytes.ofString program] :=
  looksAt_iff.mp (.path h)

theorem candidates_of_plain (h : '/' ∉ program.toList) (searchPath : Option Bytes) :
    candidates (Bytes.ofString program) searchPath =
      (SearchPath.entries searchPath).map (candidate (Bytes.ofString program)) := by
  have hslash : ¬(Bytes.ofString program).contains Path.slash = true := by
    rw [List.contains_iff_mem, Bytes.mem_ofString_iff (by decide)]
    exact h
  rw [candidates, if_neg hslash]

/-! ### The answer -/

/-- One pass over the paths of a search, which keeps the first at which anything is found and ends
at one that can be run. -/
def scan (fs : FileSystem) (kept : Option Bytes) : List Bytes → Option Bytes
  | [] => kept
  | path :: rest =>
    match fs.stat? path with
    | none => scan fs kept rest
    | some entry => if entry.isExecutable then some path else scan fs (kept.or (some path)) rest

/-- What has been kept gives way to a path that can be run, and to nothing else. -/
theorem scan_eq (fs : FileSystem) (kept : Option Bytes) (paths : List Bytes) :
    scan fs kept paths = (paths.find? (isExecutable fs)).or
      (kept.or (paths.find? fun path => (fs.stat? path).isSome)) := by
  induction paths generalizing kept with
  | nil => simp [scan]
  | cons path rest ih =>
    rw [scan, List.find?_cons, List.find?_cons, isExecutable]
    cases hstat : fs.stat? path with
    | none => simp [ih]
    | some entry =>
      by_cases hx : entry.isExecutable = true
      · simp [hx]
      · simp [ih, hx]

/-- A single pass comes to the path that the search chooses. -/
theorem choose_eq_scan (fs : FileSystem) (paths : List Bytes) :
    choose fs paths = scan fs none paths := by
  rw [scan_eq, choose, Option.none_or]

/-- What a search for a program in a list of paths is to answer. -/
inductive Answers (fs : FileSystem) (program : String) (paths : List Bytes) :
    Resolution → Prop where
  | runnable {path : Bytes} (h : IsFirst fs.Runnable paths path) :
    Answers fs program paths ⟨program, some path, true, none⟩
  | notExecutable {path : Bytes} (hnone : ∀ p ∈ paths, ¬fs.Runnable p)
    (h : IsFirst fs.Present paths path) (hfile : fs.Regular path) :
    Answers fs program paths
      ⟨program, some path, false, some (path.lossy ++ " is not executable; chmod +x it")⟩
  | notRegular {path : Bytes} (hnone : ∀ p ∈ paths, ¬fs.Runnable p)
    (h : IsFirst fs.Present paths path) (hfile : ¬fs.Regular path) :
    Answers fs program paths
      ⟨program, some path, false, some (path.lossy ++ " is not a regular file")⟩
  | missing (hnone : ∀ p ∈ paths, ¬fs.Present p) :
    Answers fs program paths ⟨program, none, false,
      some (program ++ if '/' ∈ program.toList then " does not exist"
        else " was not found in any PATH directory")⟩

namespace Answers

variable {r : Resolution}

/-- Whatever the answer, a hint stands in it exactly when there is nothing to run. -/
theorem hint_eq_none_iff (h : Answers fs program paths r) :
    r.hint = none ↔ r.executable = true := by
  cases h <;> simp

theorem isSome_path (h : Answers fs program paths r) (hx : r.executable = true) :
    r.path.isSome = true := by
  cases h with
  | runnable => rfl
  | _ => cases hx

/-- The program can be run at the answer exactly when it can at some path. -/
theorem executable_iff (h : Answers fs program paths r) :
    r.executable = true ↔ ∃ path ∈ paths, fs.Runnable path := by
  cases h with
  | runnable h => exact iff_of_true rfl ⟨_, h.mem, h.holds⟩
  | notExecutable hnone | notRegular hnone =>
    refine iff_of_false Bool.false_ne_true ?_
    rintro ⟨path, hmem, hrun⟩
    exact hnone path hmem hrun
  | missing hnone =>
    refine iff_of_false Bool.false_ne_true ?_
    rintro ⟨path, hmem, hrun⟩
    exact hnone path hmem hrun.present

/-- The answer has a path exactly when something is found at one. -/
theorem isSome_path_iff (h : Answers fs program paths r) :
    r.path.isSome = true ↔ ∃ path ∈ paths, fs.Present path := by
  cases h with
  | runnable h => exact iff_of_true rfl ⟨_, h.mem, h.holds.present⟩
  | notExecutable _ h | notRegular _ h => exact iff_of_true rfl ⟨_, h.mem, h.holds⟩
  | missing hnone =>
    refine iff_of_false Bool.false_ne_true ?_
    rintro ⟨path, hmem, hpresent⟩
    exact hnone path hmem hpresent

theorem not_runnable (h : Answers fs program paths r) (hx : ¬r.executable = true) :
    ∀ path ∈ paths, ¬fs.Runnable path := fun path hmem hrun =>
  hx (h.executable_iff.mpr ⟨path, hmem, hrun⟩)

theorem not_present (h : Answers fs program paths r) (hpath : ¬r.path.isSome = true) :
    ∀ path ∈ paths, ¬fs.Present path := fun path hmem hpresent =>
  hpath (h.isSome_path_iff.mpr ⟨path, hmem, hpresent⟩)

/-- The path of an answer is one of those at which the search looks, and something is there. -/
theorem present_of_path {path : Bytes} (h : Answers fs program paths r)
    (hpath : r.path = some path) : path ∈ paths ∧ fs.Present path := by
  cases h with
  | runnable h =>
    cases hpath
    exact ⟨h.mem, h.holds.present⟩
  | notExecutable _ h | notRegular _ h =>
    cases hpath
    exact ⟨h.mem, h.holds⟩
  | missing => cases hpath

end Answers

/-! ### What the search chooses, and why -/

theorem choose_of_runnable {path : Bytes} (h : IsFirst fs.Runnable paths path) :
    choose fs paths = some path := by
  have hfind := (find?_eq_some_iff_isFirst fun _ => FileSystem.runnable_iff).mpr h
  rw [choose, hfind, Option.some_or]

/-- Where nothing can be run, all that matters is what is there. -/
theorem choose_of_none_runnable (h : ∀ p ∈ paths, ¬fs.Runnable p) :
    choose fs paths = paths.find? fun path => (fs.stat? path).isSome := by
  have hfind := (find?_eq_none_iff_forall fun _ => FileSystem.runnable_iff).mpr h
  rw [choose, hfind, Option.none_or]

theorem choose_of_present {path : Bytes} (hnone : ∀ p ∈ paths, ¬fs.Runnable p)
    (h : IsFirst fs.Present paths path) : choose fs paths = some path := by
  rw [choose_of_none_runnable hnone]
  exact (find?_eq_some_iff_isFirst fun _ => FileSystem.present_iff).mpr h

theorem choose_of_missing (hnone : ∀ p ∈ paths, ¬fs.Present p) : choose fs paths = none := by
  rw [choose_of_none_runnable fun p hp h => hnone p hp h.present]
  exact (find?_eq_none_iff_forall fun _ => FileSystem.present_iff).mpr hnone

theorem isExecutable_eq_false {path : Bytes} (h : ¬fs.Runnable path) :
    isExecutable fs path = false :=
  Bool.eq_false_iff.mpr (mt FileSystem.runnable_iff.mp h)

theorem hint?_of_runnable {path : Bytes} (h : fs.Runnable path) : hint? fs path = none :=
  if_pos (FileSystem.runnable_iff.mpr h)

theorem hint?_of_regular {path : Bytes} (hx : ¬fs.Runnable path) (h : fs.Regular path) :
    hint? fs path = some (path.lossy ++ " is not executable; chmod +x it") := by
  rw [hint?, if_neg (mt FileSystem.runnable_iff.mp hx), if_pos (FileSystem.regular_iff.mpr h)]
  rfl

theorem hint?_of_not_regular {path : Bytes} (hx : ¬fs.Runnable path) (h : ¬fs.Regular path) :
    hint? fs path = some (path.lossy ++ " is not a regular file") := by
  rw [hint?, if_neg (mt FileSystem.runnable_iff.mp hx), if_neg (mt FileSystem.regular_iff.mp h)]
  rfl

theorem notFoundHint_eq (program : String) :
    notFoundHint program = program ++ if '/' ∈ program.toList then " does not exist"
      else " was not found in any PATH directory" := by
  rw [notFoundHint]
  by_cases h : '/' ∈ program.toList <;> simp [h] <;> rfl

theorem resolve_of_choose {path : Bytes}
    (h : choose fs (candidates (Bytes.ofString program) searchPath) = some path) :
    resolve fs program searchPath =
      ⟨program, some path, isExecutable fs path, hint? fs path⟩ := by
  rw [resolve, h]

theorem eq_resolve_of_answers {r : Resolution}
    (h : Answers fs program (candidates (Bytes.ofString program) searchPath) r) :
    resolve fs program searchPath = r := by
  cases h with
  | runnable h =>
    rw [resolve_of_choose (choose_of_runnable h), FileSystem.runnable_iff.mpr h.holds,
      hint?_of_runnable h.holds]
  | notExecutable hnone h hfile =>
    have hx := hnone _ h.mem
    rw [resolve_of_choose (choose_of_present hnone h), isExecutable_eq_false hx,
      hint?_of_regular hx hfile]
  | notRegular hnone h hfile =>
    have hx := hnone _ h.mem
    rw [resolve_of_choose (choose_of_present hnone h), isExecutable_eq_false hx,
      hint?_of_not_regular hx hfile]
  | missing hnone => rw [resolve, choose_of_missing hnone, notFoundHint_eq]

/-- Every search has an answer. -/
theorem exists_answers (fs : FileSystem) (program : String) (paths : List Bytes) :
    ∃ r, Answers fs program paths r := by
  cases hrun : paths.find? (isExecutable fs) with
  | some path =>
    exact ⟨_, .runnable ((find?_eq_some_iff_isFirst fun _ => FileSystem.runnable_iff).mp hrun)⟩
  | none =>
    have hnone := (find?_eq_none_iff_forall fun _ => FileSystem.runnable_iff).mp hrun
    cases hfind : paths.find? fun path => (fs.stat? path).isSome with
    | none =>
      exact ⟨_, .missing ((find?_eq_none_iff_forall fun _ => FileSystem.present_iff).mp hfind)⟩
    | some path =>
      have hfirst := (find?_eq_some_iff_isFirst fun _ => FileSystem.present_iff).mp hfind
      by_cases hfile : fs.Regular path
      · exact ⟨_, .notExecutable hnone hfirst hfile⟩
      · exact ⟨_, .notRegular hnone hfirst hfile⟩

/-- There is no other answer to a search than the resolution. -/
theorem answers_iff {r : Resolution} :
    Answers fs program (candidates (Bytes.ofString program) searchPath) r ↔
      resolve fs program searchPath = r := by
  refine ⟨eq_resolve_of_answers, ?_⟩
  rintro rfl
  obtain ⟨r, h⟩ := exists_answers fs program (candidates (Bytes.ofString program) searchPath)
  rw [eq_resolve_of_answers h]
  exact h

theorem answers_resolve (fs : FileSystem) (program : String) (searchPath : Option Bytes) :
    Answers fs program (candidates (Bytes.ofString program) searchPath)
      (resolve fs program searchPath) :=
  answers_iff.mpr rfl

/-- The path that one pass over the candidates comes to is the one that is named. -/
theorem path_resolve (fs : FileSystem) (program : String) (searchPath : Option Bytes) :
    (resolve fs program searchPath).path =
      scan fs none (candidates (Bytes.ofString program) searchPath) := by
  rw [← choose_eq_scan, resolve]
  split <;> simp [*]

/-- In a directory with one program that program is found. -/
theorem resolve_lonelyFile :
    resolve Run.lonelyFile "t" (some Path.dot) = ⟨"t", some (Bytes.ofString "./t"), true, none⟩ := by
  have hcandidates : candidates (Bytes.ofString "t") (some Path.dot) = [Bytes.ofString "./t"] := by
    decide
  have hbytes : Bytes.ofString "./t" = [0x2e, 0x2f, 0x74] := by decide
  have hstat : Run.lonelyFile.stat? (Bytes.ofString "./t") =
      some (.file 0o755 (.utility .succeed)) := by
    rw [hbytes]
    exact (FileSystem.stat?_eq_some_iff (by decide)).mpr ⟨_, Run.lookup_lonelyFile⟩
  refine eq_resolve_of_answers ?_
  rw [hcandidates]
  exact .runnable ⟨0, rfl, ⟨_, _, hstat, by decide⟩, nofun⟩

/-- What is to be known of the resolution of a program. -/
structure Answered (fs : FileSystem) (program : String) (searchPath : Option Bytes) : Prop where
  /-- It is the one answer that the paths at which the program is looked for give. -/
  answer : ∀ r, resolve fs program searchPath = r ↔
    ∃ paths, LooksAt program searchPath paths ∧ Answers fs program paths r
  /-- Its path is found in one pass over them. -/
  onePass : ∀ paths, LooksAt program searchPath paths →
    (resolve fs program searchPath).path = scan fs none paths
  /-- The search path has no part in it when the program has a slash. -/
  ofSlash : '/' ∈ program.toList →
    ∀ other, resolve fs program other = resolve fs program searchPath
  program_eq : (resolve fs program searchPath).program = program
  hint_eq_none_iff : (resolve fs program searchPath).hint = none ↔
    (resolve fs program searchPath).executable = true
  isSome_path : (resolve fs program searchPath).executable = true →
    (resolve fs program searchPath).path.isSome = true

/-- Every search is answered by the first candidate that can be run, else by the first at which
anything is found, with what stands in the way there; else nothing is found. -/
theorem answered_resolve (fs : FileSystem) (program : String) (searchPath : Option Bytes) :
    Answered fs program searchPath := by
  have hanswers := answers_resolve fs program searchPath
  refine ⟨fun r => ⟨?_, ?_⟩, ?_, fun hslash other => ?_, resolve_program program searchPath,
    hanswers.hint_eq_none_iff, hanswers.isSome_path⟩
  · rintro rfl
    exact ⟨_, looksAt_iff.mpr rfl, hanswers⟩
  · rintro ⟨paths, hpaths, h⟩
    rw [← looksAt_iff.mp hpaths] at h
    exact answers_iff.mp h
  · intro paths hpaths
    rw [path_resolve, looksAt_iff.mp hpaths]
  · rw [resolve, resolve, candidates_of_slash hslash, candidates_of_slash hslash]

end Search

end ImageSwap
