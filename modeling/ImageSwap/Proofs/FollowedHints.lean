import ImageSwap.FileSystem.Edit
import ImageSwap.Proofs.SearchAnswers

/-!
# Following the hint at a file that cannot run

When a search finds a regular file that lacks every execute bit, its hint says to give it one.
A change of mode moves nothing: every path leads where it led before, so nothing comes to stand at
an earlier candidate, and whichever of the three bits the file is given, the same search then finds
it at the same path and can run it.
-/

namespace ImageSwap

namespace FileSystem

variable {fs fs' : FileSystem}

/-! ### Two file systems with the same ways through them -/

/-- Two file systems have the same directories, the same links with the same targets, and nothing at
the same locations. What else stands at a location may differ. -/
structure SameWays (fs fs' : FileSystem) : Prop where
  workingDirectory_eq : fs'.workingDirectory = fs.workingDirectory
  directory_iff (place : Location) :
    fs'.entry? place = some .directory ↔ fs.entry? place = some .directory
  symlink_iff (place : Location) (target : Bytes) :
    fs'.entry? place = some (.symlink target) ↔ fs.entry? place = some (.symlink target)
  none_iff (place : Location) : fs'.entry? place = none ↔ fs.entry? place = none

/-- What was found in another file system, as it is seen in this one. -/
def seenIn (fs : FileSystem) (found : Location × Entry) : Location × Entry :=
  (found.1, fs.entry? found.1 |>.getD found.2)

namespace SameWays

theorem exists_entry (h : SameWays fs fs') {place : Location} {entry : Entry}
    (hentry : fs.entry? place = some entry) : ∃ seen, fs'.entry? place = some seen := by
  cases hseen : fs'.entry? place with
  | none =>
    rw [(h.none_iff place).mp hseen] at hentry
    cases hentry
  | some seen => exact ⟨seen, rfl⟩

/-- Names lead from a location to the same location in both, or fail in the same way. -/
theorem walk_eq (h : SameWays fs fs') (links : Nat) (place : Location) (names : List Bytes) :
    fs'.walk links place names = (fs.walk links place names).map fs'.seenIn := by
  have hdirectory {place : Location} (hplace : ¬ fs.entry? place ≠ some .directory) :
      fs'.entry? place = some .directory :=
    (h.directory_iff place).mpr (not_not.mp hplace)
  -- Along the walk in `fs`: each branch asks only for what both have, and what else stands at a
  -- location is looked at where the names end.
  fun_induction FileSystem.walk fs links place names with
  | case1 links place entry hentry =>
    obtain ⟨seen, hseen⟩ := h.exists_entry hentry
    simp [walk, Except.map, seenIn, hseen]
  | case2 links place hnone =>
    simp [walk, Except.map, (h.none_iff place).mpr hnone]
  | case3 links place name rest hplace =>
    rw [walk, if_pos (mt (h.directory_iff place).mp hplace)]
    rfl
  | case4 links place rest hplace ih =>
    rw [walk, if_neg (not_not.mpr (hdirectory hplace)), if_pos rfl, ih]
  | case5 links place rest hplace hdot ih =>
    rw [walk, if_neg (not_not.mpr (hdirectory hplace)), if_neg hdot, if_pos rfl, ih]
  | case6 links place name rest hplace hdot hup hlong =>
    rw [walk, if_neg (not_not.mpr (hdirectory hplace)), if_neg hdot, if_neg hup, if_pos hlong]
    rfl
  | case7 links place name rest hplace hdot hup hshort child hnone =>
    rw [walk_name (hdirectory hplace) hdot hup hshort, (h.none_iff _).mpr hnone]
    rfl
  | case8 place name rest hplace hdot hup hshort child target hlink =>
    rw [walk_name (hdirectory hplace) hdot hup hshort, (h.symlink_iff _ _).mpr hlink]
    rfl
  | case9 place name rest hplace hdot hup hshort child target hlink links start ih =>
    rw [walk_name (hdirectory hplace) hdot hup hshort, (h.symlink_iff _ _).mpr hlink]
    exact ih
  | case10 links place name rest hplace hdot hup hshort child entry hentry hchild ih =>
    obtain ⟨seen, hseen⟩ := h.exists_entry hchild
    have hother (target : Bytes) : seen ≠ .symlink target := by
      rintro rfl
      rw [h.symlink_iff, hchild, Option.some.injEq] at hseen
      exact hentry target hseen
    rw [walk_name (hdirectory hplace) hdot hup hshort, hseen]
    cases seen with
    | symlink target => exact absurd rfl (hother target)
    | _ => exact ih

theorem lookup_eq (h : SameWays fs fs') (path : Bytes) :
    fs'.lookup path = (fs.lookup path).map fs'.seenIn := by
  by_cases hne : path = []
  · simp [lookup, hne, Except.map]
  · by_cases hl : path.length < Path.lengthLimit
    · rw [lookup_of_fits hne hl, lookup_of_fits hne hl, h.workingDirectory_eq, h.walk_eq]
    · have hlong := Nat.not_lt.mp hl
      rw [lookup_of_limit_le hlong, lookup_of_limit_le hlong]
      rfl

/-- Something is found at a path in both or in neither. -/
theorem present_iff (h : SameWays fs fs') (path : Bytes) : fs'.Present path ↔ fs.Present path := by
  have hsome : (fs'.stat? path).isSome = (fs.stat? path).isSome := by
    rw [stat?, stat?, h.lookup_eq]
    by_cases hzero : path.contains 0 = true
    · rw [if_pos hzero, if_pos hzero]
    · rw [if_neg hzero, if_neg hzero]
      cases fs.lookup path <;> rfl
  rw [← FileSystem.present_iff, ← FileSystem.present_iff, hsome]

end SameWays

/-! ### A file with another mode -/

/-- One file of a file system is given a mode, and all else stays as it is. -/
structure ModeChanged (fs : FileSystem) (place : Location) (mode : Nat) (fs' : FileSystem) :
    Prop where
  workingDirectory_eq : fs'.workingDirectory = fs.workingDirectory
  changed : ∃ before content, fs.entry? place = some (.file before content) ∧
    fs'.entry? place = some (.file mode content)
  unchanged : ∀ other, other ≠ place → fs'.entry? other = fs.entry? other

variable {place : Location} {mode : Nat}

/-- A mode has no part in where paths lead. -/
theorem ModeChanged.sameWays (h : fs.ModeChanged place mode fs') : SameWays fs fs' := by
  obtain ⟨before, content, hbefore, hafter⟩ := h.changed
  refine ⟨h.workingDirectory_eq, fun other => ?_, fun other target => ?_, fun other => ?_⟩
  all_goals
    by_cases hother : other = place
    · rw [hother, hbefore, hafter]
      simp
    · rw [h.unchanged other hother]

/-- A path to the file is one to a file that can run, once its mode has an execute bit. -/
theorem ModeChanged.runnable (h : fs.ModeChanged place mode fs') {path : Bytes} {entry : Entry}
    (hzero : 0 ∉ path) (hfound : fs.lookup path = .ok (place, entry))
    (hbit : mode.testBit 6 ∨ mode.testBit 3 ∨ mode.testBit 0) : fs'.Runnable path := by
  obtain ⟨before, content, -, hafter⟩ := h.changed
  have hseen : fs'.lookup path = .ok (place, .file mode content) := by
    rw [h.sameWays.lookup_eq, hfound, Except.map, seenIn, hafter, Option.getD_some]
  exact ⟨mode, content, (stat?_eq_some_iff hzero).mpr ⟨place, hseen⟩, hbit⟩

theorem entry?_insert_self (h : place ≠ []) (entry : Entry) :
    entry? (fs.insert place entry) place = some entry := by
  unfold entry?
  rw [if_neg h, insert, List.lookup_cons, beq_self_eq_true]

theorem entry?_insert_of_ne {other : Location} (h : other ≠ place) (entry : Entry) :
    entry? (fs.insert place entry) other = fs.entry? other := by
  have hskip : (other == place) = false := beq_eq_false_iff_ne.mpr h
  unfold entry?
  rw [insert, List.lookup_cons, hskip]
  simp only [lookup_filter_of_ne h]

/-- Changing the mode of the file at a path gives that file the mode, links at its end followed, and
leaves all else as it is. -/
theorem modeChanged_changeMode {path : Bytes} {before : Nat} {content : Content}
    (h : fs.lookup path = .ok (place, .file before content)) (mode : Nat) :
    fs.ModeChanged place mode (fs.changeMode path mode) := by
  have hentry := entry?_of_lookup h
  have hroot : place ≠ [] := by
    rintro rfl
    cases hentry
  have hafter : fs.changeMode path mode = fs.insert place (.file mode content) := by
    rw [changeMode, h]
  rw [hafter]
  exact ⟨rfl, ⟨before, content, hentry, entry?_insert_self hroot _⟩,
    fun other hother => entry?_insert_of_ne hother _⟩

end FileSystem

namespace Search

variable {fs fs' : FileSystem} {program : String} {searchPath : Option Bytes}

/-- Of two texts at the end of one text, one is the end of the other. -/
theorem suffix_or_suffix_of_append_eq {front front' s t : String} (h : front ++ s = front' ++ t) :
    s.toList <:+ t.toList ∨ t.toList <:+ s.toList := by
  have hlist : front.toList ++ s.toList = front'.toList ++ t.toList := by
    rw [← String.toList_append, h, String.toList_append]
  exact List.suffix_or_suffix_of_suffix (List.suffix_append _ _) ⟨front'.toList, hlist.symm⟩

/-- Only an answer that has found a regular file hints at a change of mode. -/
theorem Answers.of_hint {paths : List Bytes} {r : Resolution} {front : String}
    (h : Answers fs program paths r)
    (hhint : r.hint = some (front ++ " is not executable; chmod +x it")) :
    ∃ path, r.path = some path ∧ IsFirst fs.Present paths path ∧ fs.Regular path := by
  cases h with
  | runnable h => cases hhint
  | @notExecutable path hnone h hfile => exact ⟨path, rfl, h, hfile⟩
  | notRegular hnone h hfile =>
    have hend := suffix_or_suffix_of_append_eq (Option.some.inj hhint)
    exact absurd hend (by decide)
  | missing hnone =>
    have hend := suffix_or_suffix_of_append_eq (Option.some.inj hhint)
    split at hend
    · exact absurd hend (by decide)
    · exact absurd hend (by decide)

/-- The first path at which something is found is the answer wherever the ways are the same and that
path leads to a file that can run. -/
theorem resolve_of_sameWays {path : Bytes} (h : FileSystem.SameWays fs fs')
    (hfirst : IsFirst fs.Present (candidates (Bytes.ofString program) searchPath) path)
    (hrun : fs'.Runnable path) :
    resolve fs' program searchPath = ⟨program, some path, true, none⟩ := by
  obtain ⟨i, hget, -, hbefore⟩ := hfirst
  -- An earlier path that could run now would have led to something before.
  refine answers_iff.mp (.runnable ⟨i, hget, hrun, fun j hj other hother hother' => ?_⟩)
  exact hbefore j hj other hother ((h.present_iff other).mp hother'.present)

/-- A hint to make a file executable can be followed. There is a file at the path that was found,
and whatever mode with an execute bit it is given, all else being left as it is, the same search
answers with the same path, at which the program can now run. -/
theorem resolve_of_followed_hint {front : String}
    (h : (resolve fs program searchPath).hint =
      some (front ++ " is not executable; chmod +x it")) :
    ∃ path place before content, (resolve fs program searchPath).path = some path ∧
      fs.lookup path = .ok (place, .file before content) ∧
      ∀ mode : Nat, mode.testBit 6 ∨ mode.testBit 3 ∨ mode.testBit 0 →
        fs.ModeChanged place mode (fs.changeMode path mode) ∧
        ∀ fs', fs.ModeChanged place mode fs' →
          resolve fs' program searchPath = ⟨program, some path, true, none⟩ ∧
          (resolve fs' program searchPath).toResult = .ok (resolve fs' program searchPath) := by
  obtain ⟨path, hpath, hfirst, before, content, hstat⟩ :=
    (answers_resolve fs program searchPath).of_hint h
  have hzero := FileSystem.zero_notMem_of_stat? hstat
  obtain ⟨place, hfound⟩ := (FileSystem.stat?_eq_some_iff hzero).mp hstat
  refine ⟨path, place, before, content, hpath, hfound, fun mode hbit => ?_⟩
  refine ⟨FileSystem.modeChanged_changeMode hfound mode, fun fs' hchanged => ?_⟩
  have hresolve : resolve fs' program searchPath = ⟨program, some path, true, none⟩ :=
    resolve_of_sameWays hchanged.sameWays hfirst (hchanged.runnable hzero hfound hbit)
  refine ⟨hresolve, ?_⟩
  rw [hresolve]
  rfl

/-- A working directory with a file that cannot run, and a directory with a link to it. -/
def linkedFile : FileSystem :=
  ⟨[([[0x62]], .directory), ([[0x62], [0x74]], .symlink [0x2e, 0x2e, 0x2f, 0x73]),
    ([[0x73]], .file 0o644 (.data []))], []⟩

private theorem lookup_linkedFile :
    linkedFile.lookup [0x61, 0x2f, 0x74] = .error .enoent ∧
      linkedFile.lookup [0x62, 0x2f, 0x74] = .ok ([[0x73]], .file 0o644 (.data [])) := by
  have hnames : Path.names [0x61, 0x2f, 0x74] = [[0x61], [0x74]] ∧
      Path.names [0x62, 0x2f, 0x74] = [[0x62], [0x74]] ∧
      Path.names [0x2e, 0x2e, 0x2f, 0x73] = [Path.dotDot, [0x73]] := by decide
  have hroot : linkedFile.entry? [] = some .directory := rfl
  have hmissing : linkedFile.entry? [[0x61]] = none := rfl
  have hdirectory : linkedFile.entry? [[0x62]] = some .directory := rfl
  have hlink : linkedFile.entry? [[0x62], [0x74]] = some (.symlink [0x2e, 0x2e, 0x2f, 0x73]) :=
    rfl
  have hfile : linkedFile.entry? [[0x73]] = some (.file 0o644 (.data [])) := rfl
  have hstart : linkedFile.workingDirectory = [] := rfl
  rw [FileSystem.lookup_of_fits (by decide) (by decide),
    FileSystem.lookup_of_fits (by decide) (by decide), hnames.1, hnames.2.1, hstart]
  simp [FileSystem.walk, hroot, hmissing, hdirectory, hlink, hfile, hnames.2.2, Path.isAbsolute,
    Path.dot, Path.dotDot, Path.slash, Path.nameLimit, Path.linkLimit]

private theorem resolve_linkedFile :
    resolve linkedFile "t" (some (Bytes.ofString "a:b")) =
      ⟨"t", some (Bytes.ofString "b/t"), false,
        some ((Bytes.ofString "b/t").lossy ++ " is not executable; chmod +x it")⟩ := by
  have hpaths : candidates (Bytes.ofString "t") (some (Bytes.ofString "a:b")) =
      [[0x61, 0x2f, 0x74], [0x62, 0x2f, 0x74]] := by decide
  obtain ⟨hmissing, hfound⟩ := lookup_linkedFile
  have hmissing : linkedFile.stat? [0x61, 0x2f, 0x74] = none :=
    (FileSystem.stat?_eq_none_iff (by decide)).mpr ⟨_, hmissing⟩
  have hfound : linkedFile.stat? [0x62, 0x2f, 0x74] = some (.file 0o644 (.data [])) :=
    (FileSystem.stat?_eq_some_iff (by decide)).mpr ⟨_, hfound⟩
  have hchoose : choose linkedFile [[0x61, 0x2f, 0x74], [0x62, 0x2f, 0x74]] =
      some [0x62, 0x2f, 0x74] := by
    simp [choose, isExecutable, hmissing, hfound, Entry.isExecutable]
  have hbytes : Bytes.ofString "b/t" = [0x62, 0x2f, 0x74] := by decide
  have hexecutable : ¬linkedFile.Runnable [0x62, 0x2f, 0x74] := by
    rw [← FileSystem.runnable_iff, isExecutable, hfound]
    decide
  rw [resolve_of_choose (hpaths ▸ hchoose), hbytes, isExecutable_eq_false hexecutable,
    hint?_of_regular hexecutable ⟨_, _, hfound⟩]

/-- The file behind a link is made executable for its group alone, and the search that had only
found it can run it. -/
theorem resolve_of_followed_hint_linkedFile :
    (resolve linkedFile "t" (some (Bytes.ofString "a:b"))).hint =
        some ("b/t" ++ " is not executable; chmod +x it") ∧
      resolve (linkedFile.changeMode (Bytes.ofString "b/t") 0o010) "t"
          (some (Bytes.ofString "a:b")) =
        ⟨"t", some (Bytes.ofString "b/t"), true, none⟩ := by
  have hhint : (resolve linkedFile "t" (some (Bytes.ofString "a:b"))).hint =
      some ("b/t" ++ " is not executable; chmod +x it") := by
    rw [resolve_linkedFile, Bytes.lossy_ofString]
  refine ⟨hhint, ?_⟩
  obtain ⟨path, place, before, content, hpath, -, hfollowed⟩ := resolve_of_followed_hint hhint
  rw [resolve_linkedFile] at hpath
  cases hpath
  obtain ⟨hchanged, hafter⟩ := hfollowed 0o010 (by decide)
  exact (hafter _ hchanged).1

end Search

end ImageSwap
