import ImageSwap.Proofs.SearchAnswers

/-!
# Search paths in a row

A search along two search paths joined by a colon is the one search after the other: the first
answer that can be run, else the first that has found anything, else that nothing was found. Entries
that are added at the end can hence only improve on an answer, entries that are there already do not
even do that, and of the file system only what is seen at the candidates matters, up to the first
that can be run.
-/

namespace ImageSwap

/-- The better of two resolutions: the first that can be run, else the first that has a path. -/
def Resolution.orElse (first second : Resolution) : Resolution :=
  if first.executable then first
  else if second.executable then second
  else if first.path.isSome then first else second

namespace IsFirst

variable {p q : Bytes → Prop} {paths : List Bytes} {path : Bytes}

/-- The first path of a list is also the first when more paths follow. -/
theorem append_left (h : IsFirst p paths path) (more : List Bytes) :
    IsFirst p (paths ++ more) path := by
  obtain ⟨i, hget, hpath, hbefore⟩ := h
  obtain ⟨hi, -⟩ := List.getElem?_eq_some_iff.mp hget
  refine ⟨i, ?_, hpath, fun j hj other hother => ?_⟩
  · rw [List.getElem?_append_left hi]
    exact hget
  · rw [List.getElem?_append_left (by omega)] at hother
    exact hbefore j hj other hother

/-- Paths that do not count may come before the first one that does. -/
theorem append_right {before : List Bytes} (hnone : ∀ other ∈ before, ¬p other)
    (h : IsFirst p paths path) : IsFirst p (before ++ paths) path := by
  obtain ⟨i, hget, hpath, hbefore⟩ := h
  refine ⟨before.length + i, ?_, hpath, fun j hj other hother => ?_⟩
  · rw [List.getElem?_append_right (by omega), Nat.add_sub_cancel_left]
    exact hget
  · by_cases hlt : j < before.length
    · rw [List.getElem?_append_left hlt] at hother
      exact hnone other (List.mem_of_getElem? hother)
    · rw [List.getElem?_append_right (by omega)] at hother
      exact hbefore (j - before.length) (by omega) other hother

end IsFirst

namespace Search

variable {fs fs' : FileSystem} {program : String} {paths more : List Bytes} {r s : Resolution}

namespace Answers

/-- Where the program can be run, more paths change nothing. -/
theorem append_of_executable (h : Answers fs program paths r) (hx : r.executable = true) :
    Answers fs program (paths ++ more) r := by
  cases h with
  | runnable h => exact .runnable (h.append_left more)
  | notExecutable | notRegular | missing => cases hx

/-- What was found first stands as long as the program can be run at none of the paths that
follow. -/
theorem append_of_found (h : Answers fs program paths r) (hpath : r.path.isSome = true)
    (hmore : ∀ path ∈ more, ¬fs.Runnable path) : Answers fs program (paths ++ more) r := by
  cases h with
  | runnable h => exact .runnable (h.append_left more)
  | notExecutable hnone h hfile =>
    exact .notExecutable (List.forall_mem_append.mpr ⟨hnone, hmore⟩) (h.append_left more) hfile
  | notRegular hnone h hfile =>
    exact .notRegular (List.forall_mem_append.mpr ⟨hnone, hmore⟩) (h.append_left more) hfile
  | missing => cases hpath

/-- A path where the program can be run is the answer whatever was merely found before. -/
theorem prepend_of_executable (h : Answers fs program more r) (hx : r.executable = true)
    (hpaths : ∀ path ∈ paths, ¬fs.Runnable path) : Answers fs program (paths ++ more) r := by
  cases h with
  | runnable h => exact .runnable (h.append_right hpaths)
  | notExecutable | notRegular | missing => cases hx

/-- Paths at which nothing is found have no part in the answer. -/
theorem prepend_of_missing (h : Answers fs program more r)
    (hpaths : ∀ path ∈ paths, ¬fs.Present path) : Answers fs program (paths ++ more) r := by
  have hnot : ∀ path ∈ paths, ¬fs.Runnable path := fun path hmem hrun =>
    hpaths path hmem hrun.present
  cases h with
  | runnable h => exact .runnable (h.append_right hnot)
  | notExecutable hnone h hfile =>
    exact .notExecutable (List.forall_mem_append.mpr ⟨hnot, hnone⟩) (h.append_right hpaths) hfile
  | notRegular hnone h hfile =>
    exact .notRegular (List.forall_mem_append.mpr ⟨hnot, hnone⟩) (h.append_right hpaths) hfile
  | missing hnone => exact .missing (List.forall_mem_append.mpr ⟨hpaths, hnone⟩)

/-- Searching two rows of paths comes to the better of the two answers. -/
theorem append (hr : Answers fs program paths r) (hs : Answers fs program more s) :
    Answers fs program (paths ++ more) (r.orElse s) := by
  rw [Resolution.orElse]
  by_cases hx : r.executable = true
  · rw [if_pos hx]
    exact hr.append_of_executable hx
  · rw [if_neg hx]
    by_cases hx' : s.executable = true
    · rw [if_pos hx']
      exact hs.prepend_of_executable hx' (hr.not_runnable hx)
    · rw [if_neg hx']
      by_cases hfound : r.path.isSome = true
      · rw [if_pos hfound]
        exact hr.append_of_found hfound (hs.not_runnable hx')
      · rw [if_neg hfound]
        exact hs.prepend_of_missing (hr.not_present hfound)

/-- Paths that were searched before have no part in the answer. -/
theorem append_of_subset (h : Answers fs program paths r) (hmore : ∀ path ∈ more, path ∈ paths) :
    Answers fs program (paths ++ more) r := by
  by_cases hx : r.executable = true
  · exact h.append_of_executable hx
  · by_cases hfound : r.path.isSome = true
    · exact h.append_of_found hfound fun path hmem => h.not_runnable hx path (hmore path hmem)
    · have hnone := h.not_present hfound
      cases h with
      | missing =>
        exact .missing (List.forall_mem_append.mpr
          ⟨hnone, fun path hmem => hnone path (hmore path hmem)⟩)
      | runnable | notExecutable | notRegular => exact absurd rfl hfound

end Answers

end Search

/-! ### What of a file system matters to a search -/

/-- Two entries are of one kind, and of one mode where they are regular files. -/
inductive Entry.Alike : Entry → Entry → Prop where
  | file (mode : Nat) (content content' : Content) :
    Alike (.file mode content) (.file mode content')
  | directory : Alike .directory .directory
  | symlink (target target' : Bytes) : Alike (.symlink target) (.symlink target')
  | fifo : Alike .fifo .fifo
  | device (device device' : Device) : Alike (.device device) (.device device')

namespace FileSystem

variable {fs fs' : FileSystem} {path : Bytes}

/-- Two file systems agree on whether anything is at a path, and on its kind and mode. -/
def AgreeAt (fs fs' : FileSystem) (path : Bytes) : Prop :=
  Option.Rel Entry.Alike (fs.stat? path) (fs'.stat? path)

namespace AgreeAt

theorem present_iff (h : AgreeAt fs fs' path) : fs'.Present path ↔ fs.Present path := by
  rw [← FileSystem.present_iff, ← FileSystem.present_iff]
  unfold AgreeAt at h
  generalize fs.stat? path = seen, fs'.stat? path = seen' at h ⊢
  cases h <;> simp

theorem regular_iff (h : AgreeAt fs fs' path) : fs'.Regular path ↔ fs.Regular path := by
  rw [← FileSystem.regular_iff, ← FileSystem.regular_iff]
  unfold AgreeAt at h
  generalize fs.stat? path = seen, fs'.stat? path = seen' at h ⊢
  cases h with
  | none => rfl
  | some h => cases h <;> rfl

theorem runnable_iff (h : AgreeAt fs fs' path) : fs'.Runnable path ↔ fs.Runnable path := by
  rw [← FileSystem.runnable_iff, ← FileSystem.runnable_iff, Search.isExecutable,
    Search.isExecutable]
  unfold AgreeAt at h
  generalize fs.stat? path = seen, fs'.stat? path = seen' at h ⊢
  cases h with
  | none => rfl
  | some h => cases h <;> rfl

end AgreeAt

end FileSystem

namespace Search

variable {fs fs' : FileSystem} {program : String} {paths : List Bytes} {r : Resolution}

/-- Two file systems agree on the paths of a list up to the first at which the program can be run,
that one included. -/
def AgreeUpToFirst (fs fs' : FileSystem) (paths : List Bytes) : Prop :=
  ∀ (i : Nat) (path : Bytes), paths[i]? = some path →
    (∀ j < i, ∀ earlier, paths[j]? = some earlier → ¬fs.Runnable earlier) → fs.AgreeAt fs' path

theorem AgreeUpToFirst.agreeAt (h : AgreeUpToFirst fs fs' paths)
    (hnone : ∀ path ∈ paths, ¬fs.Runnable path) {path : Bytes} (hpath : path ∈ paths) :
    fs.AgreeAt fs' path := by
  obtain ⟨i, hget⟩ := List.getElem?_of_mem hpath
  exact h i path hget fun j _ earlier hearlier => hnone earlier (List.mem_of_getElem? hearlier)

/-- The first path at which the program can be run is the same in both. -/
theorem AgreeUpToFirst.isFirst_runnable (h : AgreeUpToFirst fs fs' paths) {path : Bytes}
    (hfirst : IsFirst fs.Runnable paths path) : IsFirst fs'.Runnable paths path := by
  obtain ⟨i, hget, hrun, hbefore⟩ := hfirst
  refine ⟨i, hget, (h i path hget hbefore).runnable_iff.mpr hrun, fun j hj other hother hrun' => ?_⟩
  have hagree := h j other hother fun k hk => hbefore k (by omega)
  exact hbefore j hj other hother (hagree.runnable_iff.mp hrun')

/-- Where the program can be run nowhere, the first path at which anything is found is the same in
both. -/
theorem AgreeUpToFirst.isFirst_present (h : AgreeUpToFirst fs fs' paths)
    (hnone : ∀ path ∈ paths, ¬fs.Runnable path) {path : Bytes}
    (hfirst : IsFirst fs.Present paths path) : IsFirst fs'.Present paths path := by
  obtain ⟨i, hget, hpresent, hbefore⟩ := hfirst
  have hagree := h.agreeAt hnone (List.mem_of_getElem? hget)
  refine ⟨i, hget, hagree.present_iff.mpr hpresent, fun j hj other hother hpresent' => ?_⟩
  have hagree' := h.agreeAt hnone (List.mem_of_getElem? hother)
  exact hbefore j hj other hother (hagree'.present_iff.mp hpresent')

/-- An answer in one file system is the answer in another that agrees with it. -/
theorem Answers.of_agree (h : Answers fs program paths r) (hagree : AgreeUpToFirst fs fs' paths) :
    Answers fs' program paths r := by
  -- Where nothing can be run there is no first such path, so the two agree on all paths.
  have hrunnable (hnone : ∀ path ∈ paths, ¬fs.Runnable path) :
      ∀ path ∈ paths, ¬fs'.Runnable path := fun path hmem hrun =>
    hnone path hmem ((hagree.agreeAt hnone hmem).runnable_iff.mp hrun)
  cases h with
  | runnable h => exact .runnable (hagree.isFirst_runnable h)
  | notExecutable hnone h hfile =>
    have hregular := (hagree.agreeAt hnone h.mem).regular_iff.mpr hfile
    exact .notExecutable (hrunnable hnone) (hagree.isFirst_present hnone h) hregular
  | notRegular hnone h hfile =>
    have hregular := mt (hagree.agreeAt hnone h.mem).regular_iff.mp hfile
    exact .notRegular (hrunnable hnone) (hagree.isFirst_present hnone h) hregular
  | missing hnone =>
    have hnot : ∀ path ∈ paths, ¬fs.Runnable path := fun path hmem hrun =>
      hnone path hmem hrun.present
    exact .missing fun path hmem hpresent =>
      hnone path hmem ((hagree.agreeAt hnot hmem).present_iff.mp hpresent)

/-! ### Joined search paths -/

/-- The candidates along a search path that is joined from two are those along the one and the
other. -/
theorem candidates_join (h : '/' ∉ program.toList) (p q : Bytes) :
    candidates (Bytes.ofString program) (some (p ++ SearchPath.colon :: q)) =
      candidates (Bytes.ofString program) (some p) ++
        candidates (Bytes.ofString program) (some q) := by
  have hentries : SearchPath.entries (some (p ++ SearchPath.colon :: q)) =
      SearchPath.entries (some p) ++ SearchPath.entries (some q) :=
    Text.split_append_cons SearchPath.colon p q
  simp only [candidates_of_plain h, hentries, List.map_append]

/-- What becomes of the resolution of a program as its search path and the file system change. -/
structure GoesThroughEntries (fs : FileSystem) (program : String) : Prop where
  /-- Along two search paths that are joined, the better of the two resolutions is the answer. -/
  joined : ∀ p q, resolve fs program (some (p ++ SearchPath.colon :: q)) =
    (resolve fs program (some p)).orElse (resolve fs program (some q))
  /-- No entry that is added changes where a program is found that can be run. -/
  kept : ∀ p q, (resolve fs program (some p)).executable = true →
    resolve fs program (some (p ++ SearchPath.colon :: q)) = resolve fs program (some p)
  /-- Entries that are there already can be added again. -/
  repeated : ∀ p q,
    (∀ entry ∈ SearchPath.entries (some q), entry ∈ SearchPath.entries (some p)) →
      resolve fs program (some (p ++ SearchPath.colon :: q)) = resolve fs program (some p)
  /-- Nothing of a file system matters but what is seen at the candidates, up to the first that can
  be run. -/
  decided : ∀ fs' searchPath,
    AgreeUpToFirst fs fs' (candidates (Bytes.ofString program) searchPath) →
      resolve fs' program searchPath = resolve fs program searchPath

/-- A program without a slash is looked for in one entry of the search path after the other. -/
theorem goesThroughEntries_of_plain (fs : FileSystem) {program : String}
    (h : '/' ∉ program.toList) : GoesThroughEntries fs program := by
  have hanswers := answers_resolve fs program
  have hjoined (p q : Bytes) : resolve fs program (some (p ++ SearchPath.colon :: q)) =
      (resolve fs program (some p)).orElse (resolve fs program (some q)) := by
    refine answers_iff.mp ?_
    rw [candidates_join h]
    exact (hanswers (some p)).append (hanswers (some q))
  refine ⟨hjoined, fun p q hx => ?_, fun p q hsubset => ?_, fun fs' searchPath hagree => ?_⟩
  · rw [hjoined, Resolution.orElse, if_pos hx]
  · refine answers_iff.mp ?_
    rw [candidates_join h]
    refine (hanswers (some p)).append_of_subset fun path hpath => ?_
    rw [candidates_of_plain h] at hpath ⊢
    obtain ⟨entry, hentry, rfl⟩ := List.mem_map.mp hpath
    exact List.mem_map_of_mem (hsubset entry hentry)
  · exact answers_iff.mp ((hanswers searchPath).of_agree hagree)

/-- A search path that names the working directory first and again, and a directory that is not
there, finds what the working directory has. -/
theorem goesThroughEntries_lonelyFile :
    '/' ∉ "t".toList ∧ (resolve Run.lonelyFile "t" (some Path.dot)).executable = true ∧
      resolve Run.lonelyFile "t" (some (Path.dot ++ SearchPath.colon :: Bytes.ofString ":a")) =
        ⟨"t", some (Bytes.ofString "./t"), true, none⟩ := by
  have hslash : '/' ∉ "t".toList := by decide
  have hx : (resolve Run.lonelyFile "t" (some Path.dot)).executable = true := by
    rw [resolve_lonelyFile]
  refine ⟨hslash, hx, ?_⟩
  rw [(goesThroughEntries_of_plain Run.lonelyFile hslash).kept _ _ hx, resolve_lonelyFile]

end Search

end ImageSwap
