import ImageSwap.Exec.PathSearch
import ImageSwap.Proofs.Loading
import ImageSwap.Search

/-!
# The paths that a search tries

Loading a program by name amounts to trying a list of paths in order until one is loaded or fails in
a way that ends the search. Each path comes from one entry of the search path, as does each
candidate of a mere search for the program, and the two lead to the same place unless they are too
long. A search that has a path to try comes to the same whatever error number the process was left
with before.
-/

namespace ImageSwap

namespace Exec

/-- The paths that the system tries for a file in the entries of a search path. The last entry is
not tried when it is too long. -/
def attemptsAlong (file : Bytes) : List Bytes → List Bytes
  | [] => []
  | entry :: rest =>
    if rest = [] ∧ Path.lengthLimit ≤ entry.length then []
    else entryPath file entry :: attemptsAlong file rest

/-- The paths that the system tries for a file, in order. -/
def attempts (searchPath : Option Bytes) (file : Bytes) : List Bytes :=
  if file.contains Path.slash then [file]
  else attemptsAlong file (SearchPath.entries searchPath)

/-- Only one entry alone, and one too long, gives the system no path to try. -/
theorem attemptsAlong_eq_nil_iff {file : Bytes} {entries : List Bytes} (hne : entries ≠ []) :
    attemptsAlong file entries = [] ↔
      ∃ entry, entries = [entry] ∧ Path.lengthLimit ≤ entry.length := by
  cases entries with
  | nil => exact absurd rfl hne
  | cons first rest =>
    rw [attemptsAlong]
    split
    · next hlast => exact iff_of_true rfl ⟨first, by rw [hlast.1], hlast.2⟩
    · next hlast =>
      refine iff_of_false (List.cons_ne_nil _ _) ?_
      rintro ⟨entry, hentries, hlong⟩
      obtain ⟨rfl, hrest⟩ := List.cons.inj hentries
      exact hlast ⟨hrest, hlong⟩

theorem attemptsAlong_eq_map {file : Bytes} {entries : List Bytes}
    (hl : ∀ entry ∈ entries, entry.length < Path.lengthLimit) :
    attemptsAlong file entries = entries.map (entryPath file) := by
  induction entries with
  | nil => rfl
  | cons first rest ih =>
    have hfirst := hl first List.mem_cons_self
    rw [attemptsAlong, if_neg (by omega), List.map_cons,
      ih fun entry h => hl entry (List.mem_cons_of_mem _ h)]

/-- Tries paths in order. `denied` tells that a file was found but could not be run, and `last` is
the failure at the path before, or what was left from before the first. -/
def tryPaths (fs : FileSystem) (argv : List Bytes) (denied : Bool) (last : Errno) :
    List Bytes → Except Errno Image
  | [] => .error (if denied then .eacces else last)
  | path :: rest =>
    match loadOrInterpret fs path argv with
    | .ok image => .ok image
    | .error errno =>
      if goesOn errno then tryPaths fs argv (denied || errno = .eacces) errno rest
      else .error errno

variable {fs : FileSystem} {argv : List Bytes} {denied : Bool} {last left : Errno}

theorem tryEntries_eq_tryPaths (file : Bytes) (entries : List Bytes) :
    tryEntries fs file argv denied last entries =
      tryPaths fs argv denied last (attemptsAlong file entries) := by
  induction entries generalizing denied last with
  | nil => rfl
  | cons entry rest ih =>
    rw [tryEntries, attemptsAlong]
    split
    · rfl
    · rw [tryPaths]
      cases loadOrInterpret fs (entryPath file entry) argv with
      | ok image => rfl
      | error errno => simp only [ih]

/-- A name that the system looks for at all is looked for by trying its paths. -/
theorem search_eq_tryPaths (searchPath : Option Bytes) {file : Bytes} (hne : file ≠ [])
    (hshort : Path.slash ∉ file → file.length ≤ fileNameLimit) :
    search fs searchPath left file argv =
      tryPaths fs argv false left (attempts searchPath file) := by
  rw [search, if_neg hne, attempts]
  by_cases hs : file.contains Path.slash = true
  · rw [if_pos hs, if_pos hs, tryPaths]
    cases loadOrInterpret fs file argv with
    | ok image => rfl
    | error errno =>
      by_cases he : errno = .eacces <;> simp [tryPaths, he]
  · have hl := hshort (by simpa using hs)
    rw [if_neg hs, if_neg hs, if_neg (by omega), tryEntries_eq_tryPaths]

theorem search_of_too_long (searchPath : Option Bytes) {file : Bytes} (hs : Path.slash ∉ file)
    (hl : fileNameLimit < file.length) :
    search fs searchPath left file argv = .error .enametoolong := by
  have hne : file ≠ [] := by
    rintro rfl
    simp at hl
  rw [search, if_neg hne, if_neg (by simpa using hs), if_pos hl]

/-- The system looks for a name and has no path to try. -/
structure TriesNothing (searchPath : Option Bytes) (file : Bytes) : Prop where
  ne_nil : file ≠ []
  slash_notMem : Path.slash ∉ file
  length_le : file.length ≤ fileNameLimit
  /-- The search path is one entry alone, which is too long to be a directory. -/
  entries : ∃ entry, SearchPath.entries searchPath = [entry] ∧ Path.lengthLimit ≤ entry.length

/-- There is no path to try where the list of paths is empty. -/
theorem triesNothing_iff {searchPath : Option Bytes} {file : Bytes} (hne : file ≠ [])
    (hshort : Path.slash ∉ file → file.length ≤ fileNameLimit) :
    TriesNothing searchPath file ↔ attempts searchPath file = [] := by
  rw [attempts]
  by_cases hs : Path.slash ∈ file
  · rw [if_pos (by simpa using hs)]
    exact iff_of_false (fun h => h.slash_notMem hs) (List.cons_ne_nil _ _)
  · rw [if_neg (by simpa using hs),
      attemptsAlong_eq_nil_iff (SearchPath.entries_ne_nil searchPath)]
    exact ⟨TriesNothing.entries, TriesNothing.mk hne hs (hshort hs)⟩

/-- Once a path was tried, nothing depends on the error number from before. -/
theorem tryPaths_congr_last {paths : List Bytes} (hne : paths ≠ []) (last' : Errno) :
    tryPaths fs argv denied last paths = tryPaths fs argv denied last' paths := by
  cases paths with
  | nil => exact absurd rfl hne
  | cons path paths => rw [tryPaths, tryPaths]

/-- A search that has something to try, or does not begin, comes to the same whatever was left from
before. -/
theorem search_congr_left {searchPath : Option Bytes} {file : Bytes}
    (h : ¬TriesNothing searchPath file) (left' : Errno) :
    search fs searchPath left file argv = search fs searchPath left' file argv := by
  by_cases hne : file = []
  · rw [search, search, if_pos hne, if_pos hne]
  by_cases hshort : Path.slash ∉ file → file.length ≤ fileNameLimit
  · rw [search_eq_tryPaths searchPath hne hshort, search_eq_tryPaths searchPath hne hshort,
      tryPaths_congr_last (mt (triesNothing_iff hne hshort).mpr h) left']
  · obtain ⟨hs, hl⟩ := Classical.not_imp.mp hshort
    rw [search_of_too_long searchPath hs (Nat.not_le.mp hl),
      search_of_too_long searchPath hs (Nat.not_le.mp hl)]

/-- Loading a path fails in a way after which the search goes on. -/
def PassedOver (fs : FileSystem) (argv : List Bytes) (path : Bytes) : Prop :=
  ∃ errno, loadOrInterpret fs path argv = .error errno ∧ goesOn errno

/-- The first path after which the search does not go on decides. -/
theorem tryPaths_of_decisive {path : Bytes} {before after : List Bytes}
    (hbefore : ∀ p ∈ before, PassedOver fs argv p) (h : ¬PassedOver fs argv path) :
    tryPaths fs argv denied last (before ++ path :: after) = loadOrInterpret fs path argv := by
  induction before generalizing denied last with
  | nil =>
    rw [List.nil_append, tryPaths]
    cases hload : loadOrInterpret fs path argv with
    | ok image => rfl
    | error errno => exact if_neg fun hgo => h ⟨errno, hload, hgo⟩
  | cons first before ih =>
    obtain ⟨errno, herror, hgo⟩ := hbefore first List.mem_cons_self
    simp only [List.cons_append, tryPaths, herror, if_pos hgo]
    exact ih fun p hp => hbefore p (List.mem_cons_of_mem _ hp)

/-- When the search goes on after every path and has been refused at one, it is refused. -/
theorem tryPaths_of_refused {paths : List Bytes} (hpaths : ∀ p ∈ paths, PassedOver fs argv p)
    (h : denied = true ∨ ∃ p ∈ paths, loadOrInterpret fs p argv = .error .eacces) :
    tryPaths fs argv denied last paths = .error .eacces := by
  induction paths generalizing denied last with
  | nil =>
    have hdenied : denied = true := by simpa using h
    rw [tryPaths, if_pos hdenied]
  | cons path paths ih =>
    obtain ⟨errno, herror, hgo⟩ := hpaths path List.mem_cons_self
    simp only [tryPaths, herror, if_pos hgo]
    refine ih (fun p hp => hpaths p (List.mem_cons_of_mem _ hp)) ?_
    rw [Bool.or_eq_true, decide_eq_true_eq]
    rcases h with hdenied | ⟨p, hp, hrefused⟩
    · exact .inl (.inl hdenied)
    · rcases List.mem_cons.mp hp with rfl | hp
      · rw [herror, Except.error.injEq] at hrefused
        exact .inl (.inr hrefused)
      · exact .inr ⟨p, hp, hrefused⟩

/-- A path leads nowhere: loading it fails because a name on the way is missing, or is that of no
directory. -/
def Missing (fs : FileSystem) (argv : List Bytes) (path : Bytes) : Prop :=
  ∃ errno, (errno = .enoent ∨ errno = .enotdir) ∧ loadOrInterpret fs path argv = .error errno

theorem Missing.passedOver {path : Bytes} (h : Missing fs argv path) : PassedOver fs argv path := by
  obtain ⟨errno, rfl | rfl, herror⟩ := h
  all_goals exact ⟨_, herror, rfl⟩

/-- When every path leads nowhere, so does the search. -/
theorem tryPaths_of_missing {paths : List Bytes}
    (hlast : paths = [] → last = .enoent ∨ last = .enotdir)
    (hpaths : ∀ p ∈ paths, Missing fs argv p) :
    ∃ errno, (errno = .enoent ∨ errno = .enotdir) ∧
      tryPaths fs argv false last paths = .error errno := by
  induction paths generalizing last with
  | nil => exact ⟨last, hlast rfl, rfl⟩
  | cons path paths ih =>
    obtain ⟨errno, hfault, herror⟩ := hpaths path List.mem_cons_self
    obtain ⟨final, hfinal, htry⟩ := ih (fun _ => hfault) fun p hp =>
      hpaths p (List.mem_cons_of_mem _ hp)
    refine ⟨final, hfinal, ?_⟩
    rw [tryPaths, herror]
    rcases hfault with rfl | rfl <;> exact htry

end Exec

namespace Search

open Exec (attempts attemptsAlong entryPath fileNameLimit)

/-- There is always a candidate. -/
theorem candidates_ne_nil (file : Bytes) (searchPath : Option Bytes) :
    candidates file searchPath ≠ [] := by
  unfold candidates
  split
  · exact List.cons_ne_nil _ _
  · simpa using SearchPath.entries_ne_nil searchPath

theorem candidate_of_nil (file : Bytes) : candidate file [] = Path.dot ++ Path.slash :: file := by
  simp [candidate, Path.join, Path.dot, Path.slash]

theorem candidate_of_getLast? {file entry : Bytes} (h : entry.getLast? = some Path.slash) :
    candidate file entry = entry ++ file := by
  have hne : entry ≠ [] := by
    rintro rfl
    simp at h
  rw [candidate, if_neg hne, Path.join, if_pos h]

theorem candidate_of_plain {file entry : Bytes} (hne : entry ≠ [])
    (h : entry.getLast? ≠ some Path.slash) :
    candidate file entry = entry ++ Path.slash :: file := by
  rw [candidate, if_neg hne, Path.join, if_neg h]

/-- A candidate is no shorter than the entry it comes from. -/
theorem length_le_candidate (file entry : Bytes) :
    entry.length ≤ (candidate file entry).length := by
  by_cases hne : entry = []
  · simp [hne]
  · by_cases h : entry.getLast? = some Path.slash
    · simp [candidate_of_getLast? h]
    · simp [candidate_of_plain hne h]

section Entry

variable {fs : FileSystem} {file entry : Bytes}

/-- The working directory's own name leads a candidate where the bare name leads. -/
theorem lookup_candidate_of_nil (hne : file ≠ []) (hs : Path.slash ∉ file)
    (hl : file.length ≤ fileNameLimit) :
    fs.lookup (candidate file []) = fs.lookup file := by
  have hbare : Path.isAbsolute file = false := by
    cases file with
    | nil => rfl
    | cons b bs => simpa [Path.isAbsolute] using fun hb : b = Path.slash => hs (by simp [hb])
  have hlimit : fileNameLimit + 2 < Path.lengthLimit := by decide
  have hnames : Path.names (Path.dot ++ Path.slash :: file) = [Path.dot, file] :=
    Path.names_append_slash hne hs Path.dot
  rw [candidate_of_nil, FileSystem.lookup_of_fits hne (by omega),
    FileSystem.lookup_of_fits (by simp [Path.dot]) (by simp [Path.dot]; omega), hnames,
    Path.names_of_not_mem hne hs, hbare, FileSystem.walk_dot_cons]
  rfl

/-- A slash more between an entry and a name leads to the same place, if there is room for it. -/
theorem lookup_append_slash (hne : file ≠ []) (hs : Path.slash ∉ file)
    (h : entry.getLast? = some Path.slash)
    (hfits : (entry ++ Path.slash :: file).length < Path.lengthLimit) :
    fs.lookup (entry ++ Path.slash :: file) = fs.lookup (entry ++ file) := by
  obtain ⟨front, rfl⟩ := List.getLast?_eq_some_iff.mp h
  have hstart : Path.isAbsolute (front ++ Path.slash :: Path.slash :: file) =
      Path.isAbsolute (front ++ Path.slash :: file) := by
    cases front <;> rfl
  simp only [List.append_assoc, List.singleton_append, List.length_append,
    List.length_cons] at hfits ⊢
  rw [FileSystem.lookup_of_fits (by simp) (by simp; omega),
    FileSystem.lookup_of_fits (by simp) (by simp; omega),
    Path.names_append_slash_slash hne hs, hstart]

/-- The system's path for an entry leads where the candidate leads, unless it is too long. -/
theorem lookup_entryPath (hne : file ≠ []) (hs : Path.slash ∉ file)
    (hl : file.length ≤ fileNameLimit) (hentry : entry.length < Path.lengthLimit)
    (hfits : (entryPath file entry).length < Path.lengthLimit) :
    fs.lookup (entryPath file entry) = fs.lookup (candidate file entry) := by
  by_cases hnil : entry = []
  · rw [hnil, lookup_candidate_of_nil hne hs hl, entryPath, if_pos (.inl rfl)]
  · have hpath : entryPath file entry = entry ++ Path.slash :: file :=
      if_neg (by simp only [hnil, false_or]; omega)
    rw [hpath] at hfits ⊢
    by_cases h : entry.getLast? = some Path.slash
    · rw [candidate_of_getLast? h, lookup_append_slash hne hs h hfits]
    · rw [candidate_of_plain hnil h]

end Entry

end Search

end ImageSwap
