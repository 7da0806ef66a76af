import ImageSwap.Proofs.Courses
import ImageSwap.Proofs.SearchAnswers

/-!
# What is reported of a search

A command that asks where a program is has one of four outcomes. If the program can be run, it is
reported with its path, or there is no way to write that path as a text, which takes a name without
a slash and an entry of the search path that is no text. If it cannot be run, the failure tells
whether anything was found at all.
-/

namespace ImageSwap

namespace Bytes

theorem decode?_eq_none_iff {bs : Bytes} : decode? bs = none ↔ ∀ text, bs ≠ ofString text := by
  constructor
  · rintro h text rfl
    rw [decode?_ofString] at h
    cases h
  · intro h
    cases htext : decode? bs with
    | none => rfl
    | some text => exact absurd (ofString_of_decode? htext).symm (h text)

end Bytes

namespace Search

variable {fs : FileSystem} {program : String} {searchPath : Option Bytes}

/-- What is written of a program that can be run, with the form of the path at which it is. -/
def foundJson (program : String) (path : Json) : Json :=
  .obj [("program", .str program), ("path", path), ("executable", .bool true), ("hint", .null)]

/-- All that can come of reporting a resolution. -/
inductive Reports (program : String) : Resolution → Except Failure Json → Prop where
  | written (text : String) :
    Reports program ⟨program, some (Bytes.ofString text), true, none⟩
      (.ok (foundJson program (.str text)))
  | unwritable {path : Bytes} (h : ∀ text, path ≠ Bytes.ofString text) :
    Reports program ⟨program, some path, true, none⟩ (.error (.json .pathNotText))
  | refused (path : Bytes) (hint : Option String) :
    Reports program ⟨program, some path, false, hint⟩ (.error (.permissionDenied program .eacces))
  | missing (hint : Option String) :
    Reports program ⟨program, none, false, hint⟩ (.error (.programNotFound program .enoent))

/-- What is reported of a program that can be run hangs on the form of its path alone. -/
theorem report_of_executable (path : Bytes) :
    Resolution.report ⟨program, some path, true, none⟩ =
      (Resolution.pathJson (some path)).map (foundJson program) := by
  have hreport : Resolution.report ⟨program, some path, true, none⟩ =
      Resolution.toJson ⟨program, some path, true, none⟩ := rfl
  rw [hreport, Resolution.toJson]
  cases Resolution.pathJson (some path) <;> rfl

/-- An answer is reported in one of these ways. -/
theorem Answers.reports {paths : List Bytes} {r : Resolution} (h : Answers fs program paths r) :
    Reports program r r.report := by
  cases h with
  | @runnable path h =>
    rw [report_of_executable]
    cases htext : path.decode? with
    | none =>
      have hpath : Resolution.pathJson (some path) = .error (.json .pathNotText) := by
        rw [Resolution.pathJson, htext]
      rw [hpath]
      exact .unwritable (Bytes.decode?_eq_none_iff.mp htext)
    | some text =>
      have hpath : Resolution.pathJson (some path) = .ok (.str text) := by
        rw [Resolution.pathJson, htext]
      rw [hpath, ← Bytes.ofString_of_decode? htext]
      exact .written text
  | notExecutable | notRegular => exact .refused _ _
  | missing => exact .missing _

namespace Reports

variable {r : Resolution} {report : Except Failure Json}

theorem eq_ok_iff (h : Reports program r report) {value : Json} :
    report = .ok value ↔ r.executable = true ∧
      ∃ text, r.path = some (Bytes.ofString text) ∧ value = foundJson program (.str text) := by
  cases h with
  | written text =>
    constructor
    · rintro ⟨⟩
      exact ⟨rfl, text, rfl, rfl⟩
    · rintro ⟨-, text', hpath, rfl⟩
      rw [Bytes.ofString_injective (Option.some.inj hpath)]
  | unwritable h =>
    refine iff_of_false nofun ?_
    rintro ⟨-, text, hpath, -⟩
    exact h text (Option.some.inj hpath)
  | refused | missing => exact iff_of_false nofun fun h => Bool.false_ne_true h.1

theorem eq_unwritable_iff (h : Reports program r report) :
    (∃ e, report = .error (.json e)) ↔ r.executable = true ∧
      ∃ path, r.path = some path ∧ ∀ text, path ≠ Bytes.ofString text := by
  cases h with
  | written text =>
    refine iff_of_false nofun ?_
    rintro ⟨-, path, hpath, hnot⟩
    exact hnot text (Option.some.inj hpath).symm
  | @unwritable path h => exact iff_of_true ⟨_, rfl⟩ ⟨rfl, path, rfl, h⟩
  | refused | missing => exact iff_of_false nofun fun h => Bool.false_ne_true h.1

theorem eq_refused_iff (h : Reports program r report) :
    report = .error (.permissionDenied program .eacces) ↔
      r.path.isSome = true ∧ ¬r.executable = true := by
  cases h with
  | written | unwritable => exact iff_of_false nofun fun h => h.2 rfl
  | refused => exact iff_of_true rfl ⟨rfl, Bool.false_ne_true⟩
  | missing => exact iff_of_false nofun fun h => Bool.false_ne_true h.1

theorem eq_missing_iff (h : Reports program r report) :
    report = .error (.programNotFound program .enoent) ↔ ¬r.path.isSome = true := by
  cases h with
  | written | unwritable | refused => exact iff_of_false nofun fun h => h rfl
  | missing => exact iff_of_true rfl Bool.false_ne_true

/-- There is no other way to fail. -/
theorem eq_error (h : Reports program r report) {f : Failure} (hf : report = .error f) :
    (∃ e, f = .json e) ∨ f = .permissionDenied program .eacces ∨
      f = .programNotFound program .enoent := by
  cases h with
  | written => cases hf
  | unwritable =>
    cases hf
    exact .inl ⟨_, rfl⟩
  | refused =>
    cases hf
    exact .inr (.inl rfl)
  | missing =>
    cases hf
    exact .inr (.inr rfl)

end Reports

/-! ### Paths that are no text -/

/-- In a directory whose name is text, the path of a program is text. -/
theorem exists_text_of_inDirectory (program directory : String) :
    ∃ text, inDirectory (Bytes.ofString program) (Bytes.ofString directory) =
      Bytes.ofString text := by
  have hslash : [Path.slash] = Bytes.ofString "/" := by decide
  unfold inDirectory
  split
  · exact ⟨"./" ++ program, (Bytes.ofString_append _ _).symm⟩
  · split
    · exact ⟨directory ++ program, (Bytes.ofString_append _ _).symm⟩
    · refine ⟨directory ++ ("/" ++ program), ?_⟩
      rw [Bytes.ofString_append, Bytes.ofString_append, ← hslash]
      rfl

/-- The entries of the standard search path are text. -/
theorem exists_text_of_mem_entries_none {entry : Bytes} (h : entry ∈ SearchPath.entries none) :
    ∃ text, entry = Bytes.ofString text := by
  have hentries : SearchPath.entries none = [Bytes.ofString "/bin", Bytes.ofString "/usr/bin"] := by
    decide
  rw [hentries, List.mem_cons, List.mem_singleton] at h
  obtain h | h := h
  · exact ⟨_, h⟩
  · exact ⟨_, h⟩

/-- A search looks at a path that is no text only for a name without a slash, and because of an
entry of the search path that is no text. -/
theorem exists_entry_of_not_text {path : Bytes}
    (hmem : path ∈ candidates (Bytes.ofString program) searchPath)
    (hpath : ∀ text, path ≠ Bytes.ofString text) :
    '/' ∉ program.toList ∧ ∃ along entry, searchPath = some along ∧
      entry ∈ SearchPath.entries searchPath ∧ (∀ text, entry ≠ Bytes.ofString text) ∧
        path = inDirectory (Bytes.ofString program) entry := by
  have hslash : '/' ∉ program.toList := by
    intro hslash
    rw [candidates_of_slash hslash, List.mem_singleton] at hmem
    exact hpath program hmem
  rw [candidates_of_plain hslash] at hmem
  obtain ⟨entry, hentry, rfl⟩ := List.mem_map.mp hmem
  rw [candidate_eq_inDirectory] at hpath ⊢
  have hnot : ∀ text, entry ≠ Bytes.ofString text := by
    rintro directory rfl
    obtain ⟨text, htext⟩ := exists_text_of_inDirectory program directory
    exact hpath text htext
  refine ⟨hslash, ?_⟩
  cases searchPath with
  | none =>
    obtain ⟨text, htext⟩ := exists_text_of_mem_entries_none hentry
    exact absurd htext (hnot text)
  | some along => exact ⟨along, entry, rfl, hentry, hnot, rfl⟩

/-! ### What is reported, and when -/

/-- What the report of a search for a program can be, and when it is which. -/
structure Reported (fs : FileSystem) (program : String) (searchPath : Option Bytes)
    (report : Except Failure Json) : Prop where
  /-- There is a result exactly when the program can be run at a path that is text, and the result
  holds that path. -/
  result_iff : ∀ value, report = .ok value ↔
    (resolve fs program searchPath).executable = true ∧
      ∃ text, (resolve fs program searchPath).path = some (Bytes.ofString text) ∧
        value = foundJson program (.str text)
  /-- What cannot be written is a path that is no text. -/
  unwritable_iff : (∃ e, report = .error (.json e)) ↔
    (resolve fs program searchPath).executable = true ∧
      ∃ path, (resolve fs program searchPath).path = some path ∧ ∀ text, path ≠ Bytes.ofString text
  /-- Such a path was found for a name without a slash, in an entry of the search path that is no
  text either. -/
  unwritable : ∀ e, report = .error (.json e) → '/' ∉ program.toList ∧
    ∃ along entry, searchPath = some along ∧ entry ∈ SearchPath.entries searchPath ∧
      (∀ text, entry ≠ Bytes.ofString text) ∧
        (resolve fs program searchPath).path = some (inDirectory (Bytes.ofString program) entry)
  refused_iff : ∀ paths, LooksAt program searchPath paths →
    (report = .error (.permissionDenied program .eacces) ↔
      (∃ path ∈ paths, fs.Present path) ∧ ∀ path ∈ paths, ¬fs.Runnable path)
  missing_iff : ∀ paths, LooksAt program searchPath paths →
    (report = .error (.programNotFound program .enoent) ↔ ∀ path ∈ paths, ¬fs.Present path)
  /-- There is no other failure, and each has its exit status. -/
  failure : ∀ f, report = .error f →
    (∃ e, f = .json e) ∧ f.exitStatus = 2 ∨
      f = .permissionDenied program .eacces ∧ f.exitStatus = 126 ∨
      f = .programNotFound program .enoent ∧ f.exitStatus = 127

/-- The report of a resolution is what it has to be. -/
theorem reported_resolve (fs : FileSystem) (program : String) (searchPath : Option Bytes) :
    Reported fs program searchPath (resolve fs program searchPath).report := by
  have hanswers := answers_resolve fs program searchPath
  have hreports := hanswers.reports
  have hunwritable : (∃ e, (resolve fs program searchPath).report = .error (.json e)) ↔
      (resolve fs program searchPath).executable = true ∧
        ∃ path, (resolve fs program searchPath).path = some path ∧
          ∀ text, path ≠ Bytes.ofString text :=
    hreports.eq_unwritable_iff
  refine ⟨fun value => hreports.eq_ok_iff, hunwritable, fun e he => ?_, fun paths hpaths => ?_,
    fun paths hpaths => ?_, fun f hf => ?_⟩
  · obtain ⟨-, path, hpath, hnot⟩ := hunwritable.mp ⟨e, he⟩
    obtain ⟨hmem, -⟩ := hanswers.present_of_path hpath
    obtain ⟨hslash, along, entry, halong, hentry, hno, rfl⟩ := exists_entry_of_not_text hmem hnot
    exact ⟨hslash, along, entry, halong, hentry, hno, hpath⟩
  · rw [looksAt_iff.mp hpaths] at hanswers
    rw [hreports.eq_refused_iff, hanswers.isSome_path_iff, hanswers.executable_iff]
    simp only [not_exists, not_and]
  · rw [looksAt_iff.mp hpaths] at hanswers
    rw [hreports.eq_missing_iff, hanswers.isSome_path_iff]
    simp only [not_exists, not_and]
  · obtain ⟨e, rfl⟩ | rfl | rfl := hreports.eq_error hf
    · exact .inl ⟨⟨e, rfl⟩, rfl⟩
    · exact .inr (.inl ⟨rfl, rfl⟩)
    · exact .inr (.inr ⟨rfl, rfl⟩)

/-- A command that asks where a program is, the one it names or else the configured one, comes to
the report on that program and does nothing besides. -/
theorem reported_lookup (fs : FileSystem) (searchPath : Option Bytes) (configured : Request)
    (program : Option String) :
    Reported fs (program.getD configured.program) searchPath
        (resolve fs (program.getD configured.program) searchPath).report ∧
      ∀ (w : Run.World) (i : CommandLine.Invocation) (j : Run.Journal),
        w.fs = fs → w.searchPath = searchPath → Config.load w.fs i.config = .ok configured →
          i.command = .resolve program →
            (Run.dispatch w i).runOn j =
              ((resolve fs (program.getD configured.program) searchPath).report.map .result, j) := by
  refine ⟨reported_resolve fs _ searchPath, ?_⟩
  rintro w i j rfl rfl hload hcommand
  exact Run.runOn_dispatch_resolve j hcommand hload

end Search

end ImageSwap
