import ImageSwap.Proofs.Courses
import ImageSwap.Proofs.SearchAnswers

/-!
# Asking for a path that was found

Whatever the entries of a search path look like, and even for a program without a name, each path at
which a search looks has a slash. A path that was found is hence taken as it is when it is asked for
in turn. Along any search path the answer is the same path again, as fit to run as before and with
the same hint.
-/

namespace ImageSwap

namespace Search

variable {fs : FileSystem} {program : String} {searchPath : Option Bytes} {path : Bytes}

theorem slash_mem_candidate (file entry : Bytes) : Path.slash ∈ candidate file entry := by
  by_cases hnil : entry = []
  · rw [hnil, candidate_of_nil]
    simp
  · by_cases hlast : entry.getLast? = some Path.slash
    · rw [candidate_of_getLast? hlast]
      exact List.mem_append_left file (List.mem_of_getLast? hlast)
    · rw [candidate_of_plain hnil hlast]
      simp

/-- Every path at which a search looks has a slash. -/
theorem slash_mem_of_mem_candidates {file : Bytes} (h : path ∈ candidates file searchPath) :
    Path.slash ∈ path := by
  by_cases hslash : file.contains Path.slash = true
  · rw [candidates, if_pos hslash, List.mem_singleton] at h
    rw [h]
    exact List.contains_iff_mem.mp hslash
  · rw [candidates, if_neg hslash] at h
    obtain ⟨entry, -, rfl⟩ := List.mem_map.mp h
    exact slash_mem_candidate file entry

/-- All else in a resolution follows from the program and the path that was found. -/
theorem resolve_of_path (h : (resolve fs program searchPath).path = some path) :
    resolve fs program searchPath = ⟨program, some path, isExecutable fs path, hint? fs path⟩ := by
  cases hchoose : choose fs (candidates (Bytes.ofString program) searchPath) with
  | none =>
    rw [resolve, hchoose] at h
    cases h
  | some chosen =>
    rw [resolve_of_choose hchoose] at h ⊢
    cases h
    rfl

/-- A path at which there is something is found when it is asked for, along any search path. -/
theorem resolve_of_present {text : String} (hslash : '/' ∈ text.toList)
    (hpresent : fs.Present (Bytes.ofString text)) (searchPath : Option Bytes) :
    resolve fs text searchPath =
      ⟨text, some (Bytes.ofString text), isExecutable fs (Bytes.ofString text),
        hint? fs (Bytes.ofString text)⟩ := by
  have hcandidates := candidates_of_slash hslash searchPath
  have hfound := answers_resolve fs text searchPath
  have hsome : (resolve fs text searchPath).path.isSome = true := by
    refine hfound.isSome_path_iff.mpr ⟨Bytes.ofString text, ?_, hpresent⟩
    rw [hcandidates]
    exact List.mem_singleton_self _
  obtain ⟨path, hpath⟩ := Option.isSome_iff_exists.mp hsome
  obtain ⟨hmem, -⟩ := hfound.present_of_path hpath
  rw [hcandidates, List.mem_singleton] at hmem
  rw [hmem] at hpath
  exact resolve_of_path hpath

end Search

/-- Two searches come to the same: both find a program that can run, or they fail with the same kind
of failure and the same exit status. -/
inductive Resolution.EndsAlike : Except Failure Resolution → Except Failure Resolution → Prop where
  | found (r s : Resolution) : EndsAlike (.ok r) (.ok s)
  | failed {f g : Failure} (hkind : f.kind = g.kind) (hstatus : f.exitStatus = g.exitStatus) :
    EndsAlike (.error f) (.error g)

namespace Resolution

/-- Which program was asked for has no part in how a resolution ends. -/
theorem endsAlike_renamed (r : Resolution) (program : String) :
    EndsAlike { r with program }.toResult r.toResult := by
  obtain ⟨name, path, executable, hint⟩ := r
  cases path with
  | none => exact .failed rfl rfl
  | some path =>
    cases executable with
    | false => exact .failed rfl rfl
    | true => exact .found _ _

end Resolution

namespace Search

variable {fs : FileSystem} {program : String} {searchPath : Option Bytes}

/-- What comes of asking for the path of a resolution in turn. -/
structure FoundAgain (fs : FileSystem) (r : Resolution) (text : String) : Prop where
  slash : '/' ∈ text.toList
  /-- There is no search: the path is the only place to look at. -/
  unsearched : ∀ searchPath, LooksAt text searchPath [Bytes.ofString text]
  /-- The answer is the same but for the program that was asked for. -/
  resolved : ∀ searchPath, resolve fs text searchPath = { r with program := text }
  endsAlike : ∀ searchPath, Resolution.EndsAlike (resolve fs text searchPath).toResult r.toResult
  /-- A command that is given the path for its program reports the same, whatever is configured. -/
  reported : ∀ (w : Run.World) (i : CommandLine.Invocation) (configured : Request)
    (j : Run.Journal), w.fs = fs → Config.load w.fs i.config = .ok configured →
      i.command = .resolve (some text) →
        (Run.dispatch w i).runOn j = ({ r with program := text }.report.map .result, j)

/-- A path that was found, and that is text, is found again whenever it is asked for. -/
theorem foundAgain_of_path {text : String}
    (h : (resolve fs program searchPath).path = some (Bytes.ofString text)) :
    FoundAgain fs (resolve fs program searchPath) text := by
  obtain ⟨hmem, hpresent⟩ := (answers_resolve fs program searchPath).present_of_path h
  -- The path is not searched for because it is one that a search has made.
  have hslash : '/' ∈ text.toList :=
    (Bytes.mem_ofString_iff (by decide) text).mp (slash_mem_of_mem_candidates hmem)
  have hresolved (other : Option Bytes) :
      resolve fs text other = { resolve fs program searchPath with program := text } := by
    rw [resolve_of_present hslash hpresent, resolve_of_path h]
  refine ⟨hslash, fun _ => .path hslash, hresolved, fun other => ?_, ?_⟩
  · rw [hresolved]
    exact Resolution.endsAlike_renamed _ text
  · rintro w i configured j rfl hload hcommand
    rw [Run.runOn_dispatch_resolve j hcommand hload, Option.getD_some, hresolved]

/-- The path of a program in the working directory is found along a search path without that
directory. -/
theorem foundAgain_lonelyFile :
    (resolve Run.lonelyFile "t" (some Path.dot)).path = some (Bytes.ofString "./t") ∧
      resolve Run.lonelyFile "./t" (some (Bytes.ofString "a:b")) =
        ⟨"./t", some (Bytes.ofString "./t"), true, none⟩ := by
  have hpath : (resolve Run.lonelyFile "t" (some Path.dot)).path =
      some (Bytes.ofString "./t") := by
    rw [resolve_lonelyFile]
  refine ⟨hpath, ?_⟩
  rw [(foundAgain_of_path hpath).resolved, resolve_lonelyFile]

end Search

end ImageSwap
