import ImageSwap.Config
import ImageSwap.Proofs.PathTrails
import ImageSwap.Proofs.Results

/-!
# What loading a config file comes to

The file at a path is opened and read to its end, and its text is parsed. A path that cannot be
opened since nothing is there is a fault of the config; every other failure to open or to read is
passed on as it is. Nothing but the content of a file is ever taken for a config, save the default
one where no path is given.
-/

namespace ImageSwap

namespace Entry

/-- What a process reads from an entry to its end. A program of the system is no text, whatever its
bytes are. -/
inductive Reads : Entry → Bytes → Prop where
  | data (mode : Nat) (bytes : Bytes) : Reads (.file mode (.data bytes)) bytes
  | program (mode : Nat) (utility : Utility) : Reads (.file mode (.utility utility)) [0xff]
  | null : Reads (.device .null) []

/-- Whether reading an entry may never come to an end. -/
def Endless (entry : Entry) : Prop := entry = .fifo ∨ entry = .device .full

end Entry

namespace Config

open FileSystem (Opens Follows)
open Relation (ReflTransGen)

variable {fs : FileSystem} {path : Bytes} {f : Failure}

/-- A config file that cannot be used makes a failure with exit status 2. -/
theorem exitStatus_of_load {path : Option Bytes} (h : load fs path = .error f) :
    f.exitStatus = 2 := by
  have hparse {text : String} (h : parse text = .error f) : f.exitStatus = 2 := by
    unfold parse at h
    split at h
    · cases h
      rfl
    · obtain ⟨c, -, rfl⟩ := except_mapError_eq_error_iff.mp h
      rfl
  unfold load at h
  split at h
  · cases h
  · split at h
    · cases h
      rfl
    · cases h
      rfl
    · split at h
      · cases h
        rfl
      · exact hparse h

/-! ### Reading -/

theorem read_of_zero (h : 0 ∈ path) : read fs path = .error .nulInPath := by
  rw [read, if_pos (List.contains_iff_mem.mpr h)]

section

variable (hzero : 0 ∉ path)

include hzero

private theorem read_eq : read fs path =
    match fs.lookup path with
    | .error errno => .error (.os errno)
    | .ok (_, .file _ (.data bytes)) => .ok bytes
    | .ok (_, .file _ (.utility _)) => .ok [0xff]
    | .ok (_, .directory) => .error (.os .eisdir)
    | .ok _ => .ok [] := by
  have hnul : path.contains 0 = false := by simpa using hzero
  unfold read
  rw [hnul]
  rfl

theorem read_of_opens_error {errno : Errno} (h : Opens fs path (.error errno)) :
    read fs path = .error (.os errno) := by
  rw [read_eq hzero, h.lookup_error]

theorem read_of_directory (h : Opens fs path (.ok .directory)) :
    read fs path = .error (.os .eisdir) := by
  obtain ⟨place, hfound⟩ := h.exists_lookup
  rw [read_eq hzero, hfound]

theorem read_of_reads {entry : Entry} {bytes : Bytes} (h : Opens fs path (.ok entry))
    (hreads : entry.Reads bytes) : read fs path = .ok bytes := by
  obtain ⟨place, hfound⟩ := h.exists_lookup
  rw [read_eq hzero, hfound]
  cases hreads <;> rfl

/-- What was opened is there. -/
theorem read_ne_enoent {entry : Entry} (h : Opens fs path (.ok entry)) :
    read fs path ≠ .error (.os .enoent) := by
  obtain ⟨place, hfound⟩ := h.exists_lookup
  rw [read_eq hzero, hfound]
  split
  · next heq => cases heq
  · nofun
  · nofun
  · simp [Errno.eisdir, Errno.enoent]
  · nofun

end

/-! ### Loading -/

/-- The failure of a config file whose path leads to nothing. -/
def notFound (path : Bytes) : Failure := .configParse s!"config file not found: {path.lossy}"

theorem load_of_read_enoent (h : read fs path = .error (.os .enoent)) :
    load fs (some path) = .error (notFound path) := by
  rw [load, h]
  rfl

theorem load_of_read_error {e : IoError} (h : read fs path = .error e) (hne : e ≠ .os .enoent) :
    load fs (some path) = .error (.io e) := by
  rw [load, h]
  split
  · next heq =>
    cases heq
    exact absurd rfl hne
  · next heq =>
    cases heq
    rfl
  · next heq => cases heq

theorem load_of_read_ok {bytes : Bytes} (h : read fs path = .ok bytes) :
    load fs (some path) = match bytes.decode? with
      | some text => parse text
      | none => .error (.io .notUtf8) := by
  simp only [load, h]
  cases bytes.decode? <;> rfl

/-- A path that is refused for another reason than that nothing is there makes that failure. -/
theorem load_of_opens_error {errno : Errno} (hzero : 0 ∉ path)
    (h : Opens fs path (.error errno)) (hne : errno ≠ .enoent) :
    load fs (some path) = .error (.io (.os errno)) :=
  load_of_read_error (read_of_opens_error hzero h) fun heq => hne (IoError.os.inj heq)

/-- No text that was read is refused as a file that was not found. -/
theorem parse_ne_notFound (text : String) : parse text ≠ .error (notFound path) := by
  have hinvalid (reason : String) : invalid reason ≠ notFound path := by
    intro heq
    have htexts := congrArg String.toList (Failure.configParse.inj heq)
    rw [String.toList_append, String.toList_append] at htexts
    have hfirst := congrArg List.head? htexts
    have hinvalid : (toString "invalid TOML: ").toList.head? = some 'i' := by decide
    have hmissing : (toString "config file not found: ").toList.head? = some 'c' := by decide
    rw [List.head?_append, List.head?_append, hinvalid, hmissing] at hfirst
    cases hfirst
  intro h
  unfold parse at h
  split at h
  · exact hinvalid _ (Except.error.inj h)
  · obtain ⟨c, -, heq⟩ := except_mapError_eq_error_iff.mp h
    exact hinvalid _ heq

/-- A file is found missing when nothing is found at its path, and in no other case. -/
theorem load_eq_notFound_iff : load fs (some path) = .error (notFound path) ↔
    0 ∉ path ∧ Opens fs path (.error .enoent) := by
  refine ⟨fun h => ?_, fun ⟨hzero, hopens⟩ =>
    load_of_read_enoent (read_of_opens_error hzero hopens)⟩
  cases hread : read fs path with
  | error e =>
    by_cases he : e = .os .enoent
    · subst he
      by_cases hzero : 0 ∈ path
      · rw [read_of_zero hzero] at hread
        cases hread
      · obtain ⟨errno | entry, hopens⟩ := FileSystem.exists_opens fs path
        · rw [read_of_opens_error hzero hopens] at hread
          cases hread
          exact ⟨hzero, hopens⟩
        · exact absurd hread (read_ne_enoent hzero hopens)
    · rw [load_of_read_error hread he] at h
      cases h
  | ok bytes =>
    rw [load_of_read_ok hread] at h
    split at h
    · exact absurd h (parse_ne_notFound _)
    · cases h

/-- A config that was loaded is what the text of a file says. -/
theorem parse_of_load {r : Request} (h : load fs (some path) = .ok r) :
    ∃ bytes text, read fs path = .ok bytes ∧ bytes.decode? = some text ∧ parse text = .ok r := by
  cases hread : read fs path with
  | error e =>
    by_cases he : e = .os .enoent
    · rw [load_of_read_enoent (he ▸ hread)] at h
      cases h
    · rw [load_of_read_error hread he] at h
      cases h
  | ok bytes =>
    rw [load_of_read_ok hread] at h
    cases htext : bytes.decode? with
    | none =>
      rw [htext] at h
      cases h
    | some text =>
      rw [htext] at h
      exact ⟨bytes, text, rfl, htext, h⟩

/-- In a tree, what a path opens is a directory, or can be read to its end, or has none. -/
theorem kinds_of_opens (htree : fs.IsTree) {entry : Entry} (h : Opens fs path (.ok entry)) :
    entry = .directory ∨ entry.Endless ∨ ∃ bytes, entry.Reads bytes := by
  rcases entry with ⟨mode, bytes | utility⟩ | _ | target | _ | (_ | _)
  · exact .inr (.inr ⟨bytes, .data mode bytes⟩)
  · exact .inr (.inr ⟨_, .program mode utility⟩)
  · exact .inl rfl
  · exact absurd rfl (FileSystem.ne_symlink_of_opens htree h target)
  · exact .inr (.inl (.inl rfl))
  · exact .inr (.inr ⟨[], .null⟩)
  · exact .inr (.inl (.inr rfl))

/-- What loading the config file at a path comes to, by what opening the path comes to. -/
structure LoadsAsOpened (fs : FileSystem) (path : Bytes) : Prop where
  /-- Opening a path comes to one thing: an entry, or one of four failures. -/
  opens : ∃! result, Opens fs path result
  faults : ∀ errno, Opens fs path (.error errno) → errno ∈ FileSystem.lookupFaults
  /-- A file is reported as not found just when there is nothing at its path. -/
  missing : load fs (some path) = .error (.configParse s!"config file not found: {path.lossy}") ↔
    0 ∉ path ∧ Opens fs path (.error .enoent)
  /-- Any other reason why a path cannot be opened or read is passed on. -/
  zero : 0 ∈ path → load fs (some path) = .error (.io .nulInPath)
  refused : ∀ errno, 0 ∉ path → Opens fs path (.error errno) → errno ≠ .enoent →
    load fs (some path) = .error (.io (.os errno))
  directory : 0 ∉ path → Opens fs path (.ok .directory) →
    load fs (some path) = .error (.io (.os .eisdir))
  /-- Links that lead on without an end are given up. -/
  endless : 0 ∉ path → Path.Fits path → ∀ steps : Nat → Trail, steps 0 = fs.trailOf path →
    (∀ n, Follows fs (steps n) (steps (n + 1))) →
      load fs (some path) = .error (.io (.os .eloop))
  /-- What can be read to its end is parsed if it is text. -/
  content : 0 ∉ path → ∀ entry bytes, Opens fs path (.ok entry) → entry.Reads bytes →
    load fs (some path) = match bytes.decode? with
      | some text => parse text
      | none => .error (.io .notUtf8)
  /-- No failure is made up for: what is loaded stands in what the path opens. -/
  loaded : fs.IsTree → ∀ r, load fs (some path) = .ok r →
    ∃ entry, Opens fs path (.ok entry) ∧ (entry.Endless ∨
      ∃ bytes text, entry.Reads bytes ∧ bytes.decode? = some text ∧ parse text = .ok r)
  status : ∀ f, load fs (some path) = .error f → f.exitStatus = 2

/-- Without a path the default config is loaded; with one, what loading comes to is decided by what
opening the path and reading to the end come to. -/
theorem loadsAsOpened (fs : FileSystem) (path : Bytes) :
    load fs none = .ok {} ∧ LoadsAsOpened fs path := by
  refine ⟨rfl, ?_⟩
  constructor
  case opens =>
    refine ⟨_, FileSystem.opens_iff.mpr rfl, fun result h => ?_⟩
    exact h.lookup.symm
  case faults => exact fun errno h => FileSystem.lookup_error h.lookup_error
  case missing => exact load_eq_notFound_iff
  case zero => exact fun hzero => load_of_read_error (read_of_zero hzero) (by nofun)
  case refused => exact fun errno hzero => load_of_opens_error hzero
  case directory =>
    intro hzero h
    exact load_of_read_error (read_of_directory hzero h) (by decide)
  case endless =>
    intro hzero hfits steps hstart hsteps
    exact load_of_opens_error hzero (FileSystem.opens_of_endless hfits hstart hsteps) (by decide)
  case content =>
    exact fun hzero entry bytes h hreads => load_of_read_ok (read_of_reads hzero h hreads)
  case loaded =>
    intro htree r h
    obtain ⟨bytes, text, hread, htext, hparse⟩ := parse_of_load h
    have hzero : 0 ∉ path := by
      intro hzero
      rw [read_of_zero hzero] at hread
      cases hread
    obtain ⟨errno | entry, hopens⟩ := FileSystem.exists_opens fs path
    · rw [read_of_opens_error hzero hopens] at hread
      cases hread
    · refine ⟨entry, hopens, ?_⟩
      obtain rfl | hendless | ⟨held, hreads⟩ := kinds_of_opens htree hopens
      · rw [read_of_directory hzero hopens] at hread
        cases hread
      · exact .inl hendless
      · rw [read_of_reads hzero hopens hreads] at hread
        cases hread
        exact .inr ⟨_, text, hreads, htext, hparse⟩
  case status => exact fun f h => exitStatus_of_load h

/-! ### A chain of links that is too long -/

/-- The name of one end of a chain of links, and of the links after it. -/
def chainName (n : Nat) : Bytes := [0x41 + UInt8.ofNat n]

/-- A file without content, and a chain of one link more to it than are followed. -/
def longChain : FileSystem where
  entries := ([chainName 0], .file 0o644 (.data [])) ::
    (List.range 41).map fun n => ([chainName (n + 1)], .symlink (chainName n))

private theorem entry?_longChain :
    ∀ n < 41, longChain.entry? [chainName (n + 1)] = some (.symlink (chainName n)) := by
  decide

private theorem names_chainName : ∀ n < 42, Path.names (chainName n) = [chainName n] := by decide

private theorem proper_chainName {n : Nat} (h : n < 42) : Path.Proper (chainName n) where
  ne_dot := by
    revert n
    decide
  ne_dotDot := by
    intro heq
    cases congrArg List.length heq
  length_le := by
    rw [chainName, List.length_singleton]
    decide

/-- Everything in the chain stands in the root. -/
private theorem isTree_longChain : longChain.IsTree where
  parent {place name entry} h := by
    have hall : ∀ stands ∈ longChain.entries, stands.1.length = 1 := by
      simp [longChain]
    have hne : place ++ [name] ≠ [] := by simp
    rw [FileSystem.entry?, if_neg hne] at h
    obtain ⟨before, after, hentries, -⟩ := List.lookup_eq_some_iff.mp h
    have hlength : (place ++ [name]).length = 1 := hall (_, entry) (by simp [hentries])
    have hplace : place = [] := by simpa using hlength
    rw [hplace]
    rfl
  workingDirectory := rfl

/-- The links of the chain lead to its beginning, one after the other. -/
private theorem reflTransGen_longChain {n : Nat} (h : n < 42) (links : Nat) :
    ReflTransGen (Follows longChain) ⟨links, [], [chainName n]⟩
      ⟨links + n, [], [chainName 0]⟩ := by
  induction n generalizing links with
  | zero => exact .refl
  | succ n ih =>
    have hstep : Follows longChain ⟨links, [], [chainName (n + 1)]⟩
        ⟨links + 1, Path.origin [] (chainName n), Path.names (chainName n) ++ []⟩ :=
      .link rfl (proper_chainName h) (entry?_longChain n (by omega))
    rw [names_chainName n (by omega), List.append_nil, Path.origin, ite_self] at hstep
    have hrest := ih (by omega) (links + 1)
    rw [Nat.add_right_comm, Nat.add_assoc] at hrest
    exact .head hstep hrest

/-- A chain of links leads to a file that could be loaded, and ends there; but it is longer than the
system follows, and loading it fails. -/
theorem load_longChain :
    longChain.IsTree ∧
    ReflTransGen (Follows longChain) (longChain.trailOf (chainName 41)) ⟨41, [chainName 0], []⟩ ∧
    longChain.entry? [chainName 0] = some (.file 0o644 (.data [])) ∧
    parse "" = .ok {} ∧
    load longChain (some (chainName 41)) = .error (.io (.os .eloop)) := by
  have hlinks : ReflTransGen (Follows longChain) (longChain.trailOf (chainName 41))
      ⟨41, [], [chainName 0]⟩ := reflTransGen_longChain (n := 41) (by decide) 0
  have hfile : Follows longChain ⟨41, [], [chainName 0]⟩ ⟨41, [chainName 0], []⟩ :=
    .down rfl (proper_chainName (by decide)) rfl (by nofun)
  refine ⟨isTree_longChain, hlinks.tail hfile, rfl, rfl, ?_⟩
  refine load_of_opens_error (by decide) ?_ (by decide)
  exact .tooManyLinks ⟨by decide, by decide⟩ hlinks (by decide)

end Config

end ImageSwap
