import ImageSwap.FileSystem.Lookup
import Mathlib.Tactic.Common

/-!
# Paths that lead to the same place

A lookup sees a path only through its length, its start and its names. Hence a doubled slash and a
leading dot change nothing as long as the path fits, and the bytes of a text hold a slash or a zero
only where the text does. A walk that fails does so in one of four ways.
-/

namespace ImageSwap

namespace Bytes

/-- A text's bytes are the encodings of its characters one after the other. -/
theorem ofString_eq_flatMap (s : String) :
    ofString s = s.toList.flatMap String.utf8EncodeChar := by
  have h : s.toByteArray = s.toList.utf8Encode := by
    rw [← String.toByteArray_ofList, String.ofList_toList]
  rw [ofString, h, List.utf8Encode, List.toList_data_toByteArray]

theorem ofString_append (s t : String) : ofString (s ++ t) = ofString s ++ ofString t := by
  simp [ofString_eq_flatMap]

private theorem mem_utf8EncodeChar_iff {b : UInt8} (hb : b < 0x80) {c : Char} :
    b ∈ String.utf8EncodeChar c ↔ c.toNat = b.toNat := by
  have hb : b.toNat < 128 := UInt8.lt_iff_toNat_lt.mp hb
  have hmem (n : Nat) : b = UInt8.ofNat n ↔ b.toNat = n % 256 := by
    rw [← UInt8.toNat_inj, UInt8.toNat_ofNat']
  have hc : c.val.toNat = c.toNat := rfl
  -- Every byte of a longer encoding is 128 or more.
  simp only [String.utf8EncodeChar, hc]
  split
  · simp only [List.mem_singleton, hmem]
    omega
  · split
    · simp only [List.mem_cons, List.not_mem_nil, or_false, hmem]
      omega
    · split <;>
      · simp only [List.mem_cons, List.not_mem_nil, or_false, hmem]
        omega

/-- A byte below 128 occurs in a text's bytes where the character of its number does in the
text. -/
theorem mem_ofString_iff {b : UInt8} (hb : b < 0x80) (s : String) :
    b ∈ ofString s ↔ Char.ofNat b.toNat ∈ s.toList := by
  have hb' : b.toNat < 128 := UInt8.lt_iff_toNat_lt.mp hb
  have hchar (c : Char) : c.toNat = b.toNat ↔ c = Char.ofNat b.toNat := by
    constructor
    · intro h
      rw [← h, Char.ofNat_toNat]
    · rintro rfl
      have hvalid : b.toNat.isValidChar := Or.inl (by omega)
      rw [Char.ofNat, dif_pos hvalid]
      rfl
  simp only [ofString_eq_flatMap, List.mem_flatMap, mem_utf8EncodeChar_iff hb, hchar]
  simp

theorem ofString_eq_nil_iff {s : String} : ofString s = [] ↔ s = "" :=
  ⟨fun h => ofString_injective (h.trans (by decide)), fun h => h ▸ by decide⟩

end Bytes

namespace Path

private theorem getLast?_append_name {name : Bytes} (hne : name ≠ []) (h : slash ∉ name)
    (front : Bytes) : (front ++ name).getLast? ≠ some slash := by
  rw [List.getLast?_append]
  cases hlast : name.getLast? with
  | none => exact absurd (List.getLast?_eq_none_iff.mp hlast) hne
  | some last =>
    rw [Option.some_or]
    exact fun he => h (Option.some.inj he ▸ List.mem_of_getLast? hlast)

theorem names_of_not_mem {name : Bytes} (hne : name ≠ []) (h : slash ∉ name) :
    names name = [name] := by
  have hlast : name.getLast? ≠ some slash := by simpa using getLast?_append_name hne h []
  simp [names, hlast, Text.split_of_not_mem h, hne]

/-- A name below a directory comes after the names of the directory. -/
theorem names_append_slash {name : Bytes} (hne : name ≠ []) (h : slash ∉ name)
    (directory : Bytes) :
    names (directory ++ slash :: name) =
      (Text.split slash directory).filter (· ≠ []) ++ [name] := by
  have hlast : (directory ++ slash :: name).getLast? ≠ some slash := by
    simpa using getLast?_append_name hne h (directory ++ [slash])
  simp only [names, if_neg hlast, Text.split_append_cons, Text.split_of_not_mem h,
    List.filter_append]
  simp [hne]

/-- A second slash between a directory and a name below it adds no name. -/
theorem names_append_slash_slash {name : Bytes} (hne : name ≠ []) (h : slash ∉ name)
    (directory : Bytes) :
    names (directory ++ slash :: slash :: name) = names (directory ++ slash :: name) := by
  have hsplit : Text.split slash (directory ++ [slash]) = Text.split slash directory ++ [[]] :=
    Text.split_append_cons slash directory []
  have hnames := names_append_slash hne h (directory ++ [slash])
  rw [hsplit] at hnames
  rw [names_append_slash hne h]
  simpa using hnames

/-- Any number of slashes between a directory and a name below it are as good as one. -/
theorem names_append_slashes {name : Bytes} (hne : name ≠ []) (h : slash ∉ name) (n : Nat)
    (directory : Bytes) :
    names (directory ++ List.replicate (n + 1) slash ++ name) =
      names (directory ++ slash :: name) := by
  induction n generalizing directory with
  | zero => simp
  | succ n ih =>
    have hn := ih (directory ++ [slash])
    rw [List.replicate_succ]
    simp only [List.append_assoc, List.cons_append, List.nil_append] at hn ⊢
    rw [hn, names_append_slash_slash hne h]

end Path

namespace FileSystem

variable {fs : FileSystem}

theorem lookup_of_fits {path : Bytes} (hne : path ≠ []) (h : path.length < Path.lengthLimit) :
    fs.lookup path = fs.walk Path.linkLimit
      (if Path.isAbsolute path then [] else fs.workingDirectory) (Path.names path) := by
  simp only [lookup, if_neg hne, if_neg (Nat.not_le.mpr h)]

theorem lookup_of_limit_le {path : Bytes} (h : Path.lengthLimit ≤ path.length) :
    fs.lookup path = .error .enametoolong := by
  have hne : path ≠ [] := by
    rintro rfl
    exact absurd h (by decide)
  simp only [lookup, if_neg hne, if_pos h]

/-- A directory's name for itself changes nothing before another name. -/
theorem walk_dot_cons (links : Nat) (place : Location) (name : Bytes) (rest : List Bytes) :
    fs.walk links place (Path.dot :: name :: rest) = fs.walk links place (name :: rest) := by
  by_cases h : fs.entry? place = some .directory
  · rw [walk, if_neg (not_not.mpr h), if_pos rfl]
  · rw [walk, walk, if_pos h, if_pos h]

/-- A name in a directory leads to what stands there, and on to the target of a link. -/
theorem walk_name {links : Nat} {place : Location} {name : Bytes} {rest : List Bytes}
    (hplace : fs.entry? place = some .directory) (hdot : name ≠ Path.dot)
    (hup : name ≠ Path.dotDot) (hshort : ¬Path.nameLimit < name.length) :
    fs.walk links place (name :: rest) =
      match fs.entry? (place ++ [name]) with
      | none => .error .enoent
      | some (.symlink target) =>
        match links with
        | 0 => .error .eloop
        | links + 1 =>
          fs.walk links (if Path.isAbsolute target then [] else place) (Path.names target ++ rest)
      | some _ => fs.walk links (place ++ [name]) rest := by
  rw [walk, if_neg (not_not.mpr hplace), if_neg hdot, if_neg hup]
  exact if_neg hshort

/-- Where names lead, there stands what they lead to. -/
theorem entry?_of_walk {links : Nat} {start place : Location} {names : List Bytes} {entry : Entry}
    (h : fs.walk links start names = .ok (place, entry)) : fs.entry? place = some entry := by
  fun_induction FileSystem.walk fs links start names with
  | case1 links start found hentry =>
    cases h
    exact hentry
  | case4 _ _ _ _ ih | case5 _ _ _ _ _ ih => exact ih h
  | case9 _ _ _ _ _ _ _ _ _ _ _ _ ih => exact ih h
  | case10 _ _ _ _ _ _ _ _ _ _ _ _ ih => exact ih h
  | _ => cases h

theorem entry?_of_lookup {path : Bytes} {place : Location} {entry : Entry}
    (h : fs.lookup path = .ok (place, entry)) : fs.entry? place = some entry := by
  unfold lookup at h
  split at h
  · cases h
  · split at h
    · cases h
    · exact entry?_of_walk h

/-- The ways in which following a path can fail. -/
def lookupFaults : List Errno := [.enoent, .enotdir, .enametoolong, .eloop]

theorem walk_error {links : Nat} {place : Location} {names : List Bytes} {errno : Errno}
    (h : fs.walk links place names = .error errno) : errno ∈ lookupFaults := by
  fun_induction FileSystem.walk fs links place names <;> simp_all [lookupFaults]

theorem lookup_error {path : Bytes} {errno : Errno} (h : fs.lookup path = .error errno) :
    errno ∈ lookupFaults := by
  by_cases hne : path = []
  · have he : errno = .enoent := by simpa [lookup, hne] using h.symm
    simp [he, lookupFaults]
  · by_cases hl : path.length < Path.lengthLimit
    · rw [lookup_of_fits hne hl] at h
      exact walk_error h
    · have he : errno = .enametoolong := by
        simpa [lookup_of_limit_le (Nat.not_lt.mp hl)] using h.symm
      simp [he, lookupFaults]

/-- Only a path without zeros is seen at all. -/
theorem zero_notMem_of_stat? {path : Bytes} {entry : Entry} (h : fs.stat? path = some entry) :
    0 ∉ path := by
  intro hzero
  have hnul : path.contains 0 = true := by simpa using hzero
  rw [stat?, if_pos hnul] at h
  cases h

/-- A path without zeros is seen as what its lookup finds. -/
theorem stat?_eq_some_iff {path : Bytes} (h : 0 ∉ path) {entry : Entry} :
    fs.stat? path = some entry ↔ ∃ place, fs.lookup path = .ok (place, entry) := by
  have hnul : path.contains 0 = false := by simpa using h
  rw [stat?, hnul]
  rcases fs.lookup path with errno | ⟨place, found⟩ <;> simp

theorem stat?_eq_none_iff {path : Bytes} (h : 0 ∉ path) :
    fs.stat? path = none ↔ ∃ errno, fs.lookup path = .error errno := by
  have hnul : path.contains 0 = false := by simpa using h
  rw [stat?, hnul]
  cases fs.lookup path <;> simp

end FileSystem

end ImageSwap
