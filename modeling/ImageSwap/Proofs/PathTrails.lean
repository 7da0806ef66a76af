import ImageSwap.Proofs.PathLookup
import Mathlib.Logic.Relation

/-!
# The trail of a path

A path is followed one name at a time, and a link puts the names of its target before those that
are left. The trail may come to an end where it finds an entry or is blocked, and it may never end.
One that ends within the links that a lookup follows decides what the lookup comes to; any other is
given up.
-/

namespace ImageSwap

open Relation (ReflTransGen)

/-- How far a path has been followed. -/
structure Trail where
  /-- The links that were followed. -/
  links : Nat
  /-- Where the names followed so far have led. -/
  place : Location
  /-- The names that are left. -/
  names : List Bytes

namespace Path

/-- A name that can stand in a directory: not one for the directory itself or for the one above, and
not too long. -/
structure Proper (name : Bytes) : Prop where
  ne_dot : name ≠ dot
  ne_dotDot : name ≠ dotDot
  length_le : name.length ≤ nameLimit

/-- A path that is followed at all: neither empty nor too long. -/
structure Fits (path : Bytes) : Prop where
  ne_nil : path ≠ []
  length_lt : path.length < lengthLimit

/-- Where a path starts that is followed from a directory. -/
def origin (directory : Location) (path : Bytes) : Location :=
  if isAbsolute path then [] else directory

end Path

namespace FileSystem

open ImageSwap.Path (Proper Fits origin linkLimit)

/-- The trail of a path before any name is followed. -/
def trailOf (fs : FileSystem) (path : Bytes) : Trail :=
  ⟨0, origin fs.workingDirectory path, Path.names path⟩

/-- The steps of a trail, of which each follows one name in a directory. The number of links is not
bounded. -/
inductive Follows (fs : FileSystem) : Trail → Trail → Prop where
  | stay {links place rest} (h : fs.entry? place = some .directory) :
    Follows fs ⟨links, place, Path.dot :: rest⟩ ⟨links, place, rest⟩
  | up {links place rest} (h : fs.entry? place = some .directory) :
    Follows fs ⟨links, place, Path.dotDot :: rest⟩ ⟨links, place.dropLast, rest⟩
  | down {links place name rest entry} (h : fs.entry? place = some .directory)
    (hname : Proper name) (hentry : fs.entry? (place ++ [name]) = some entry)
    (hlink : ∀ target, entry ≠ .symlink target) :
    Follows fs ⟨links, place, name :: rest⟩ ⟨links, place ++ [name], rest⟩
  | link {links place name rest target} (h : fs.entry? place = some .directory)
    (hname : Proper name) (hentry : fs.entry? (place ++ [name]) = some (.symlink target)) :
    Follows fs ⟨links, place, name :: rest⟩
      ⟨links + 1, origin place target, Path.names target ++ rest⟩

/-- Why a trail goes no further although it has not come to an entry. -/
inductive Blocked (fs : FileSystem) : Trail → Errno → Prop where
  /-- A name is left, but what it should lead on from is no directory. -/
  | notDirectory {links place name rest} (h : fs.entry? place ≠ some .directory) :
    Blocked fs ⟨links, place, name :: rest⟩ .enotdir
  | longName {links place name rest} (h : fs.entry? place = some .directory)
    (hlong : Path.nameLimit < name.length) :
    Blocked fs ⟨links, place, name :: rest⟩ .enametoolong
  | missing {links place name rest} (h : fs.entry? place = some .directory)
    (hname : Proper name) (hentry : fs.entry? (place ++ [name]) = none) :
    Blocked fs ⟨links, place, name :: rest⟩ .enoent
  /-- No name is left, and nothing stands where the trail has led. -/
  | nothing {links place} (h : fs.entry? place = none) : Blocked fs ⟨links, place, []⟩ .enoent

/-- What opening a path comes to: the entry that its trail finds, or why there is none. -/
inductive Opens (fs : FileSystem) (path : Bytes) : Except Errno Entry → Prop where
  | empty (h : path = []) : Opens fs path (.error .enoent)
  | tooLong (h : Path.lengthLimit ≤ path.length) : Opens fs path (.error .enametoolong)
  | found {links place entry} (hfits : Fits path)
    (htrail : ReflTransGen (Follows fs) (fs.trailOf path) ⟨links, place, []⟩)
    (hlinks : links ≤ linkLimit) (hentry : fs.entry? place = some entry) :
    Opens fs path (.ok entry)
  | blocked {trail errno} (hfits : Fits path)
    (htrail : ReflTransGen (Follows fs) (fs.trailOf path) trail)
    (hlinks : trail.links ≤ linkLimit) (hblocked : Blocked fs trail errno) :
    Opens fs path (.error errno)
  | tooManyLinks {trail} (hfits : Fits path)
    (htrail : ReflTransGen (Follows fs) (fs.trailOf path) trail)
    (hlinks : linkLimit < trail.links) : Opens fs path (.error .eloop)

variable {fs : FileSystem} {trail next : Trail} {path : Bytes}

/-- What the walk comes to on the rest of a trail. -/
def walkFrom (fs : FileSystem) (trail : Trail) : Except Errno (Location × Entry) :=
  if trail.links ≤ linkLimit then fs.walk (linkLimit - trail.links) trail.place trail.names
  else .error .eloop

theorem walkFrom_of_lt (h : linkLimit < trail.links) : fs.walkFrom trail = .error .eloop :=
  if_neg (Nat.not_le.mpr h)

/-- A step of the trail changes nothing about what the walk comes to. -/
theorem walkFrom_eq_of_follows (h : Follows fs trail next) :
    fs.walkFrom trail = fs.walkFrom next := by
  cases h with
  | stay h => simp only [walkFrom, walk, if_neg (not_not.mpr h), if_pos]
  | up h =>
    have hne : Path.dotDot ≠ Path.dot := by decide
    simp only [walkFrom, walk, if_neg (not_not.mpr h), if_neg hne, if_pos]
  | down h hname hentry hlink =>
    simp only [walkFrom]
    split
    · rw [walk_name h hname.ne_dot hname.ne_dotDot (Nat.not_lt.mpr hname.length_le), hentry]
      split
      · next heq => cases heq
      · next target heq => exact absurd (Option.some.inj heq) (hlink target)
      · rfl
    · rfl
  | @link links place name rest target h hname hentry =>
    by_cases hlinks : links ≤ linkLimit
    · have hleft : fs.walkFrom ⟨links, place, name :: rest⟩ =
          fs.walk (linkLimit - links) place (name :: rest) := if_pos hlinks
      rw [hleft, walk_name h hname.ne_dot hname.ne_dotDot (Nat.not_lt.mpr hname.length_le), hentry]
      cases hrest : linkLimit - links with
      | zero =>
        have hmany : linkLimit < links + 1 := by omega
        exact (if_neg (Nat.not_le.mpr hmany)).symm
      | succ n =>
        have hn : linkLimit - (links + 1) = n := by omega
        have hlinks : links + 1 ≤ linkLimit := by omega
        simp only [walkFrom, if_pos hlinks, hn, origin]
    · have hmany : linkLimit < links + 1 := by omega
      exact (walkFrom_of_lt (Nat.not_le.mp hlinks)).trans (if_neg (Nat.not_le.mpr hmany)).symm

theorem walkFrom_eq_of_reflTransGen (h : ReflTransGen (Follows fs) trail next) :
    fs.walkFrom trail = fs.walkFrom next := by
  induction h with
  | refl => rfl
  | tail _ hstep ih => exact ih.trans (walkFrom_eq_of_follows hstep)

theorem walkFrom_of_blocked {errno : Errno} (h : Blocked fs trail errno)
    (hlinks : trail.links ≤ linkLimit) : fs.walkFrom trail = .error errno := by
  rw [walkFrom, if_pos hlinks]
  cases h with
  | notDirectory h => rw [walk, if_pos h]
  | @longName links place name rest h hlong =>
    have hdot : name ≠ Path.dot := by
      rintro rfl
      exact absurd hlong (by decide)
    have hdotDot : name ≠ Path.dotDot := by
      rintro rfl
      exact absurd hlong (by decide)
    rw [walk, if_neg (not_not.mpr h), if_neg hdot, if_neg hdotDot, if_pos hlong]
  | missing h hname hentry =>
    rw [walk_name h hname.ne_dot hname.ne_dotDot (Nat.not_lt.mpr hname.length_le), hentry]
  | nothing h => rw [walk, h]

/-- The lookup of a path walks on its trail. -/
theorem lookup_eq_walkFrom (h : Fits path) : fs.lookup path = fs.walkFrom (fs.trailOf path) :=
  lookup_of_fits h.ne_nil h.length_lt

/-- The lookup comes to what opening the path comes to. -/
theorem Opens.lookup {result : Except Errno Entry} (h : Opens fs path result) :
    (fs.lookup path).map Prod.snd = result := by
  cases h with
  | empty h => rw [FileSystem.lookup, if_pos h]; rfl
  | tooLong h => rw [lookup_of_limit_le h]; rfl
  | found hfits htrail hlinks hentry =>
    rw [lookup_eq_walkFrom hfits, walkFrom_eq_of_reflTransGen htrail, walkFrom, if_pos hlinks, walk,
      hentry]
    rfl
  | blocked hfits htrail hlinks hblocked =>
    rw [lookup_eq_walkFrom hfits, walkFrom_eq_of_reflTransGen htrail,
      walkFrom_of_blocked hblocked hlinks]
    rfl
  | tooManyLinks hfits htrail hlinks =>
    rw [lookup_eq_walkFrom hfits, walkFrom_eq_of_reflTransGen htrail, walkFrom_of_lt hlinks]
    rfl

/-- What is opened stands where the lookup leads. -/
theorem Opens.exists_lookup {entry : Entry} (h : Opens fs path (.ok entry)) :
    ∃ place, fs.lookup path = .ok (place, entry) := by
  have hlookup := h.lookup
  cases hfound : fs.lookup path with
  | error errno =>
    rw [hfound] at hlookup
    cases hlookup
  | ok found =>
    rw [hfound] at hlookup
    cases hlookup
    exact ⟨found.1, rfl⟩

theorem Opens.lookup_error {errno : Errno} (h : Opens fs path (.error errno)) :
    fs.lookup path = .error errno := by
  have hlookup := h.lookup
  cases hfound : fs.lookup path with
  | error other =>
    rw [hfound] at hlookup
    cases hlookup
    rfl
  | ok found =>
    rw [hfound] at hlookup
    cases hlookup

/-- A trail goes on, or is blocked, or has come to an entry. -/
theorem follows_or_ends (fs : FileSystem) (trail : Trail) :
    (∃ next, Follows fs trail next) ∨ (∃ errno, Blocked fs trail errno) ∨
      ∃ links place entry, trail = ⟨links, place, []⟩ ∧ fs.entry? place = some entry := by
  obtain ⟨links, place, _ | ⟨name, rest⟩⟩ := trail
  · cases hentry : fs.entry? place with
    | none => exact .inr (.inl ⟨_, .nothing hentry⟩)
    | some entry => exact .inr (.inr ⟨links, place, entry, rfl, hentry⟩)
  · by_cases hplace : fs.entry? place = some .directory
    · by_cases hdot : name = Path.dot
      · subst hdot
        exact .inl ⟨_, .stay hplace⟩
      by_cases hdotDot : name = Path.dotDot
      · subst hdotDot
        exact .inl ⟨_, .up hplace⟩
      by_cases hlong : Path.nameLimit < name.length
      · exact .inr (.inl ⟨_, .longName hplace hlong⟩)
      have hname : Proper name := ⟨hdot, hdotDot, Nat.not_lt.mp hlong⟩
      cases hentry : fs.entry? (place ++ [name]) with
      | none => exact .inr (.inl ⟨_, .missing hplace hname hentry⟩)
      | some entry =>
        cases entry with
        | symlink target => exact .inl ⟨_, .link hplace hname hentry⟩
        | _ => exact .inl ⟨_, .down hplace hname hentry (by nofun)⟩
    · exact .inr (.inl ⟨_, .notDirectory hplace⟩)

/-- A step follows a link, or leaves one name less. -/
theorem links_lt_or_length_lt (h : Follows fs trail next) :
    trail.links < next.links ∨
      next.links = trail.links ∧ next.names.length < trail.names.length := by
  cases h with
  | stay => exact .inr ⟨rfl, Nat.lt_succ_self _⟩
  | up => exact .inr ⟨rfl, Nat.lt_succ_self _⟩
  | down => exact .inr ⟨rfl, Nat.lt_succ_self _⟩
  | link => exact .inl (Nat.lt_succ_self _)

/-- Every trail comes to an end or to more links than are followed. -/
theorem exists_end (fs : FileSystem) (trail : Trail) :
    ∃ last, ReflTransGen (Follows fs) trail last ∧
      (linkLimit < last.links ∨ last.links ≤ linkLimit ∧
        ((∃ errno, Blocked fs last errno) ∨
          ∃ links place entry, last = ⟨links, place, []⟩ ∧ fs.entry? place = some entry)) := by
  by_cases hlinks : linkLimit < trail.links
  · exact ⟨trail, .refl, .inl hlinks⟩
  · obtain ⟨next, hstep⟩ | hend := follows_or_ends fs trail
    · have hless := links_lt_or_length_lt hstep
      obtain ⟨last, htrail, hend⟩ := exists_end fs next
      exact ⟨last, .head hstep htrail, hend⟩
    · exact ⟨trail, .refl, .inr ⟨Nat.not_lt.mp hlinks, hend⟩⟩
termination_by (linkLimit + 1 - trail.links, trail.names.length)
decreasing_by
  simp only [Prod.lex_def]
  omega

/-- Opening a path comes to something. -/
theorem exists_opens (fs : FileSystem) (path : Bytes) : ∃ result, Opens fs path result := by
  by_cases hne : path = []
  · exact ⟨_, .empty hne⟩
  by_cases hlong : Path.lengthLimit ≤ path.length
  · exact ⟨_, .tooLong hlong⟩
  have hfits : Fits path := ⟨hne, Nat.not_le.mp hlong⟩
  obtain ⟨last, htrail, hmany | ⟨hlinks, ⟨errno, hblocked⟩ | ⟨links, place, entry, rfl, hentry⟩⟩⟩ :=
    exists_end fs (fs.trailOf path)
  · exact ⟨_, .tooManyLinks hfits htrail hmany⟩
  · exact ⟨_, .blocked hfits htrail hlinks hblocked⟩
  · exact ⟨_, .found hfits htrail hlinks hentry⟩

/-- Opening a path comes to what the lookup finds. -/
theorem opens_iff {result : Except Errno Entry} :
    Opens fs path result ↔ (fs.lookup path).map Prod.snd = result := by
  refine ⟨Opens.lookup, ?_⟩
  rintro rfl
  obtain ⟨result, h⟩ := exists_opens fs path
  exact h.lookup ▸ h

/-- A trail that never ends comes to more links than are followed. -/
theorem exists_links_lt {steps : Nat → Trail} (h : ∀ n, Follows fs (steps n) (steps (n + 1))) :
    ∃ n, linkLimit < (steps n).links := by
  by_cases hlinks : linkLimit < (steps 0).links
  · exact ⟨0, hlinks⟩
  · have hless := links_lt_or_length_lt (h 0)
    have hrest : ∃ n, linkLimit < (steps (n + 1)).links := exists_links_lt fun n => h (n + 1)
    obtain ⟨n, hn⟩ := hrest
    exact ⟨n + 1, hn⟩
termination_by (linkLimit + 1 - (steps 0).links, (steps 0).names.length)
decreasing_by
  simp only [Prod.lex_def]
  omega

/-- A path whose links lead on without an end is given up. -/
theorem opens_of_endless (hfits : Fits path) {steps : Nat → Trail}
    (hstart : steps 0 = fs.trailOf path) (h : ∀ n, Follows fs (steps n) (steps (n + 1))) :
    Opens fs path (.error .eloop) := by
  have htrail (n : Nat) : ReflTransGen (Follows fs) (fs.trailOf path) (steps n) := by
    induction n with
    | zero => exact hstart ▸ .refl
    | succ n ih => exact ih.tail (h n)
  obtain ⟨n, hn⟩ := exists_links_lt h
  exact .tooManyLinks hfits (htrail n) hn

/-- A file system is a tree: what holds an entry is a directory, and so is the working directory. -/
structure IsTree (fs : FileSystem) : Prop where
  parent : ∀ {place name entry}, fs.entry? (place ++ [name]) = some entry →
    fs.entry? place = some .directory
  workingDirectory : fs.entry? fs.workingDirectory = some .directory

theorem entry?_origin {directory : Location} (h : fs.entry? directory = some .directory)
    (path : Bytes) : fs.entry? (origin directory path) = some .directory := by
  unfold origin
  split
  · rfl
  · exact h

section

variable (htree : fs.IsTree)

include htree

/-- The directory above a directory is one; that of the root is the root itself. -/
theorem entry?_dropLast {place : Location} (h : fs.entry? place = some .directory) :
    fs.entry? place.dropLast = some .directory := by
  obtain rfl | ⟨above, name, rfl⟩ := List.eq_nil_or_concat place
  · exact h
  · rw [List.concat_eq_append, List.dropLast_concat]
    exact htree.parent (List.concat_eq_append ▸ h)

/-- In a tree, a trail has always led to an entry that is no link. -/
theorem exists_entry_of_reflTransGen
    (h : ReflTransGen (Follows fs) (fs.trailOf path) trail) :
    ∃ entry, fs.entry? trail.place = some entry ∧ ∀ target, entry ≠ .symlink target := by
  induction h with
  | refl => exact ⟨.directory, entry?_origin htree.workingDirectory path, by nofun⟩
  | tail _ hstep _ =>
    cases hstep with
    | stay h => exact ⟨.directory, h, by nofun⟩
    | up h => exact ⟨.directory, entry?_dropLast htree h, by nofun⟩
    | down _ _ hentry hlink => exact ⟨_, hentry, hlink⟩
    | link h => exact ⟨.directory, entry?_origin h _, by nofun⟩

/-- In a tree, what a path opens is no link. -/
theorem ne_symlink_of_opens {entry : Entry} (h : Opens fs path (.ok entry)) (target : Bytes) :
    entry ≠ .symlink target := by
  cases h with
  | found _ htrail _ hentry =>
    obtain ⟨other, hother, hlink⟩ := exists_entry_of_reflTransGen htree htrail
    obtain rfl : entry = other := Option.some.inj (hentry.symm.trans hother)
    exact hlink target

end

end FileSystem

end ImageSwap
