import ImageSwap.Proofs.LogThresholds
import Mathlib.Data.List.Nodup

/-!
# Which directive decides

A specification may name one prefix twice, and prefixes of each other. The directive about a target
that names the longest prefix of it decides, the last one of those that name the same; a directive
without a prefix counts as the shortest. The filter replaces, sorts and searches its directives, and
comes to the same.
-/

namespace ImageSwap.Log

namespace Directive

variable {d e : Directive} {ds : List Directive} {target : String}

/-- How special a directive is: one without a prefix is less so than all that name one, and of these
one with a longer prefix is more so. -/
def rank (d : Directive) : Nat := d.target.elim 0 fun start => start.utf8ByteSize + 1

theorem covers_some {start : String} {t : Threshold} :
    covers ⟨some start, t⟩ target = true ↔ start.toList <+: target.toList := by
  simp [covers]

private theorem text_eq_of_isPrefix_of_size {s s' : String} (h : s.toList <+: s'.toList)
    (hsize : s.utf8ByteSize = s'.utf8ByteSize) : s = s' := by
  obtain ⟨rest, hrest⟩ := h
  have happend : s ++ String.ofList rest = s' := by
    rw [← String.toList_inj, String.toList_append, String.toList_ofList, hrest]
  have hsizes := congrArg String.utf8ByteSize happend
  rw [String.utf8ByteSize_append] at hsizes
  have hzero : (String.ofList rest).utf8ByteSize = 0 := by omega
  rw [← happend, String.utf8ByteSize_eq_zero_iff.mp hzero, String.append_empty]

/-- Two prefixes of one target that are equally long are the same. -/
theorem target_eq_of_rank_eq (hd : d.covers target = true) (he : e.covers target = true)
    (h : d.rank = e.rank) : d.target = e.target := by
  obtain ⟨_ | start, t⟩ := d <;> obtain ⟨_ | start', t'⟩ := e
  · rfl
  · simp [rank] at h
  · simp [rank] at h
  · rw [covers_some] at hd he
    have hsize : start.utf8ByteSize = start'.utf8ByteSize := by simpa [rank] using h
    obtain hle | hle := List.prefix_or_prefix_of_prefix hd he
    · rw [text_eq_of_isPrefix_of_size hle hsize]
    · rw [text_eq_of_isPrefix_of_size hle hsize.symm]

/-- A directive in a list decides about a target: it is about that target, none before it is about
the target with a longer prefix, and none after it with one as long. -/
def Decides (ds : List Directive) (target : String) (d : Directive) : Prop :=
  ∃ before after, ds = before ++ d :: after ∧ d.covers target = true ∧
    (∀ e ∈ before, e.covers target = true → e.rank ≤ d.rank) ∧
    ∀ e ∈ after, e.covers target = true → e.rank < d.rank

theorem Decides.covers (h : Decides ds target d) : d.covers target = true := by
  obtain ⟨before, after, -, hcovers, -⟩ := h
  exact hcovers

theorem Decides.rank_le (h : Decides ds target d) (he : e ∈ ds) (hcovers : e.covers target = true) :
    e.rank ≤ d.rank := by
  obtain ⟨before, after, rfl, -, hbefore, hafter⟩ := h
  obtain he | rfl | he : e ∈ before ∨ e = d ∨ e ∈ after := by simpa using he
  · exact hbefore e he hcovers
  · exact Nat.le_refl _
  · exact Nat.le_of_lt (hafter e he hcovers)

/-- Where there is a directive about a target, one decides. -/
theorem exists_decides (h : ∃ e ∈ ds, e.covers target = true) : ∃ d, Decides ds target d := by
  induction ds with
  | nil => simp at h
  | cons e ds ih =>
    by_cases hrest : ∃ e ∈ ds, e.covers target = true
    · -- What decides among the rest decides about all, unless the first is about a longer prefix.
      obtain ⟨d, before, after, rfl, hcovers, hbefore, hafter⟩ := ih hrest
      by_cases hfirst : e.covers target = true ∧ d.rank < e.rank
      · have hdecides : Decides (before ++ d :: after) target d :=
          ⟨before, after, rfl, hcovers, hbefore, hafter⟩
        refine ⟨e, [], before ++ d :: after, rfl, hfirst.1, by simp, fun c hc hcovers => ?_⟩
        exact Nat.lt_of_le_of_lt (hdecides.rank_le hc hcovers) hfirst.2
      · refine ⟨d, e :: before, after, rfl, hcovers, ?_, hafter⟩
        rintro c (_ | ⟨_, hc⟩) hcovers
        · exact Nat.le_of_not_lt fun hlt => hfirst ⟨hcovers, hlt⟩
        · exact hbefore c hc hcovers
    · obtain ⟨c, hc, hcovers⟩ := h
      obtain rfl | hc := List.mem_cons.mp hc
      · exact ⟨c, [], ds, rfl, hcovers, by simp, fun c hc hcovers => absurd ⟨c, hc, hcovers⟩ hrest⟩
      · exact absurd ⟨c, hc, hcovers⟩ hrest

theorem mem_insert_self (d : Directive) (ds : List Directive) : d ∈ insert d ds := by
  induction ds with
  | nil => exact .head _
  | cons e ds ih =>
    unfold insert
    split
    · exact .head _
    · exact .tail _ ih

theorem mem_of_mem_insert (h : e ∈ insert d ds) : e = d ∨ e ∈ ds := by
  induction ds with
  | nil => simpa [insert] using h
  | cons c ds ih =>
    unfold insert at h
    split at h
    · obtain rfl | h := List.mem_cons.mp h
      · exact .inl rfl
      · exact .inr (.tail _ h)
    · obtain rfl | h := List.mem_cons.mp h
      · exact .inr (.head _)
      · exact (ih h).imp_right (.tail _)

/-- A directive stays when one about another prefix takes its place. -/
theorem mem_insert_of_mem (h : e ∈ ds) (hne : d.target ≠ e.target) : e ∈ insert d ds := by
  induction ds with
  | nil => cases h
  | cons c ds ih =>
    unfold insert
    split
    · next hsame =>
      obtain rfl | h := List.mem_cons.mp h
      · exact absurd hsame.symm hne
      · exact .tail _ h
    · obtain rfl | h := List.mem_cons.mp h
      · exact .head _
      · exact .tail _ (ih h)

/-- Directives that are about different prefixes stay so when one more takes its place. -/
theorem pairwise_insert (h : ds.Pairwise fun d e => d.target ≠ e.target) :
    (insert d ds).Pairwise fun d e => d.target ≠ e.target := by
  induction ds with
  | nil => simp [insert]
  | cons c ds ih =>
    obtain ⟨hc, hds⟩ := List.pairwise_cons.mp h
    unfold insert
    split
    · next hsame => exact List.pairwise_cons.mpr ⟨fun e he => hsame ▸ hc e he, hds⟩
    · next hother =>
      refine List.pairwise_cons.mpr ⟨fun e he => ?_, ih hds⟩
      obtain rfl | he := mem_of_mem_insert he
      · exact hother
      · exact hc e he

section

variable {after : List Directive}

theorem mem_of_mem_foldl_insert (h : e ∈ after.foldl (fun ds d => insert d ds) ds) :
    e ∈ ds ∨ e ∈ after := by
  induction after generalizing ds with
  | nil => exact .inl h
  | cons d after ih =>
    obtain h | h := ih h
    · obtain rfl | h := mem_of_mem_insert h
      · exact .inr (.head _)
      · exact .inl h
    · exact .inr (.tail _ h)

theorem mem_foldl_insert_of_mem (h : e ∈ ds) (hafter : ∀ d ∈ after, d.target ≠ e.target) :
    e ∈ after.foldl (fun ds d => insert d ds) ds := by
  induction after generalizing ds with
  | nil => exact h
  | cons d after ih =>
    obtain ⟨hd, hafter⟩ := List.forall_mem_cons.mp hafter
    exact ih (mem_insert_of_mem h hd) hafter

theorem pairwise_foldl_insert (h : ds.Pairwise fun d e => d.target ≠ e.target) :
    (after.foldl (fun ds d => insert d ds) ds).Pairwise fun d e => d.target ≠ e.target := by
  induction after generalizing ds with
  | nil => exact h
  | cons d after ih => exact ih (pairwise_insert h)

end

theorem mem_of_mem_specific (h : d ∈ specific ds) : d ∈ ds ∧ d.target.isSome := by
  rw [specific, List.mem_mergeSort] at h
  obtain h | h := mem_of_mem_foldl_insert h
  · cases h
  · exact List.mem_filter.mp h

/-- The last directive about a prefix is kept. -/
theorem mem_specific {before after : List Directive} (hd : d.target.isSome)
    (hafter : ∀ e ∈ after, e.target ≠ d.target) : d ∈ specific (before ++ d :: after) := by
  have hfilter : (d :: after).filter (·.target.isSome) = d :: after.filter (·.target.isSome) :=
    List.filter_cons_of_pos hd
  rw [specific, List.mem_mergeSort, List.filter_append, hfilter, List.foldl_append,
    List.foldl_cons]
  refine mem_foldl_insert_of_mem (mem_insert_self d _) fun e he => ?_
  exact hafter e (List.mem_filter.mp he).1

/-- Only one directive about each prefix is kept. -/
theorem eq_of_mem_specific (hd : d ∈ specific ds) (he : e ∈ specific ds)
    (h : d.target = e.target) : d = e := by
  rw [specific, List.mem_mergeSort] at hd he
  exact List.inj_on_of_nodup_map (List.pairwise_map.mpr (pairwise_foldl_insert .nil)) hd he h

theorem rank_eq_length (h : d.target.isSome) : d.rank = d.length + 1 := by
  obtain ⟨_ | start, t⟩ := d
  · cases h
  · rfl

theorem target_eq_none_of_rank (h : d.rank = 0) : d.target = none := by
  obtain ⟨_ | start, t⟩ := d
  · rfl
  · cases h

/-- The search from the end of the kept directives comes to the one that decides. -/
theorem find?_specific_of_decides (h : Decides ds target d) (hd : d.target.isSome) :
    (specific ds).reverse.find? (·.covers target) = some d := by
  have hkept : d ∈ specific ds := by
    obtain ⟨before, after, rfl, hcovers, -, hafter⟩ := h
    refine mem_specific hd fun e he hsame => ?_
    have hcovers' : e.covers target = true := by rwa [covers, hsame]
    have hlt := hafter e he hcovers'
    rw [rank, rank, hsame] at hlt
    exact Nat.lt_irrefl _ hlt
  cases hfind : (specific ds).reverse.find? (·.covers target) with
  | none =>
    have := List.find?_eq_none.mp hfind d (List.mem_reverse.mpr hkept)
    exact absurd h.covers this
  | some e =>
    obtain ⟨hcovers, after, before, hsplit, hafter⟩ := List.find?_eq_some_iff_append.mp hfind
    have hsplit : specific ds = before.reverse ++ e :: after.reverse := by
      simpa using congrArg List.reverse hsplit
    have he : e ∈ specific ds := by simp [hsplit]
    -- What is found is at least as special as what decides, since that is not after it.
    have hle : d.length ≤ e.length := by
      rw [hsplit] at hkept
      obtain hbefore | rfl | hd : d ∈ before.reverse ∨ d = e ∨ d ∈ after := by simpa using hkept
      · have hsorted := pairwise_specific ds
        rw [hsplit] at hsorted
        exact (List.pairwise_append.mp hsorted).2.2 d hbefore e (.head _)
      · exact Nat.le_refl _
      · have := hafter d hd
        simp [h.covers] at this
    obtain ⟨hmem, hsome⟩ := mem_of_mem_specific he
    have hge := h.rank_le hmem hcovers
    rw [rank_eq_length hsome, rank_eq_length hd] at hge
    have hrank : d.rank = e.rank := by
      rw [rank_eq_length hsome, rank_eq_length hd]
      omega
    rw [eq_of_mem_specific hkept he (target_eq_of_rank_eq h.covers hcovers hrank)]

/-- Without a directive that names no prefix, the general threshold stays. -/
theorem general_eq_self {t : Threshold} (h : ∀ d ∈ ds, d.target ≠ none) : general t ds = t := by
  induction ds with
  | nil => rfl
  | cons d ds ih =>
    obtain ⟨hd, hds⟩ := List.forall_mem_cons.mp h
    rw [general, List.foldl_cons, if_neg hd]
    exact ih hds

/-- The last directive without a prefix sets the general threshold. -/
theorem general_append {t : Threshold} {before after : List Directive} (hd : d.target = none)
    (hafter : ∀ e ∈ after, e.target ≠ none) : general t (before ++ d :: after) = d.threshold := by
  rw [general, List.foldl_append, List.foldl_cons, if_pos hd]
  exact general_eq_self hafter

/-- A directive without a prefix leaves nothing of the threshold before it. -/
theorem general_congr (h : ∃ d ∈ ds, d.target = none) (t u : Threshold) :
    general t ds = general u ds := by
  induction ds generalizing t u with
  | nil => simp at h
  | cons d ds ih =>
    rw [general, general, List.foldl_cons, List.foldl_cons]
    by_cases hd : d.target = none
    · rw [if_pos hd, if_pos hd]
    · rw [if_neg hd, if_neg hd]
      exact ih (by simpa [hd] using h) t u

/-- What the directives in a list set as the threshold of a target, when a level is set for those
that no directive is about. -/
inductive Limit (level : Level) (ds : List Directive) (target : String) : Threshold → Prop where
  | decided (d : Directive) (h : Decides ds target d) : Limit level ds target d.threshold
  | left (h : ∀ d ∈ ds, d.covers target = false) : Limit level ds target (some level)

end Directive

namespace Filter

open Directive

variable {level : Level} {s : Specification} {target : String} {t : Threshold}

theorem threshold_of_decides {d : Directive} (h : Decides s.directives target d) :
    (ofSpecification level s).threshold target = d.threshold := by
  rw [threshold_ofSpecification]
  cases htarget : d.target with
  | some start => rw [find?_specific_of_decides h (by simp [htarget])]
  | none =>
    -- Nothing that names a prefix of the target is given, so that the general threshold counts.
    have hgeneral {e : Directive} (he : e ∈ s.directives) (hcovers : e.covers target = true) :
        e.target = none := by
      have hle := h.rank_le he hcovers
      have hzero : d.rank = 0 := by rw [rank, htarget]; rfl
      exact target_eq_none_of_rank (by omega)
    have hfind : (specific s.directives).reverse.find? (·.covers target) = none := by
      refine List.find?_eq_none.mpr fun e he hcovers => ?_
      obtain ⟨hmem, hsome⟩ := mem_of_mem_specific (List.mem_reverse.mp he)
      simp [hgeneral hmem hcovers] at hsome
    rw [hfind]
    obtain ⟨before, after, hsplit, -, -, hafter⟩ := h
    rw [hsplit]
    refine general_append htarget fun e he hnone => ?_
    have hlt := hafter e he (by simp [covers, hnone])
    rw [rank, rank, hnone, htarget] at hlt
    exact Nat.lt_irrefl _ hlt

theorem threshold_of_forall_not_covers (h : ∀ d ∈ s.directives, d.covers target = false) :
    (ofSpecification level s).threshold target = some level := by
  have hfind : (specific s.directives).reverse.find? (·.covers target) = none := by
    refine List.find?_eq_none.mpr fun d hd => ?_
    simp [h d (mem_of_mem_specific (List.mem_reverse.mp hd)).1]
  rw [threshold_ofSpecification, hfind]
  refine general_eq_self fun d hd hnone => ?_
  have := h d hd
  simp [covers, hnone] at this

/-- The threshold of a target is what the directives set. -/
theorem threshold_eq_iff : (ofSpecification level s).threshold target = t ↔
    Limit level s.directives target t := by
  have of_limit {t : Threshold} (h : Limit level s.directives target t) :
      (ofSpecification level s).threshold target = t := by
    cases h with
    | decided d h => exact threshold_of_decides h
    | left h => exact threshold_of_forall_not_covers h
  refine ⟨?_, of_limit⟩
  rintro rfl
  by_cases h : ∃ d ∈ s.directives, d.covers target = true
  · obtain ⟨d, hd⟩ := exists_decides h
    rw [threshold_of_decides hd]
    exact .decided d hd
  · have hnone : ∀ d ∈ s.directives, d.covers target = false := by simpa using h
    rw [threshold_of_forall_not_covers hnone]
    exact .left hnone

end Filter

namespace Specification

/-- The directive that a part of a specification gives, where there is one that can be read. -/
def directive? (part : List Char) : Option Directive :=
  if Text.trim part = [] then none else (Directive.parse (Text.trim part)).toOption

/-- The parts of the value of the variable between the slashes in it. A value that is no text has
none. -/
def parts (value : Option Bytes) : List (List Char) :=
  (value.bind Bytes.decode?).elim [] fun text => Text.split '/' text.toList

/-- The directives that the value of the variable gives: those in its first part that can be read.
With more than one slash, it gives none. -/
def givenDirectives (value : Option Bytes) : List Directive :=
  match parts value with
  | [directives] | [directives, _] => (Text.split ',' directives).filterMap directive?
  | _ => []

/-- The expression that the value of the variable gives, where it can be read. -/
def givenPattern (value : Option Bytes) : Option Regex :=
  match parts value with
  | [_, pattern] => (Regex.parse pattern).toOption
  | _ => none

theorem directives_addDirective (s : Specification) (part : List Char) :
    (s.addDirective part).directives = s.directives ++ (directive? part).toList := by
  unfold addDirective directive?
  by_cases hempty : Text.trim part = []
  · simp [hempty]
  · cases hparse : Directive.parse (Text.trim part) <;>
      simp [hempty, hparse, Except.toOption]

theorem pattern_addDirective (s : Specification) (part : List Char) :
    (s.addDirective part).pattern = s.pattern := by
  unfold addDirective
  by_cases hempty : Text.trim part = []
  · simp [hempty]
  · cases hparse : Directive.parse (Text.trim part) <;> simp [hempty, hparse]

theorem foldl_addDirective (s : Specification) (texts : List (List Char)) :
    (texts.foldl addDirective s).directives = s.directives ++ texts.filterMap directive? ∧
      (texts.foldl addDirective s).pattern = s.pattern := by
  induction texts generalizing s with
  | nil => simp
  | cons part texts ih =>
    obtain ⟨hdirectives, hpattern⟩ := ih (s.addDirective part)
    rw [directives_addDirective] at hdirectives
    rw [pattern_addDirective] at hpattern
    refine ⟨?_, hpattern⟩
    rw [List.foldl_cons, hdirectives, List.filterMap_cons]
    cases directive? part <;> simp

theorem addPattern_eq (s : Specification) (pattern : List Char) (h : s.pattern = none) :
    (s.addPattern pattern).directives = s.directives ∧
      (s.addPattern pattern).pattern = (Regex.parse pattern).toOption := by
  unfold addPattern
  cases hparse : Regex.parse pattern with
  | ok r => exact ⟨rfl, rfl⟩
  | error refusal => exact ⟨rfl, h⟩

/-- A text gives the directives and the expression in it that can be read. -/
theorem parse_eq (text : String) (value : Bytes) (h : value.decode? = some text) :
    (parse text).directives = givenDirectives (some value) ∧
      (parse text).pattern = givenPattern (some value) := by
  have hparts : parts (some value) = Text.split '/' text.toList := by simp [parts, h]
  unfold parse givenDirectives givenPattern
  rw [hparts]
  rcases Text.split '/' text.toList with _ | ⟨directives, _ | ⟨pattern, _ | _⟩⟩
  · exact ⟨rfl, rfl⟩
  · exact foldl_addDirective {} _
  · obtain ⟨hdirectives, hpattern⟩ := foldl_addDirective {} (Text.split ',' directives)
    obtain ⟨hdirectives', hpattern'⟩ := addPattern_eq (ofDirectives directives) pattern hpattern
    exact ⟨hdirectives'.trans hdirectives, hpattern'⟩
  · exact ⟨rfl, rfl⟩

/-- A directive that cannot be read is passed over, and two about one prefix are both given. -/
example : givenDirectives (some (Bytes.ofString "info,a=off,ab=warn,a=trace,ab=loud")) =
    [⟨none, some .info⟩, ⟨some "a", none⟩, ⟨some "ab", some .warn⟩, ⟨some "a", some .trace⟩] := by
  decide

/-- A value with more than one slash gives nothing. -/
theorem given_of_slashes {value : Bytes} {text : String} (h : value.decode? = some text)
    (hslashes : 1 < text.toList.count '/') :
    givenDirectives (some value) = [] ∧ givenPattern (some value) = none := by
  have hparts : parts (some value) = Text.split '/' text.toList := by simp [parts, h]
  have hlength := Text.length_split '/' text.toList
  unfold givenDirectives givenPattern
  rw [hparts]
  rcases hsplit : Text.split '/' text.toList with _ | ⟨directives, _ | ⟨pattern, _ | _⟩⟩
  · exact ⟨rfl, rfl⟩
  · simp [hsplit] at hlength
    omega
  · simp [hsplit] at hlength
    omega
  · exact ⟨rfl, rfl⟩

end Specification

namespace Filter

open Directive Specification

variable {level : Level} {value : Option Bytes} {r : Record}

/-- The filter that the variable sets up holds what its value gives. -/
theorem setUp_eq (level : Level) (value : Option Bytes) :
    (setUp level value).1 = ofSpecification level
      { directives := givenDirectives value, pattern := givenPattern value } := by
  cases hvalue : value.bind Bytes.decode? with
  | none => simp [setUp, hvalue, givenDirectives, givenPattern, parts]
  | some text =>
    obtain ⟨value, rfl, htext⟩ := Option.bind_eq_some_iff.mp hvalue
    obtain ⟨hdirectives, hpattern⟩ := parse_eq text value htext
    simp [setUp, htext, ofSpecification, hdirectives, hpattern]

/-- Whether a record passes a log of a level with a value of the variable: its message matches the
expression that is given, and its level is within the threshold that is set for its target. -/
structure Passes (level : Level) (value : Option Bytes) (r : Record) : Prop where
  message : ∀ pattern ∈ givenPattern value, pattern.isMatch r.message = true
  level : ∃ limit, Limit level (givenDirectives value) r.target (some limit) ∧
    r.level.rank ≤ limit.rank

theorem admits_setUp_iff : (setUp level value).1.admits r = true ↔ Passes level value r := by
  have hlevel : (setUp level value).1.asksFor r.level r.target = true ↔
      ∃ limit, Limit level (givenDirectives value) r.target (some limit) ∧
        r.level.rank ≤ limit.rank := by
    rw [setUp_eq, asksFor, Threshold.admits, Option.any_eq_true]
    refine exists_congr fun limit => ?_
    rw [threshold_eq_iff, decide_eq_true_eq]
  have hmessage : (setUp level value).1.pattern.all (·.isMatch r.message) = true ↔
      ∀ pattern ∈ givenPattern value, pattern.isMatch r.message = true := by
    rw [setUp_eq]
    exact Option.all_eq_true ..
  rw [admits, Bool.and_eq_true, hlevel, hmessage]
  constructor
  · intro h
    exact ⟨h.2, h.1⟩
  · intro h
    exact ⟨h.level, h.message⟩

/-- A directive without a prefix leaves nothing to the level of the log. -/
theorem setUp_congr (h : ∃ d ∈ givenDirectives value, d.target = none) (level' : Level) :
    (setUp level value).1 = (setUp level' value).1 := by
  let given : Specification :=
    { directives := givenDirectives value, pattern := givenPattern value }
  have hdirectives : (ofSpecification level given).directives =
      (ofSpecification level' given).directives := by
    rw [directives_ofSpecification, directives_ofSpecification,
      general_congr h (some level) (some level')]
  rw [setUp_eq, setUp_eq]
  exact congrArg (Filter.mk · given.pattern) hdirectives

/-- A value that gives nothing sets up the filter of a variable that is not set. -/
theorem setUp_eq_unset (hdirectives : givenDirectives value = [])
    (hpattern : givenPattern value = none) (level : Level) :
    (setUp level value).1 = (setUp level none).1 := by
  rw [setUp_eq, setUp_eq, hdirectives, hpattern]
  rfl

end Filter

end ImageSwap.Log
