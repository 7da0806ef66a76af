import ImageSwap.Log.Filter

/-!
# What the level of the log decides

The threshold of a target is set by the directives that name a prefix of it, if there are any; of
all other targets it is set by the last directive without a prefix, or else by the level of the log.
So the level decides about some targets or about none, and raising it hides no record.
-/

namespace ImageSwap.Log

namespace Threshold

/-- One threshold lets through whatever another does. -/
def Within (t u : Threshold) : Prop := ∀ level, t.admits level = true → u.admits level = true

theorem Within.refl (t : Threshold) : t.Within t := fun _ h => h

end Threshold

namespace Directive

/-- The threshold of all targets that no directive names a prefix of: the last directive without a
prefix sets it, if there is one. -/
def general (t : Threshold) (ds : List Directive) : Threshold :=
  ds.foldl (fun t d => if d.target = none then d.threshold else t) t

/-- The directives that name a prefix, each in the place of those before it about the same prefix,
the shortest prefix first. -/
def specific (ds : List Directive) : List Directive :=
  ((ds.filter (·.target.isSome)).foldl (fun ds d => insert d ds) []).mergeSort
    fun d e => d.length ≤ e.length

/-- A directive without a prefix at the head of a list stays there: it is replaced by others without
a prefix, and those with a prefix go to the rest of the list. -/
theorem foldl_insert_general (t : Threshold) (rest ds : List Directive) :
    ds.foldl (fun ds d => insert d ds) (⟨none, t⟩ :: rest) =
      ⟨none, general t ds⟩ ::
        (ds.filter (·.target.isSome)).foldl (fun ds d => insert d ds) rest := by
  induction ds generalizing t rest with
  | nil => rfl
  | cons d ds ih =>
    obtain ⟨target, threshold⟩ := d
    cases target with
    | none => simpa [insert, general] using ih threshold rest
    | some start => simpa [insert, general] using ih t (insert ⟨some start, threshold⟩ rest)

private theorem length_le_trans (a b c : Directive) : decide (a.length ≤ b.length) = true →
    decide (b.length ≤ c.length) = true → decide (a.length ≤ c.length) = true := by
  simpa using Nat.le_trans

private theorem length_le_total (a b : Directive) :
    (decide (a.length ≤ b.length) || decide (b.length ≤ a.length)) = true := by
  simpa using Nat.le_total ..

/-- The directives that name a prefix are in the order of its length. -/
theorem pairwise_specific (ds : List Directive) :
    (specific ds).Pairwise fun d e => d.length ≤ e.length := by
  simpa [specific] using List.pairwise_mergeSort length_le_trans length_le_total _

/-- A directive without a prefix is the first by the length of its prefix, as it was before. -/
theorem mergeSort_general (t : Threshold) (rest : List Directive) :
    (⟨none, t⟩ :: rest : List Directive).mergeSort (fun d e => d.length ≤ e.length) =
      ⟨none, t⟩ :: rest.mergeSort fun d e => d.length ≤ e.length := by
  obtain ⟨before, after, hsorted, hrest, hbefore⟩ :=
    List.mergeSort_cons length_le_trans length_le_total ⟨none, t⟩ rest
  have hnil : before = [] := by
    refine List.eq_nil_iff_forall_not_mem.mpr fun d hd => ?_
    simpa [length] using hbefore d hd
  rw [hsorted, hrest, hnil]
  rfl

end Directive

namespace Filter

variable (level : Level) (s : Specification) (target : String)

theorem directives_ofSpecification :
    (ofSpecification level s).directives =
      ⟨none, Directive.general (some level) s.directives⟩ ::
        Directive.specific s.directives := by
  rw [ofSpecification, Directive.foldl_insert_general, Directive.mergeSort_general,
    Directive.specific]

/-- The last of the directives that name a prefix of a target sets its threshold; where there is
none, the threshold is the general one, which is that of the level unless a directive sets it. -/
theorem threshold_ofSpecification :
    (ofSpecification level s).threshold target =
      match (Directive.specific s.directives).reverse.find? (·.covers target) with
      | some d => d.threshold
      | none => Directive.general (some level) s.directives := by
  rw [threshold, directives_ofSpecification, List.reverse_cons, List.find?_append]
  cases (Directive.specific s.directives).reverse.find? (·.covers target) with
  | none => rfl
  | some d => rfl

variable {level level' : Level} {s target}

/-- One filter asks for, and shows, whatever another does. -/
structure Within (f g : Filter) : Prop where
  asksFor : ∀ {level target}, f.asksFor level target = true → g.asksFor level target = true
  admits : ∀ {record}, f.admits record = true → g.admits record = true

end Filter

namespace Level

/-- Each flag for verbosity raises the level by one step, from the second to the fifth. -/
theorem rank_ofVerbosity (v : UInt8) : (ofVerbosity v).rank = 2 + min 3 v.toNat := by
  unfold ofVerbosity
  split
  · rfl
  · rfl
  · rfl
  · next h₀ h₁ h₂ =>
    have h₀ : v.toNat ≠ 0 := fun h => h₀ (UInt8.toNat_inj.mp h)
    have h₁ : v.toNat ≠ 1 := fun h => h₁ (UInt8.toNat_inj.mp h)
    have h₂ : v.toNat ≠ 2 := fun h => h₂ (UInt8.toNat_inj.mp h)
    rw [rank]
    omega

end Level

end ImageSwap.Log
