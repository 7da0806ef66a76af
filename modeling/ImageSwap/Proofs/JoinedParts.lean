import ImageSwap.Proofs.PathLookup

/-!
# Parts and what they are joined to

The parts of a list between its separators are those lists without separators that give the list
back when they are joined by one separator each. Joined by anything else, they give the list with
every separator replaced by that.
-/

namespace ImageSwap.Text

variable {α : Type} [DecidableEq α] {separator : α}

theorem split_eq_splitOn (separator : α) (xs : List α) :
    split separator xs = xs.splitOn separator := by
  induction xs with
  | nil => rfl
  | cons x xs ih =>
    rw [split, List.splitOn_cons_eq_if_modifyHead, ih]
    by_cases hx : x = separator
    · simp [hx]
    · cases hparts : xs.splitOn separator with
      | nil => exact absurd hparts (List.splitOn_ne_nil _ _)
      | cons part parts => simp [hx]

/-- No part holds a separator. -/
theorem notMem_of_mem_split {xs part : List α} (h : part ∈ split separator xs) :
    separator ∉ part := by
  induction xs generalizing part with
  | nil =>
    rw [split, List.mem_singleton] at h
    simp [h]
  | cons x xs ih =>
    rw [split] at h
    split at h
    · rcases List.mem_cons.mp h with rfl | h
      · exact List.not_mem_nil
      · exact ih h
    · next hx =>
      cases hparts : split separator xs with
      | nil => exact absurd hparts (split_ne_nil separator xs)
      | cons first rest =>
        rw [hparts] at h ih
        rcases List.mem_cons.mp h with rfl | h
        · simp [Ne.symm hx, ih List.mem_cons_self]
        · exact ih (List.mem_cons_of_mem _ h)

/-- The parts of a list are the lists without separators that are joined to it. -/
theorem split_eq_iff {xs : List α} {parts : List (List α)} :
    split separator xs = parts ↔
      parts ≠ [] ∧ (∀ part ∈ parts, separator ∉ part) ∧ [separator].intercalate parts = xs := by
  constructor
  · rintro rfl
    refine ⟨split_ne_nil separator xs, fun part h => notMem_of_mem_split h, ?_⟩
    rw [split_eq_splitOn, List.intercalate_splitOn]
  · rintro ⟨hne, hparts, rfl⟩
    rw [split_eq_splitOn, List.splitOn_intercalate separator hparts hne]

/-- Replacing every separator joins the parts by what stands for it. -/
theorem flatMap_replace_eq_intercalate (separator : α) (replacement xs : List α) :
    (xs.flatMap fun x => if x = separator then replacement else [x]) =
      replacement.intercalate (split separator xs) := by
  induction xs with
  | nil => simp [split]
  | cons x xs ih =>
    rw [List.flatMap_cons, ih, split]
    cases hparts : split separator xs with
    | nil => exact absurd hparts (split_ne_nil separator xs)
    | cons part parts =>
      by_cases hx : x = separator
      · simp [hx, List.intercalate_cons_cons]
      · cases parts <;> simp [hx, List.intercalate_cons_cons]

end ImageSwap.Text
