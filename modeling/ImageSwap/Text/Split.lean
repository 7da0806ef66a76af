/-!
# Splitting at a separator

A list is cut at every occurrence of a separator, which leaves one part more than there are
occurrences.
-/

namespace ImageSwap.Text

variable {α : Type} [DecidableEq α]

/-- The parts of a list between the occurrences of a separator; always at least one. -/
def split (separator : α) : List α → List (List α)
  | [] => [[]]
  | x :: xs =>
    if x = separator then [] :: split separator xs
    else match split separator xs with
      | [] => [[x]]
      | part :: parts => (x :: part) :: parts

theorem split_ne_nil (separator : α) (xs : List α) : split separator xs ≠ [] := by
  cases xs with
  | nil => simp [split]
  | cons x xs =>
    simp only [split]
    split
    · simp
    · split <;> simp

/-- A list without separators is one part. -/
theorem split_of_not_mem {separator : α} {xs : List α} (h : separator ∉ xs) :
    split separator xs = [xs] := by
  induction xs with
  | nil => rfl
  | cons x xs ih =>
    simp only [List.mem_cons, not_or] at h
    simp [split, ih h.2, Ne.symm h.1]

/-- There is one part more than there are separators. -/
theorem length_split (separator : α) (xs : List α) :
    (split separator xs).length = xs.count separator + 1 := by
  induction xs with
  | nil => rfl
  | cons x xs ih =>
    unfold split
    by_cases hx : x = separator
    · simp [hx, ih]
    · rw [if_neg hx, List.count_cons_of_ne hx]
      cases h : split separator xs with
      | nil => exact absurd h (split_ne_nil separator xs)
      | cons part parts => simpa [h] using ih

/-- The parts of two lists joined by a separator are the parts of the one and the other. -/
theorem split_append_cons (separator : α) (xs ys : List α) :
    split separator (xs ++ separator :: ys) = split separator xs ++ split separator ys := by
  induction xs with
  | nil => simp [split]
  | cons x xs ih =>
    simp only [split, List.cons_append, ih]
    split
    · simp
    · cases h : split separator xs with
      | nil => exact absurd h (split_ne_nil separator xs)
      | cons part parts => simp

end ImageSwap.Text
