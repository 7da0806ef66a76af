/-!
# Results and tables

What a step in a row of steps, or a step whose failure is renamed, comes to, and what a table holds
under a key once the entries under another one are taken away.
-/

namespace ImageSwap

variable {ε ε' α β : Type}

/-- Two steps in a row succeed when the first does and the second does after it. -/
theorem except_bind_eq_ok_iff {x : Except ε α} {f : α → Except ε β} {b : β} :
    x >>= f = .ok b ↔ ∃ a, x = .ok a ∧ f a = .ok b := by
  cases x <;> simp [bind, Except.bind]

/-- Two steps in a row fail when the first does, or the second after it. -/
theorem except_bind_eq_error_iff {x : Except ε α} {f : α → Except ε β} {e : ε} :
    x >>= f = .error e ↔ x = .error e ∨ ∃ a, x = .ok a ∧ f a = .error e := by
  cases x <;> simp [bind, Except.bind]

@[simp] theorem except_mapError_ok (f : ε → ε') (a : α) :
    (Except.ok a).mapError f = .ok a := rfl

@[simp] theorem except_mapError_error (f : ε → ε') (e : ε) :
    (Except.error e : Except ε α).mapError f = .error (f e) := rfl

/-- Renaming failures changes no success. -/
theorem except_mapError_eq_ok_iff {x : Except ε α} {f : ε → ε'} {a : α} :
    x.mapError f = .ok a ↔ x = .ok a := by
  cases x <;> simp

/-- A failure under its new name is one that was there before. -/
theorem except_mapError_eq_error_iff {x : Except ε α} {f : ε → ε'} {e' : ε'} :
    x.mapError f = .error e' ↔ ∃ e, x = .error e ∧ f e = e' := by
  cases x <;> simp

/-- Taking away what stands under one key changes nothing under another. -/
theorem lookup_filter_of_ne {κ : Type} [BEq κ] [LawfulBEq κ] {removed key : κ}
    (h : key ≠ removed) (table : List (κ × α)) :
    (table.filter (·.1 != removed)).lookup key = table.lookup key := by
  induction table with
  | nil => rfl
  | cons first rest ih =>
    by_cases hfirst : first.1 = removed
    · have hskip : (key == first.1) = false := by
        rw [hfirst]
        exact beq_eq_false_iff_ne.mpr h
      rw [List.filter_cons_of_neg (by simpa using hfirst), ih, List.lookup_cons, hskip]
    · rw [List.filter_cons_of_pos (by simpa using hfirst), List.lookup_cons, List.lookup_cons, ih]

end ImageSwap
