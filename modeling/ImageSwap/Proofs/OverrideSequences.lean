import ImageSwap.Proofs.Courses

/-!
# Sequences of overrides

An override replaces the program, the arguments, both or neither, and a program always takes its own
arguments with it. So the last override that gives a program decides which program is asked for, and
the last that gives arguments, or a program, decides which arguments go with it. A sequence of
overrides acts as one, its composition, and a mere look-up asks for the same program as a run.
-/

namespace ImageSwap

namespace Overrides

/-- Whether an override says what the arguments are to be: it gives some, or it gives a program,
which does not keep the arguments of another. -/
def givesArgs (o : Overrides) : Bool := o.program.isSome || !o.args.isEmpty

/-- Field by field, the second of two overrides goes before the first. -/
theorem andThen_eq (first second : Overrides) :
    first.andThen second = ⟨second.program.or first.program,
      if second.givesArgs then second.args else first.args⟩ := by
  obtain ⟨program, args⟩ := second
  cases program with
  | some program => rfl
  | none => cases args <;> simp [andThen, givesArgs]

/-- Of two overrides in a row one says what the arguments are to be when their composition does. -/
theorem givesArgs_andThen (first second : Overrides) :
    (first.andThen second).givesArgs = (first.givesArgs || second.givesArgs) := by
  rw [andThen_eq]
  obtain ⟨program, args⟩ := second
  cases program with
  | some program => simp [givesArgs]
  | none => cases args <;> simp [givesArgs]

instance : Std.Associative andThen where
  assoc first second third := by
    rw [andThen_eq _ third, andThen_eq _ second, andThen_eq first (second.andThen third),
      givesArgs_andThen, andThen_eq second third]
    by_cases hthird : third.givesArgs = true <;> simp [hthird, Option.or_assoc]

instance : Std.LawfulIdentity andThen {} where
  left_id o := by
    rw [andThen_eq]
    by_cases hargs : o.givesArgs = true
    · simp [hargs]
    · have hnil : o.args = [] := by
        simp only [givesArgs, Bool.or_eq_true, not_or] at hargs
        simpa using hargs.2
      simp [hargs, ← hnil]
  right_id _ := rfl

instance : Std.IdempotentOp andThen where
  idempotent o := by
    rw [andThen_eq, Option.or_self, ite_self]

/-- The one override that a sequence of overrides amounts to. -/
def compose (steps : List Overrides) : Overrides := steps.foldl andThen {}

end Overrides

namespace Request

theorem args_override (r : Request) (o : Overrides) :
    (r.override o).args = if o.givesArgs then o.args else r.args := by
  obtain ⟨program, args⟩ := o
  cases program with
  | some program => rfl
  | none => cases args <;> simp [override, Overrides.givesArgs]

/-- An override that is made again changes nothing more. -/
theorem override_override_self (r : Request) (o : Overrides) :
    (r.override o).override o = r.override o := by
  obtain ⟨program, args⟩ := o
  cases program with
  | some program => rfl
  | none => cases args <;> simp [override]

/-- The last override that gives a program decides which one is asked for. -/
theorem program_foldl_override (r : Request) (steps : List Overrides) :
    (steps.foldl override r).program = (steps.filterMap Overrides.program).getLastD r.program := by
  induction steps generalizing r with
  | nil => rfl
  | cons o steps ih =>
    rw [List.foldl_cons, ih, program_override]
    cases hprogram : o.program with
    | none => rw [List.filterMap_cons_none hprogram, Option.getD_none]
    | some program =>
      rw [List.filterMap_cons_some hprogram, List.getLastD_cons, Option.getD_some]

/-- The last override that gives arguments or a program decides which arguments there are. -/
theorem args_foldl_override (r : Request) (steps : List Overrides) :
    (steps.foldl override r).args =
      ((steps.filter Overrides.givesArgs).map Overrides.args).getLastD r.args := by
  induction steps generalizing r with
  | nil => rfl
  | cons o steps ih =>
    rw [List.foldl_cons, ih, args_override]
    by_cases hargs : o.givesArgs = true
    · rw [if_pos hargs, List.filter_cons_of_pos hargs, List.map_cons, List.getLastD_cons]
    · rw [if_neg hargs, List.filter_cons_of_neg hargs]

/-- A sequence of overrides that follows others acts as the composition of them all. -/
theorem foldl_override_override (r : Request) (first : Overrides) (steps : List Overrides) :
    steps.foldl override (r.override first) =
      r.override (steps.foldl Overrides.andThen first) := by
  induction steps generalizing first with
  | nil => rfl
  | cons o steps ih => rw [List.foldl_cons, List.foldl_cons, ← override_andThen, ih]

/-- A sequence of overrides acts as the one that it amounts to. -/
theorem foldl_override_eq (r : Request) (steps : List Overrides) :
    steps.foldl override r = r.override (Overrides.compose steps) :=
  foldl_override_override r {} steps

/-- What a sequence of overrides makes of a configured request. -/
structure OverriddenAsOne (configured : Request) (steps : List Overrides) : Prop where
  /-- The last override that gives a program decides which one is asked for. -/
  program : (steps.foldl override configured).program =
    (steps.filterMap Overrides.program).getLastD configured.program
  /-- The last override that gives arguments, or a program, decides which arguments there are. -/
  args : (steps.foldl override configured).args =
    ((steps.filter Overrides.givesArgs).map Overrides.args).getLastD configured.args
  /-- A program that comes last and alone clears the arguments of all that went before. -/
  cleared : ∀ program,
    (steps ++ [Overrides.mk (some program) []]).foldl override configured = ⟨program, []⟩
  /-- The sequence acts as a single override. -/
  composed : steps.foldl override configured = configured.override (Overrides.compose steps)
  /-- The sequence changes nothing more when it is gone through again. -/
  repeated : (steps ++ steps).foldl override configured = steps.foldl override configured

theorem overriddenAsOne (configured : Request) (steps : List Overrides) :
    OverriddenAsOne configured steps where
  program := program_foldl_override configured steps
  args := args_foldl_override configured steps
  cleared program := by rw [List.foldl_append, List.foldl_cons, List.foldl_nil, override]
  composed := foldl_override_eq configured steps
  repeated := by
    rw [List.foldl_append, foldl_override_eq configured, foldl_override_eq (configured.override _),
      override_override_self]

end Request

namespace Run

open CommandLine (Invocation)

variable {w : World} {i : Invocation} {configured : Request}

/-- A look-up and a run that are given the same option for the program are about the same one,
whatever arguments the run is given. -/
structure SameTarget (w : World) (i : Invocation) (configured : Request)
    (program : Option String) (args : List String) : Prop where
  lookedUp : dispatch w { i with named := some (.resolve program) } = do
    let target := (configured.override ⟨program, args⟩).program
    let value ← Act.ofExcept (Search.resolve w.fs target w.searchPath).report
    return .result value
  run : dispatch w { i with named := some (.run ⟨program, args⟩) } = do
    let image ← execute w i.output (configured.override ⟨program, args⟩)
    return .replaced image

theorem sameTarget (hload : Config.load w.fs i.config = .ok configured) (program : Option String)
    (args : List String) : SameTarget w i configured program args where
  lookedUp := by
    rw [Request.program_override, dispatch, hload]
    rfl
  run := by
    rw [dispatch, hload]
    rfl

/-- Overrides compose: composition is associative, the empty override is its identity, and each
override is absorbed by itself; every sequence acts as its composition, in which the last that says
something about a field decides; and a look-up is about the program that a run would ask for. -/
theorem overrides_compose :
    Std.Associative Overrides.andThen ∧ Std.LawfulIdentity Overrides.andThen {} ∧
      Std.IdempotentOp Overrides.andThen ∧
      (∀ configured steps, Request.OverriddenAsOne configured steps) ∧
      ∀ w i configured, Config.load w.fs (Invocation.config i) = .ok configured →
        ∀ program args, SameTarget w i configured program args :=
  ⟨inferInstance, inferInstance, inferInstance, Request.overriddenAsOne,
    fun _ _ _ hload program args => sameTarget hload program args⟩

end Run

end ImageSwap
