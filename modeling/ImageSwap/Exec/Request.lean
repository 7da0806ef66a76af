import ImageSwap.Failure

/-!
# Requests for a new image

A request names a program and the arguments that follow its name. Overrides from the command line
act on a configured request: a program replaces the arguments as well, arguments alone keep the
program. Overrides compose, and a sequence of them acts as its composition.
-/

namespace ImageSwap

/-- A program to run in place of this one, and its arguments. -/
structure Request where
  program : String := "pwd"
  args : List String := []
  deriving DecidableEq, Repr

/-- What the command line says about the program to run. -/
structure Overrides where
  program : Option String := none
  args : List String := []
  deriving DecidableEq, Repr

namespace Overrides

/-- One override that acts as `first` and then `second`. -/
def andThen (first second : Overrides) : Overrides :=
  match second.program with
  | some program => ⟨some program, second.args⟩
  | none => if second.args = [] then first else ⟨first.program, second.args⟩

end Overrides

namespace Request

/-- The request after an override. -/
def override (r : Request) (o : Overrides) : Request :=
  match o.program with
  | some program => ⟨program, o.args⟩
  | none => if o.args = [] then r else ⟨r.program, o.args⟩

@[simp] theorem override_empty (r : Request) : r.override {} = r := rfl

/-- The program of an override goes before the one that was asked for. -/
@[simp] theorem program_override (r : Request) (o : Overrides) :
    (r.override o).program = o.program.getD r.program := by
  obtain ⟨program, args⟩ := o
  cases program with
  | some program => rfl
  | none => by_cases hargs : args = [] <;> simp [override, hargs]

/-- Two overrides in a row act as their composition. -/
theorem override_andThen (r : Request) (first second : Overrides) :
    r.override (first.andThen second) = (r.override first).override second := by
  obtain ⟨p, a⟩ := first
  obtain ⟨q, b⟩ := second
  cases p <;> cases q <;> by_cases ha : a = [] <;> by_cases hb : b = [] <;>
    simp [override, Overrides.andThen, ha, hb]

/-- The argument vector of the new image, which begins with the program as it was given. -/
def argv (r : Request) : List String := r.program :: r.args

/-- A text with every NUL shown as a backslash and a zero. -/
def showNul (s : String) : String :=
  String.ofList (s.toList.flatMap fun c => if c = '\x00' then ['\\', '0'] else [c])

/-- The bytes of the argument vector, or the reason why the system cannot take it. -/
def rawArgv (r : Request) : Except Failure (List Bytes) :=
  if r.program = "" then .error (.invalidArgument "" "program name is empty")
  else match r.argv.find? (·.toList.contains '\x00') with
    | some arg => .error (.invalidArgument (showNul arg) "contains a NUL byte")
    | none => .ok (r.argv.map Bytes.ofString)

end Request

end ImageSwap
