import ImageSwap.Proofs.LogThresholds
import ImageSwap.Proofs.PrintedOutput
import ImageSwap.Proofs.RunSteps

/-!
# What the verbosity of a run changes

A run with more flags for verbosity asks the same of its world, prints the same and ends the same
way; on the error stream it only adds records of the log, each of them whole and between the same
other texts. To see this, two runs are followed side by side: they take the same steps, and after
each of them their journals differ in records alone.

There is one exception. A call for a new image that tries nothing answers with the error number that
the process was left with, and that may be another one when the program was looked up for the log.
Two such runs compare as if both calls found the same number.
-/

namespace ImageSwap.Run

open CommandLine (Invocation)

/-- A list of effects is another one with records left out. -/
inductive Pared : List Effect → List Effect → Prop where
  | nil : Pared [] []
  | keep {less more : List Effect} (effect : Effect) (h : Pared less more) :
    Pared (effect :: less) (effect :: more)
  | drop {less more : List Effect} (record : Log.Record) (h : Pared less more) :
    Pared less (.log record :: more)

namespace Pared

theorem refl (effects : List Effect) : Pared effects effects := by
  induction effects with
  | nil => exact .nil
  | cons effect effects ih => exact .keep effect ih

theorem append {less more less' more' : List Effect} (h : Pared less more)
    (h' : Pared less' more') : Pared (less ++ less') (more ++ more') := by
  induction h with
  | nil => exact h'
  | keep effect _ ih => exact .keep effect ih
  | drop record _ ih => exact .drop record ih

end Pared

namespace Effect

/-- Whether an effect stands on the error stream when the log shows what a filter lets through. -/
def isTold (filter : Log.Filter) : Effect → Bool
  | log record => filter.admits record
  | print .stderr _ => true
  | _ => false

/-- The text of an effect that stands on the error stream. -/
def words (now : Timestamp) : Effect → String
  | log record => record.text now
  | print .stderr text => text
  | _ => ""

theorem onStderr_eq (filter : Log.Filter) (now : Timestamp) (effect : Effect) :
    effect.onStderr filter now = if effect.isTold filter then effect.words now else "" := by
  cases effect with
  | print stream => cases stream <;> rfl
  | _ => rfl

end Effect

/-- The effects in a list that stand on the error stream. -/
def told (filter : Log.Filter) (effects : List Effect) : List Effect :=
  effects.filter (Effect.isTold filter)

@[simp] theorem told_append (filter : Log.Filter) (before after : List Effect) :
    told filter (before ++ after) = told filter before ++ told filter after :=
  List.filter_append ..

/-- The texts of effects, one after the other. -/
def wordsOf (now : Timestamp) (effects : List Effect) : String :=
  String.join (effects.map (Effect.words now))

/-- The error stream holds the texts of the effects that stand there. -/
theorem stderr_eq_wordsOf (t : Transcript) (now : Timestamp) :
    t.stderr now = wordsOf now (told t.filter t.effects) := by
  rw [Transcript.stderr, wordsOf, told]
  induction t.effects with
  | nil => rfl
  | cons effect effects ih =>
    rw [List.map_cons, String.join_cons, ih, Effect.onStderr_eq, List.filter_cons]
    split
    · rw [List.map_cons, String.join_cons]
    · rw [String.empty_append]

/-- A journal differs from another one in records alone, each seen with its own log. -/
structure Alike (quiet loud : Log.Filter) (j k : Journal) : Prop where
  filters : j.filter = quiet ∧ k.filter = loud
  stdoutCalls : j.stdoutCalls = k.stdoutCalls
  sigpipe : j.sigpipe = k.sigpipe
  deeds : deeds j.effects = deeds k.effects
  told : Pared (told quiet j.effects) (told loud k.effects)

section

variable {quiet loud : Log.Filter} (h : quiet.Within loud)

include h

variable {w : World} {j k : Journal} (halike : Alike quiet loud j k)

include halike

end

namespace World

/-- The error number that a run finds when it calls for a new image. -/
def errnoFound (w : World) (verbosity : UInt8) : Errno :=
  w.callErrno (setUpLog w verbosity).1 w.errno

end World

end ImageSwap.Run
