/-!
# Log levels

Five levels order records by weight. A threshold lets a level and all heavier ones through, or
nothing at all.
-/

namespace ImageSwap.Log

/-- How much a record matters, the heaviest first. -/
inductive Level where
  | error
  | warn
  | info
  | debug
  | trace
  deriving DecidableEq, Repr

namespace Level

/-- The place of a level in the order. -/
def rank : Level → Nat
  | error => 1
  | warn => 2
  | info => 3
  | debug => 4
  | trace => 5

/-- The name of a level. -/
def name : Level → String
  | error => "ERROR"
  | warn => "WARN"
  | info => "INFO"
  | debug => "DEBUG"
  | trace => "TRACE"

/-- Every level in order. -/
def all : List Level := [error, warn, info, debug, trace]

/-- The level that a count of verbosity flags asks for. -/
def ofVerbosity : UInt8 → Level
  | 0 => warn
  | 1 => info
  | 2 => debug
  | _ => trace

end Level

/-- The lightest level that is let through, if any is. -/
abbrev Threshold := Option Level

namespace Threshold

/-- Whether a threshold lets a level through. -/
def admits (t : Threshold) (level : Level) : Bool := t.any fun limit => level.rank ≤ limit.rank

/-- The threshold of a given name, in letters of either case. -/
def ofName? (name : String) : Option Threshold :=
  let name := String.ofList (name.toList.map Char.toUpper)
  if name = "OFF" then some none else (Level.all.find? (·.name == name)).map some

end Threshold

end ImageSwap.Log
