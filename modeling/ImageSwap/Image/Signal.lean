/-!
# Signals

The signals by which a process can be ended, with their names.
-/

namespace ImageSwap.Signal

/-- The names of the signals, from number 1 on. -/
def names : List String := [
  "HUP", "INT", "QUIT", "ILL", "TRAP", "ABRT", "BUS", "FPE", "KILL", "USR1", "SEGV", "USR2",
  "PIPE", "ALRM", "TERM", "STKFLT", "CHLD", "CONT", "STOP", "TSTP", "TTIN", "TTOU", "URG",
  "XCPU", "XFSZ", "VTALRM", "PROF", "WINCH", "IO", "PWR", "SYS"]

/-- The greatest number of a signal. -/
def greatest : Nat := 64

/-- The number of the signal with a given name, in letters of either case. -/
def ofName? (name : List Char) : Option Nat :=
  let name := String.ofList (name.map Char.toUpper)
  (names.findIdx? (· == name)).map (· + 1)

/-- Whether a signal ends a process that has not asked for anything else. -/
def isFatal (number : Nat) : Bool :=
  0 < number && !(["CHLD", "CONT", "STOP", "TSTP", "TTIN", "TTOU", "URG", "WINCH"].any fun name =>
    ofName? name.toList == some number)

end ImageSwap.Signal
