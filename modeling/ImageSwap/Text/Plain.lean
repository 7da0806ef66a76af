/-!
# Text without terminal controls

What is printed for a terminal may carry the sequences that steer it. A plain text has none: it is
what is left when the sequences are taken out, and with them every control character that is not
white space.
-/

namespace ImageSwap.Text

/-- Where a reader of terminal sequences stands. -/
inductive TerminalState where
  /-- Between sequences. -/
  | ground
  /-- After the character that begins a sequence. -/
  | escape
  /-- In a sequence of one final letter. -/
  | intermediate
  /-- In a sequence with parameters. -/
  | control
  /-- In a command to the system, which the bell ends. -/
  | system
  /-- In a string that only another sequence ends. -/
  | string
  deriving DecidableEq, Repr

/-- Whether a character is white space that is kept in a sequence as well. -/
private def isKeptControl (c : Char) : Bool :=
  c == '\t' || c == '\n' || c == '\x0c' || c == '\r'

/-- The state after a character, and whether the character is kept. -/
def TerminalState.step (state : TerminalState) (c : Char) : TerminalState × Bool :=
  if c == '\x1b' then (.escape, false)
  else if c == '\x18' || c == '\x1a' then (.ground, false)
  else if 0x80 ≤ c.toNat then (.ground, true)
  else match state with
    | .ground => (.ground, (0x20 ≤ c.toNat && c != '\x7f') || isKeptControl c)
    | .escape =>
      if isKeptControl c then (.ground, true)
      else if c == '[' then (.control, false)
      else if c == ']' then (.system, false)
      else if "PX^_".toList.contains c then (.string, false)
      else if 0x20 ≤ c.toNat && c.toNat < 0x30 then (.intermediate, false)
      else if 0x30 ≤ c.toNat && c != '\x7f' then (.ground, false)
      else (.escape, false)
    | .intermediate =>
      if isKeptControl c then (.ground, true)
      else if 0x30 ≤ c.toNat && c != '\x7f' then (.ground, false)
      else (.intermediate, false)
    | .control =>
      if isKeptControl c then (.ground, true)
      else if 0x40 ≤ c.toNat && c != '\x7f' then (.ground, false)
      else (.control, false)
    | .system => if c == '\x07' then (.ground, false) else (.system, false)
    | .string => (.string, false)

/-- A text without terminal sequences. -/
def plain (s : String) : String :=
  let (_, kept) := s.toList.foldl (fun (state, kept) c =>
    let (state, isKept) := TerminalState.step state c
    (state, if isKept then c :: kept else kept)) (TerminalState.ground, [])
  String.ofList kept.reverse

end ImageSwap.Text
