import ImageSwap.Log.Level
import ImageSwap.Text.Split
import ImageSwap.Timestamp

/-!
# Log records

A record is a message with its level and the part of the program that it comes from. It is shown
behind a bracket with the time, the level and that part; the further lines of a message are
indented, so that every record can be told from the next.
-/

namespace ImageSwap.Log

/-- A message to the log. -/
structure Record where
  level : Level
  /-- The part of the program that the message comes from. -/
  target : String
  message : String
  deriving DecidableEq, Repr

namespace Record

/-- The name of a level, filled up to the width of the longest. -/
private def levelField (level : Level) : String :=
  level.name ++ String.ofList (List.replicate (5 - level.name.length) ' ')

/-- A text whose lines after the first are indented. -/
private def indentRest (text : String) : String :=
  let lines := Text.split '\n' text.toList
  String.ofList (['\n', ' ', ' ', ' ', ' '].intercalate lines)

/-- A record as the log shows it. -/
def text (r : Record) (time : Timestamp) : String :=
  s!"[{time.textToSecond} {levelField r.level} {r.target}] {indentRest r.message}\n"

private theorem newline_notMem_levelField (level : Level) :
    '\n' ∉ (levelField level).toList := by
  cases level <;> decide

private theorem indentRest_eq_self {text : String} (h : '\n' ∉ text.toList) :
    indentRest text = text := by
  simp [indentRest, Text.split_of_not_mem h]

/-- A record whose target and message are on one line is shown on one line. -/
theorem text_eq_line {r : Record} (htarget : '\n' ∉ r.target.toList)
    (hmessage : '\n' ∉ r.message.toList) (time : Timestamp) :
    ∃ line, r.text time = line ++ "\n" ∧ '\n' ∉ line.toList := by
  refine ⟨"[" ++ time.textToSecond ++ " " ++ levelField r.level ++ " " ++ r.target ++ "] " ++
    r.message, ?_, ?_⟩
  · rw [text, indentRest_eq_self hmessage]
    rfl
  · simp [time.newline_notMem_textToSecond, newline_notMem_levelField, htarget, hmessage]

end Record

end ImageSwap.Log
