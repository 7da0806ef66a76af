import ImageSwap.Log.Record
import ImageSwap.Regex.Match
import ImageSwap.Regex.Parse
import ImageSwap.Text.Bytes

/-!
# Log filters

A filter is a list of directives, each of which sets the threshold of the targets that begin with a
prefix; the longest prefix that a target begins with decides. A filter may also hold an expression
that messages must match. Filters are specified in a line of directives between commas with the
expression after a slash. Parts of a specification that cannot be read are passed over with a
warning.
-/

namespace ImageSwap.Log

/-- A threshold for the targets that begin with a prefix, or for all targets. -/
structure Directive where
  target : Option String
  threshold : Threshold
  deriving DecidableEq, Repr

namespace Directive

/-- Whether a directive is about a target. -/
def covers (d : Directive) (target : String) : Bool :=
  d.target.all fun start => start.toList.isPrefixOf target.toList

/-- The length of the prefix that a directive is about. -/
def length (d : Directive) : Nat := d.target.elim 0 String.utf8ByteSize

/-- The directive that a text gives, or the part of it that cannot be read. Without a level, every
record is let through; without a prefix, the level holds for all targets. -/
def parse (text : List Char) : Except String Directive :=
  match Text.split '=' text with
  | [word] =>
    let word := String.ofList word
    match Threshold.ofName? word with
    | some threshold => .ok ⟨none, threshold⟩
    | none => .ok ⟨some word, some .trace⟩
  | [start, level] =>
    let start := String.ofList start
    let level := String.ofList (Text.trim level)
    if level = "" then .ok ⟨some start, some .trace⟩
    else match Threshold.ofName? level with
      | some threshold => .ok ⟨some start, threshold⟩
      | none => .error level
  | _ => .error (String.ofList text)

/-- The directives with one more, which takes the place of one about the same prefix. -/
def insert (d : Directive) : List Directive → List Directive
  | [] => [d]
  | e :: rest => if e.target = d.target then d :: rest else e :: insert d rest

end Directive

/-- What a specification says, and the warnings about what cannot be read in it. -/
structure Specification where
  directives : List Directive := []
  pattern : Option Regex := none
  warnings : List String := []
  deriving DecidableEq, Repr

namespace Specification

/-- The warning about a text that cannot be read. -/
private def warning (text : String) : String :=
  s!"warning: invalid logging spec '{text}', ignoring it"

/-- The specification after one more directive in it. -/
def addDirective (s : Specification) (text : List Char) : Specification :=
  let text := Text.trim text
  if text = [] then s
  else match Directive.parse text with
    | .ok d => { s with directives := s.directives ++ [d] }
    | .error part => { s with warnings := s.warnings ++ [warning part] }

/-- The specification with an expression that messages must match. -/
def addPattern (s : Specification) (pattern : List Char) : Specification :=
  match Regex.parse pattern with
  | .ok r => { s with pattern := some r }
  | .error refusal =>
    let reason := refusal.message pattern
    { s with warnings := s.warnings ++ [s!"warning: invalid regex filter - {reason}"] }

/-- What the directives in a text say. -/
def ofDirectives (text : List Char) : Specification :=
  (Text.split ',' text).foldl addDirective {}

/-- What a text specifies. -/
def parse (text : String) : Specification :=
  match Text.split '/' text.toList with
  | [directives] => ofDirectives directives
  | [directives, pattern] => (ofDirectives directives).addPattern pattern
  | _ => { warnings := [warning text ++ " (too many '/'s)"] }

end Specification

/-- Which records the log shows. -/
structure Filter where
  /-- The directives, the shortest prefix first. -/
  directives : List Directive := []
  /-- An expression that messages must match. -/
  pattern : Option Regex := none
  deriving DecidableEq, Repr

namespace Filter

/-- The filter of a log that is not in use. -/
def silent : Filter := {}

/-- The filter that lets every record through. -/
def everything : Filter where
  directives := [⟨none, some .trace⟩]

/-- The filter that shows records up to a level unless a specification says otherwise. -/
def ofSpecification (level : Level) (s : Specification) : Filter where
  directives :=
    (s.directives.foldl (fun ds d => Directive.insert d ds) [⟨none, some level⟩]).mergeSort
      fun d e => d.length ≤ e.length
  pattern := s.pattern

/-- The threshold for a target, which the last directive about it sets. -/
def threshold (f : Filter) (target : String) : Threshold :=
  match f.directives.reverse.find? (·.covers target) with
  | some d => d.threshold
  | none => none

/-- Whether a filter asks for records of a level and a target, whatever their messages. -/
def asksFor (f : Filter) (level : Level) (target : String) : Bool :=
  (f.threshold target).admits level

/-- Whether a filter lets a record through. -/
def admits (f : Filter) (r : Record) : Bool :=
  f.asksFor r.level r.target && f.pattern.all (·.isMatch r.message)

/-- The filter that a level and the value of the environment variable set up, and the warnings
about what cannot be read in the value. A value that is no text counts as none. -/
def setUp (level : Level) (value : Option Bytes) : Filter × List String :=
  let s : Specification := match value.bind Bytes.decode? with
    | some text => .parse text
    | none => {}
  (.ofSpecification level s, s.warnings)

end Filter

/-- The environment variable that specifies the filter. -/
def filterVariable : String := "EXECVE_TEST_LOG"

end ImageSwap.Log
