import ImageSwap.Decimal.Shortest
import ImageSwap.Exec.Request
import ImageSwap.FileSystem.Lookup
import ImageSwap.Toml.Document
import ImageSwap.Toml.Place

/-!
# The configured request

A config file is a TOML document with at most one key, `exec`: a table with the keys `program` and
`args`, or an array that gives the two in this order. What is left out keeps its default, what is
not known is refused, and the first fault in the order of the document is the one reported.
-/

namespace ImageSwap.Config

open Toml

/-- The words for a value that stands where another kind is wanted. -/
def label : Value → String
  | .string text => s!"string {Text.quote text}"
  | .integer n => s!"integer \x60{n}\x60"
  | .float x => s!"floating point \x60{x.text}\x60"
  | .boolean b => s!"boolean \x60{b}\x60"
  | .array .. => "sequence"
  | .moment | .table .. => "map"

/-- The complaint about a value of the wrong kind. -/
def mismatch (span : Span) (value : Value) (wanted : String) : Except Complaint α :=
  .error ⟨span, s!"invalid type: {label value}, expected {wanted}"⟩

/-- The complaint about a key that nothing is known of. -/
def unknownField (span : Span) (name known : String) : Except Complaint α :=
  .error ⟨span, s!"unknown field \x60{name}\x60, expected {known}"⟩

/-- The keys of the table `exec`. -/
def execKeys : String := "\x60program\x60 or \x60args\x60"

/-- The text of a value that stands at a place. -/
def textOf (span : Span) : Value → Except Complaint String
  | .string text => .ok text
  | value => mismatch span value "a string"

/-- The texts in a value that stands at a place. -/
def textsOf (span : Span) : Value → Except Complaint (List String)
  | .array _ elements => elements.mapM fun (own, value) => textOf (own.getD span) value
  | value => mismatch span value "a sequence"

/-- The request after one member of the table `exec`. -/
def addMember (r : Request) : Key × Option Span × Value → Except Complaint Request
  | (key, own, value) =>
    let span := own.getD key.span
    if key.name = "program" then (textOf span value).map fun program => { r with program }
    else if key.name = "args" then (textsOf span value).map fun args => { r with args }
    else unknownField key.span key.name execKeys

/-- The request in the value of `exec`, which stands at a place. -/
def requestOf (span : Span) : Value → Except Complaint Request
  | .table _ members => members.foldlM addMember {}
  | .array _ [] => .ok {}
  | .array _ [(own, program)] => do
    let program ← textOf (own.getD span) program
    return { program }
  | .array _ ((own, program) :: (own', args) :: _) => do
    let program ← textOf (own.getD span) program
    let args ← textsOf (own'.getD span) args
    return { program, args }
  | .moment => unknownField span "$__toml_private_datetime" execKeys
  | value => mismatch span value "struct ExecSection"

/-- The request that the members of a document configure. -/
def ofMembers (members : Members) : Except Complaint Request :=
  members.foldlM (fun _ (key, own, value) =>
    if key.name = "exec" then requestOf (own.getD key.span) value
    else unknownField key.span key.name "\x60exec\x60") {}

/-- The failure of a config file that cannot be used. -/
def invalid (text : String) : Failure := .configParse s!"invalid TOML: {text}"

/-- The request that the text of a config file configures. A text that is no document at all is
refused without going into the reasons. -/
def parse (text : String) : Except Failure Request :=
  match Toml.parse text.toList with
  | none => .error (invalid "<syntax>")
  | some members => (ofMembers members).mapError fun c => invalid (c.report text.toList)

/-- The bytes of the file that a path leads to. A program of the system is not text, and so reads
as bytes that are none. -/
def read (fs : FileSystem) (path : Bytes) : Except IoError Bytes :=
  if path.contains 0 then .error .nulInPath
  else match fs.lookup path with
    | .error errno => .error (.os errno)
    | .ok (_, .file _ (.data bytes)) => .ok bytes
    | .ok (_, .file _ (.utility _)) => .ok [0xff]
    | .ok (_, .directory) => .error (.os .eisdir)
    | .ok _ => .ok []

/-- The request in the config file at a path, or the default one when there is no path. -/
def load (fs : FileSystem) : Option Bytes → Except Failure Request
  | none => .ok {}
  | some path =>
    match read fs path with
    | .error (.os ⟨2⟩) => .error (.configParse s!"config file not found: {path.lossy}")
    | .error e => .error (.io e)
    | .ok bytes =>
      match bytes.decode? with
      | none => .error (.io .notUtf8)
      | some text => parse text

end ImageSwap.Config
