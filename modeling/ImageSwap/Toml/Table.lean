import ImageSwap.Toml.Value

/-!
# Building TOML tables

A document is a list of statements: dotted keys with their values, and headers that say to which
table the keys after them belong. What may be defined twice is a matter of how the tables on the
way came about: a dotted key goes only through tables that no header or brace defined, a header
defines a table once, and a name is given a value once.
-/

namespace ImageSwap.Toml

/-- Whether a table has only been named on the way to another one. -/
def TableOrigin.isImplicit : TableOrigin → Bool
  | implied | dotted => true
  | inline | header => false

namespace Members

/-- The value of a name. -/
def find? (members : Members) (name : String) : Option (Option Span × Value) :=
  (List.find? (·.1.name == name) members).map (·.2)

/-- The members with another value for a name that has one. -/
def replace (members : Members) (name : String) (item : Option Span × Value) : Members :=
  members.map fun (key, old) => if key.name == name then (key, item) else (key, old)

/-- The members without a name. -/
def erase (members : Members) (name : String) : Members :=
  members.filter (·.1.name != name)

/-- Changes the table that a path leads to, by way of tables, and of the last tables of arrays that
headers made. A table that the path is the first to name is made on the way, by a dotted key or by
a header. -/
def updateAt (byKey : Bool) (change : TableOrigin → Members → Option (Members × α)) :
    TableOrigin → List Key → Members → Option (Members × α)
  | origin, [], members => change origin members
  | _, key :: path, members =>
    match members.find? key.name with
    | none => do
      let origin : TableOrigin := if byKey then .dotted else .implied
      let (inner, a) ← updateAt byKey change origin path []
      return (members ++ [(key, none, .table origin inner)], a)
    | some (span, .table origin inner) =>
      if origin = .inline ∨ byKey ∧ !origin.isImplicit then none
      else do
        let (inner, a) ← updateAt byKey change origin path inner
        return (members.replace key.name (span, .table origin inner), a)
    | some (span, .array .headers elements) =>
      match elements.getLast? with
      | some (elementSpan, .table origin inner) => do
        let (inner, a) ← updateAt byKey change origin path inner
        let elements := elements.dropLast ++ [(elementSpan, .table origin inner)]
        return (members.replace key.name (span, .array .headers elements), a)
      | _ => none
    | some _ => none

/-- Gives a value to a dotted key inside a table. The table that takes the value is the one that
was begun, or one that dotted keys made. -/
def assign (members : Members) (path : List Key) (key : Key) (span : Span) (value : Value) :
    Option Members := do
  let put (origin : TableOrigin) (inner : Members) : Option (Members × Unit) :=
    if (origin == .dotted) == path.isEmpty then none
    else if (inner.find? key.name).isSome then none
    else some (inner ++ [(key, some span, value)], ())
  let (members, _) ← updateAt true put .header path members
  return members

/-- Takes the table that a header defines out of its place, with what earlier headers have put
below it. If the name is taken, it must be by a table that has only been named on the way. -/
def openTable (root : Members) (path : List Key) (key : Key) : Option (Members × Members) :=
  updateAt false (fun _ members =>
    match members.find? key.name with
    | none => some (members, [])
    | some (_, .table .implied inner) => some (members.erase key.name, inner)
    | some _ => none) .header path root

/-- Makes sure that a name stands for an array that headers make. -/
def openArray (root : Members) (path : List Key) (key : Key) : Option Members := do
  let (root, _) ← updateAt false (fun _ members =>
    match members.find? key.name with
    | none => some (members ++ [(key, none, .array .headers [])], ())
    | some (_, .array .headers _) => some (members, ())
    | some _ => none) .header path root
  return root

/-- Puts a table that a header defined into its place. -/
def closeTable (root : Members) (path : List Key) (key : Key) (span : Span) (inner : Members) :
    Option Members := do
  let (root, _) ← updateAt false (fun _ members =>
    some (members ++ [(key, some span, .table .header inner)], ())) .header path root
  return root

/-- The stretch of text from the first of some elements to the last. -/
private def hull (elements : List (Option Span × Value)) : Option Span := do
  let (first, _) ← elements.head?
  let (last, _) ← elements.getLast?
  return ⟨(← first).start, (← last).stop⟩

/-- Puts a table that a header defined at the end of its array. -/
def closeArray (root : Members) (path : List Key) (key : Key) (span : Span) (inner : Members) :
    Option Members := do
  let (root, _) ← updateAt false (fun _ members =>
    match members.find? key.name with
    | some (_, .array .headers elements) =>
      let elements := elements ++ [(some span, .table .header inner)]
      some (members.replace key.name (hull elements, .array .headers elements), ())
    | _ => none) .header path root
  return root

end Members

/-- A statement of a document. The path of a key is given without its last part. -/
inductive Statement where
  | assign (path : List Key) (key : Key) (span : Span) (value : Value)
  | header (origin : ArrayOrigin) (path : List Key) (key : Key) (span : Span)
  deriving Repr

/-- A header whose table is being filled. -/
structure Heading where
  origin : ArrayOrigin
  path : List Key
  key : Key
  span : Span
  deriving Repr

/-- A document that is being built: the tables that are finished, and the one that the next keys
belong to. -/
structure Draft where
  root : Members := []
  heading : Option Heading := none
  body : Members := []
  deriving Repr

namespace Draft

/-- The members of the document when its last table is finished. -/
def close (d : Draft) : Option Members :=
  match d.heading with
  | none => some d.body
  | some ⟨.inline, path, key, span⟩ => Members.closeTable d.root path key span d.body
  | some ⟨.headers, path, key, span⟩ => Members.closeArray d.root path key span d.body

/-- The document with one more statement. The stretch of text of a table that a header defines goes
on to the end of its last value. -/
def add (d : Draft) : Statement → Option Draft
  | .assign path key span value => do
    let body ← d.body.assign path key span value
    let heading := d.heading.map fun h => { h with span := ⟨h.span.start, span.stop⟩ }
    return { d with heading, body }
  | .header .inline path key span => do
    let root ← d.close
    let (root, body) ← root.openTable path key
    return { root, heading := some ⟨.inline, path, key, span⟩, body }
  | .header .headers path key span => do
    let root ← d.close
    let root ← root.openArray path key
    return { root, heading := some ⟨.headers, path, key, span⟩, body := [] }

end Draft

/-- The members of the document that statements make up. -/
def Members.ofStatements (statements : List Statement) : Option Members := do
  let draft ← statements.foldlM Draft.add {}
  draft.close

end ImageSwap.Toml
