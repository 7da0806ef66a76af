import ImageSwap.Toml.Document
import Mathlib.Data.List.Nodup

/-!
# No name is given twice

Every table of a document gives each name once, whether it was written between braces, under a
header or by dotted keys. While a document is built, the place of the table that the last header
opened stays vacant until that table is put there.
-/

namespace ImageSwap.Toml

/-- The names of a table in order. -/
def Members.names (members : Members) : List String := members.map (·.1.name)

/-- No table inside a value gives a name twice. -/
inductive Value.Distinct : Value → Prop where
  | string (text : String) : Distinct (.string text)
  | integer (n : Int) : Distinct (.integer n)
  | float (x : Decimal.Binary64) : Distinct (.float x)
  | boolean (b : Bool) : Distinct (.boolean b)
  | moment : Distinct .moment
  | array (origin : ArrayOrigin) (elements : List (Option Span × Value)) :
      (∀ e ∈ elements, Distinct e.2) → Distinct (.array origin elements)
  | table (origin : TableOrigin) (members : Members) :
      members.names.Nodup → (∀ m ∈ members, Distinct m.2.2) → Distinct (.table origin members)

/-- Neither a table nor any table inside it gives a name twice. -/
structure Members.Distinct (members : Members) : Prop where
  names : members.names.Nodup
  values : ∀ m ∈ members, m.2.2.Distinct

namespace Value

variable {members : Members} {elements : List (Option Span × Value)}

theorem distinct_table_iff {origin : TableOrigin} :
    (table origin members).Distinct ↔ members.Distinct := by
  constructor
  · rintro (_ | _ | _ | _ | _ | _ | ⟨_, _, hnames, hvalues⟩)
    exact ⟨hnames, hvalues⟩
  · rintro ⟨hnames, hvalues⟩
    exact .table origin members hnames hvalues

theorem distinct_array_iff {origin : ArrayOrigin} :
    (array origin elements).Distinct ↔ ∀ e ∈ elements, e.2.Distinct := by
  constructor
  · rintro (_ | _ | _ | _ | _ | ⟨_, _, helements⟩)
    exact helements
  · exact .array origin elements

end Value

namespace Members

variable {members : Members} {name : String} {item : Option Span × Value}

theorem find?_cons (m : Key × Option Span × Value) :
    find? (m :: members) name = if m.1.name = name then some m.2 else members.find? name := by
  by_cases h : m.1.name = name <;> simp [find?, h]

theorem replace_cons (m : Key × Option Span × Value) :
    replace (m :: members) name item =
      (m.1, if m.1.name = name then item else m.2) :: members.replace name item := by
  by_cases h : m.1.name = name <;> simp [replace, h]

/-- A table has no value for the names it does not give. -/
theorem find?_eq_none_iff : members.find? name = none ↔ name ∉ members.names := by
  simp [find?, names]

/-- What a table has for a name is one of its members. -/
theorem mem_of_find? (h : members.find? name = some item) :
    ∃ key, (key, item) ∈ members ∧ key.name = name := by
  obtain ⟨⟨key, found⟩, hfound, rfl⟩ := Option.map_eq_some_iff.mp h
  exact ⟨key, List.mem_of_find?_eq_some hfound, by simpa using List.find?_some hfound⟩

theorem find?_append_of_none (h : members.find? name = none) {key : Key} (hkey : key.name = name) :
    (members ++ [(key, item)]).find? name = some item := by
  have hnone : List.find? (·.1.name == name) members = none := by
    simpa only [find?, Option.map_eq_none_iff] using h
  simp [find?, List.find?_append, hnone, hkey]

theorem names_replace : (members.replace name item).names = members.names := by
  induction members with
  | nil => rfl
  | cons m members ih =>
    rw [replace_cons, names, List.map_cons]
    exact congrArg _ ih

/-- A name that had a value has the one it was replaced by. -/
theorem find?_replace (h : members.find? name ≠ none) :
    (members.replace name item).find? name = some item := by
  induction members with
  | nil => exact absurd rfl h
  | cons m members ih =>
    rw [replace_cons, find?_cons]
    rw [find?_cons] at h
    by_cases hm : m.1.name = name
    · rw [if_pos hm, if_pos hm]
    · rw [if_neg hm] at h ⊢
      exact ih h

namespace Distinct

theorem nil : Members.Distinct [] := ⟨List.nodup_nil, by simp⟩

theorem of_find? (h : members.Distinct) (hfind : members.find? name = some item) :
    item.2.Distinct := by
  obtain ⟨key, hmem, -⟩ := mem_of_find? hfind
  exact h.values _ hmem

/-- A table may be given another name with its value. -/
theorem append {key : Key} (h : members.Distinct) (hvacant : key.name ∉ members.names)
    (hitem : item.2.Distinct) : Members.Distinct (members ++ [(key, item)]) := by
  refine ⟨?_, ?_⟩
  · rw [Members.names, List.map_append, List.nodup_append]
    refine ⟨h.names, List.nodup_singleton _, ?_⟩
    rintro a ha b hb rfl
    rw [List.mem_singleton.mp hb] at ha
    exact hvacant ha
  · intro m hm
    rcases List.mem_append.mp hm with hm | hm
    · exact h.values m hm
    · rw [List.mem_singleton.mp hm]
      exact hitem

theorem replace (h : members.Distinct) (hitem : item.2.Distinct) :
    Members.Distinct (Members.replace members name item) := by
  refine ⟨by rw [names_replace]; exact h.names, ?_⟩
  intro m hm
  obtain ⟨old, hold, rfl⟩ := List.mem_map.mp hm
  by_cases hname : (old.1.name == name) = true
  · simpa [hname] using hitem
  · simpa [hname] using h.values old hold

theorem erase (h : members.Distinct) : Members.Distinct (Members.erase members name) :=
  ⟨h.names.sublist (List.filter_sublist.map _), fun m hm => h.values m (List.mem_of_mem_filter hm)⟩

end Distinct

theorem not_mem_names_erase : name ∉ (members.erase name).names := by
  simp [names, erase]

/-! ### Changing the table at the end of a path -/

/-- The table that a path leads to by way of tables and of the last tables of arrays, if there is
one, has a property. -/
def AtPath (P : Members → Prop) : List Key → Members → Prop
  | [], members => P members
  | key :: path, members =>
    match members.find? key.name with
    | some (_, .table _ inner) => AtPath P path inner
    | some (_, .array .headers elements) =>
      match elements.getLast? with
      | some (_, .table _ inner) => AtPath P path inner
      | _ => True
    | _ => True

theorem atPath_true (path : List Key) (members : Members) :
    AtPath (fun _ => True) path members := by
  induction path generalizing members with
  | nil => trivial
  | cons key path ih =>
    rw [AtPath]
    split
    · exact ih _
    · split
      · exact ih _
      · trivial
    · trivial

theorem atPath_nil {P : Members → Prop} (hempty : P []) (path : List Key) : AtPath P path [] := by
  cases path with
  | nil => exact hempty
  | cons key path => trivial

variable {α : Type} {byKey : Bool} {change : TableOrigin → Members → Option (Members × α)}
  {origin : TableOrigin} {path : List Key} {out : Members} {a : α} {P : Members → Prop}

/-- What a change makes of a table is found at the end of the path. -/
theorem atPath_of_updateAt
    (hchange : ∀ origin inner out a, change origin inner = some (out, a) → P out)
    (h : updateAt byKey change origin path members = some (out, a)) : AtPath P path out := by
  induction path generalizing origin members out a with
  | nil => exact hchange _ _ _ _ h
  | cons key path ih =>
    rw [updateAt] at h
    rw [AtPath]
    split at h
    · next hnone =>
      obtain ⟨⟨inner, a⟩, hinner, h⟩ := Option.bind_eq_some_iff.mp h
      cases h
      simp only [find?_append_of_none hnone rfl]
      exact ih hinner
    · next hfind =>
      split at h
      · cases h
      · obtain ⟨⟨inner, a⟩, hinner, h⟩ := Option.bind_eq_some_iff.mp h
        cases h
        rw [find?_replace (by simp [hfind])]
        exact ih hinner
    · next hfind =>
      split at h
      · obtain ⟨⟨inner, a⟩, hinner, h⟩ := Option.bind_eq_some_iff.mp h
        cases h
        simp only [find?_replace (hfind ▸ Option.some_ne_none _), List.getLast?_concat]
        exact ih hinner
      · cases h
    · cases h

/-- A change that gives no name twice in the table at the end of a path does so nowhere. -/
theorem Distinct.of_updateAt {Q : α → Prop} (hempty : P [])
    (hchange : ∀ origin (inner out : Members) a, inner.Distinct → P inner →
      change origin inner = some (out, a) → out.Distinct ∧ Q a)
    (h : members.Distinct) (hpath : AtPath P path members)
    (hupdate : updateAt byKey change origin path members = some (out, a)) :
    out.Distinct ∧ Q a := by
  induction path generalizing origin members out a with
  | nil => exact hchange _ _ _ _ h hpath hupdate
  | cons key path ih =>
    rw [updateAt] at hupdate
    rw [AtPath] at hpath
    split at hupdate
    · next hnone =>
      obtain ⟨⟨inner, a⟩, hinner, hout⟩ := Option.bind_eq_some_iff.mp hupdate
      cases hout
      obtain ⟨hdistinct, hq⟩ := ih .nil (atPath_nil hempty path) hinner
      exact ⟨h.append (find?_eq_none_iff.mp hnone) (Value.distinct_table_iff.mpr hdistinct), hq⟩
    · next hfind =>
      split at hupdate
      · cases hupdate
      · obtain ⟨⟨inner, a⟩, hinner, hout⟩ := Option.bind_eq_some_iff.mp hupdate
        cases hout
        simp only [hfind] at hpath
        obtain ⟨hdistinct, hq⟩ := ih (Value.distinct_table_iff.mp (h.of_find? hfind)) hpath hinner
        exact ⟨h.replace (Value.distinct_table_iff.mpr hdistinct), hq⟩
    · next span elements hfind =>
      split at hupdate
      · next elementSpan _ old hlast =>
        obtain ⟨⟨inner, a⟩, hinner, hout⟩ := Option.bind_eq_some_iff.mp hupdate
        cases hout
        simp only [hfind, hlast] at hpath
        have helements := Value.distinct_array_iff.mp (h.of_find? hfind)
        have hold := helements _ (List.mem_of_getLast? hlast)
        obtain ⟨hdistinct, hq⟩ := ih (Value.distinct_table_iff.mp hold) hpath hinner
        refine ⟨h.replace (Value.distinct_array_iff.mpr ?_), hq⟩
        intro e he
        rcases List.mem_append.mp he with he | he
        · exact helements e ((List.dropLast_sublist elements).subset he)
        · rw [List.mem_singleton.mp he]
          exact Value.distinct_table_iff.mpr hdistinct
      · cases hupdate
    · cases hupdate

/-! ### The operations on a document -/

variable {root inner : Members} {key : Key} {span : Span} {value : Value}

theorem Distinct.of_assign (h : members.Distinct) (hvalue : value.Distinct)
    (hassign : members.assign path key span value = some out) : out.Distinct := by
  obtain ⟨⟨changed, a⟩, hupdate, hout⟩ := Option.bind_eq_some_iff.mp hassign
  cases hout
  refine (h.of_updateAt (P := fun _ => True) (Q := fun _ => True) trivial ?_
    (atPath_true path members) hupdate).1
  intro origin inner out a hinner _ hput
  split at hput
  · cases hput
  · split at hput
    · cases hput
    · next hvacant =>
      cases hput
      have hnone : inner.find? key.name = none := by simpa using hvacant
      exact ⟨hinner.append (find?_eq_none_iff.mp hnone) hvalue, trivial⟩

/-- The table that a header opens leaves its place vacant. -/
theorem Distinct.of_openTable (h : root.Distinct)
    (hopen : root.openTable path key = some (out, inner)) :
    out.Distinct ∧ inner.Distinct ∧ AtPath (fun m => key.name ∉ m.names) path out := by
  have hvacant : AtPath (fun m => key.name ∉ m.names) path out := by
    refine atPath_of_updateAt ?_ hopen
    intro origin members out a hchange
    split at hchange
    · next hnone =>
      cases hchange
      exact find?_eq_none_iff.mp hnone
    · cases hchange
      exact not_mem_names_erase
    · cases hchange
  have hdistinct := h.of_updateAt (P := fun _ => True) (Q := Members.Distinct) trivial ?_
    (atPath_true path root) hopen
  · exact ⟨hdistinct.1, hdistinct.2, hvacant⟩
  · intro origin members out a hmembers _ hchange
    split at hchange
    · cases hchange
      exact ⟨hmembers, .nil⟩
    · next hfind =>
      cases hchange
      exact ⟨hmembers.erase, Value.distinct_table_iff.mp (hmembers.of_find? hfind)⟩
    · cases hchange

theorem Distinct.of_closeTable (h : root.Distinct) (hinner : inner.Distinct)
    (hvacant : AtPath (fun m => key.name ∉ m.names) path root)
    (hclose : root.closeTable path key span inner = some out) : out.Distinct := by
  obtain ⟨⟨changed, a⟩, hupdate, hout⟩ := Option.bind_eq_some_iff.mp hclose
  cases hout
  refine (h.of_updateAt (Q := fun _ => True) (by simp [Members.names]) ?_ hvacant hupdate).1
  intro origin members out a hmembers hkey hput
  cases hput
  exact ⟨hmembers.append hkey (Value.distinct_table_iff.mpr hinner), trivial⟩

theorem Distinct.of_openArray (h : root.Distinct) (hopen : root.openArray path key = some out) :
    out.Distinct := by
  obtain ⟨⟨changed, a⟩, hupdate, hout⟩ := Option.bind_eq_some_iff.mp hopen
  cases hout
  refine (h.of_updateAt (P := fun _ => True) (Q := fun _ => True) trivial ?_
    (atPath_true path root) hupdate).1
  intro origin members out a hmembers _ hchange
  split at hchange
  · next hnone =>
    cases hchange
    have hempty : (Value.array .headers []).Distinct := .array _ _ (by simp)
    exact ⟨hmembers.append (find?_eq_none_iff.mp hnone) hempty, trivial⟩
  · cases hchange
    exact ⟨hmembers, trivial⟩
  · cases hchange

theorem Distinct.of_closeArray (h : root.Distinct) (hinner : inner.Distinct)
    (hclose : root.closeArray path key span inner = some out) : out.Distinct := by
  obtain ⟨⟨changed, a⟩, hupdate, hout⟩ := Option.bind_eq_some_iff.mp hclose
  cases hout
  refine (h.of_updateAt (P := fun _ => True) (Q := fun _ => True) trivial ?_
    (atPath_true path root) hupdate).1
  intro origin members out a hmembers _ hchange
  split at hchange
  · next span elements hfind =>
    cases hchange
    refine ⟨hmembers.replace (Value.distinct_array_iff.mpr ?_), trivial⟩
    intro e he
    rcases List.mem_append.mp he with he | he
    · exact Value.distinct_array_iff.mp (hmembers.of_find? hfind) e he
    · rw [List.mem_singleton.mp he]
      exact Value.distinct_table_iff.mpr hinner
  · cases hchange

end Members

/-- No table inside the value of a statement gives a name twice. -/
def Statement.Distinct : Statement → Prop
  | assign _ _ _ value => value.Distinct
  | header .. => True

/-- A document that is being built gives no name twice, and the place of the table that is being
filled is vacant. -/
structure Draft.Distinct (d : Draft) : Prop where
  root : d.root.Distinct
  body : d.body.Distinct
  vacant : ∀ path key span, d.heading = some ⟨.inline, path, key, span⟩ →
    Members.AtPath (fun m => key.name ∉ m.names) path d.root

namespace Draft.Distinct

variable {d next : Draft} {members : Members}

theorem close (h : d.Distinct) (hclose : d.close = some members) : members.Distinct := by
  unfold Draft.close at hclose
  split at hclose
  · cases hclose
    exact h.body
  · next hheading => exact h.root.of_closeTable h.body (h.vacant _ _ _ hheading) hclose
  · exact h.root.of_closeArray h.body hclose

theorem add {statement : Statement} (h : d.Distinct) (hstatement : statement.Distinct)
    (hadd : d.add statement = some next) : next.Distinct := by
  unfold Draft.add at hadd
  split at hadd
  · obtain ⟨body, hbody, hnext⟩ := Option.bind_eq_some_iff.mp hadd
    cases hnext
    refine ⟨h.root, h.body.of_assign hstatement hbody, fun path key span hheading => ?_⟩
    obtain ⟨⟨origin, path', key', span'⟩, hold, hsame⟩ := Option.map_eq_some_iff.mp hheading
    cases hsame
    exact h.vacant _ _ _ hold
  · obtain ⟨root, hroot, hadd⟩ := Option.bind_eq_some_iff.mp hadd
    obtain ⟨⟨root', body⟩, hopen, hnext⟩ := Option.bind_eq_some_iff.mp hadd
    cases hnext
    obtain ⟨hroot', hbody, hvacant⟩ := (h.close hroot).of_openTable hopen
    refine ⟨hroot', hbody, fun path key span hheading => ?_⟩
    cases hheading
    exact hvacant
  · obtain ⟨root, hroot, hadd⟩ := Option.bind_eq_some_iff.mp hadd
    obtain ⟨root', hopen, hnext⟩ := Option.bind_eq_some_iff.mp hadd
    cases hnext
    refine ⟨(h.close hroot).of_openArray hopen, .nil, fun path key span hheading => ?_⟩
    cases hheading

end Draft.Distinct

/-- The document that statements make up gives no name twice if no value in them does. -/
theorem Members.distinct_ofStatements {statements : List Statement} {members : Members}
    (h : ∀ s ∈ statements, s.Distinct) (hmembers : ofStatements statements = some members) :
    members.Distinct := by
  obtain ⟨last, hlast, hclose⟩ := Option.bind_eq_some_iff.mp hmembers
  have hfold : ∀ d : Draft, d.Distinct → ∀ next, statements.foldlM Draft.add d = some next →
      next.Distinct := by
    clear hmembers hlast
    induction statements with
    | nil =>
      intro d hd next hnext
      cases hnext
      exact hd
    | cons s statements ih =>
      intro d hd next hnext
      rw [List.foldlM_cons] at hnext
      obtain ⟨d', hadd, hnext⟩ := Option.bind_eq_some_iff.mp hnext
      exact ih (fun s hs => h s (List.mem_cons_of_mem _ hs)) d'
        (hd.add (h s List.mem_cons_self) hadd) next hnext
  exact (hfold {} ⟨.nil, .nil, by simp⟩ last hlast).close hclose

end ImageSwap.Toml
