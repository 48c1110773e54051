import AgentRelay.Toml.DateTime

/-!
# TOML documents

A document is a table of entries.  Tables come about in four ways, and the way
decides what may still be added to a table: one under a header is closed to
dotted keys, one that dotted keys made is closed to headers, one that a longer
header implied is open to its own header, and an inline table is complete.

Main definitions:

- {lit}`Toml`: the values of a document.
- {lit}`Toml.putDotted`: an entry under a dotted key.
- {lit}`Toml.alter`: a change at the end of a path of headers.
-/

namespace AgentRelay

/-- How a table came about. -/
inductive Toml.Origin where
  | header
  | implied
  | dotted
  | inline
deriving DecidableEq, Repr

/-- A value of a document.  Numbers are not told apart, and {lit}`tables` is a
list of tables under headers in double brackets. -/
inductive Toml where
  | string (s : String)
  | boolean (b : Bool)
  | number
  | dateTime (d : Toml.DateTime)
  | array (items : List Toml)
  | table (origin : Toml.Origin) (entries : List (String × Toml))
  | tables (items : List (List (String × Toml)))
deriving Repr, Inhabited

namespace Toml

/-- Named values, in the order they were added. -/
abbrev Entries :=
  List (String × Toml)

/-! ## Entries -/

/-- Entries with one of them set: in its place if it is there, at the end
otherwise. -/
def setEntry (key : String) (value : Toml) : Entries → Entries
  | [] => [(key, value)]
  | (other, old) :: rest =>
    if key = other then (key, value) :: rest else (other, old) :: setEntry key value rest

/-- The last of a list of tables, changed. -/
def alterLast (change : Entries → Option Entries) (items : List Entries) :
    Option (List Entries) :=
  match items.getLast? with
  | none => none
  | some last => (change last).map fun last => items.dropLast ++ [last]

/-! ## Dotted keys -/

/-- Entries with a value added under a dotted key.  The tables on the way are
made by dotted keys, or were implied by headers, or are the last ones of lists;
the last table on the way is made by dotted keys, and the name is new in it. -/
def putDotted (value : Toml) : (path : List String) → Entries → Option Entries
  | [], _ => none
  | [key], entries =>
    if (entries.lookup key).isSome then none else some (setEntry key value entries)
  | key :: rest, entries =>
    match entries.lookup key with
    | none =>
      (putDotted value rest []).map fun inner => setEntry key (.table .dotted inner) entries
    | some (.table origin inner) =>
      if origin = .dotted ∨ (origin = .implied ∧ 1 < rest.length) then
        (putDotted value rest inner).map fun inner => setEntry key (.table origin inner) entries
      else none
    | some (.tables items) =>
      if 1 < rest.length then
        (alterLast (putDotted value rest) items).map fun items =>
          setEntry key (.tables items) entries
      else none
    | some _ => none

/-! ## Headers -/

/-- Entries with a change at the end of a path of headers.  Tables that are
missing on the way are implied; the way goes through tables that are not inline
and through the last one of a list of tables. -/
def alter (change : Option Toml → Option Toml) :
    (path : List String) → Entries → Option Entries
  | [], _ => none
  | [key], entries => (change (entries.lookup key)).map fun value => setEntry key value entries
  | key :: rest, entries =>
    match entries.lookup key with
    | none =>
      (alter change rest []).map fun inner => setEntry key (.table .implied inner) entries
    | some (.table origin inner) =>
      if origin = .inline then none
      else (alter change rest inner).map fun inner => setEntry key (.table origin inner) entries
    | some (.tables items) =>
      (alterLast (alter change rest) items).map fun items => setEntry key (.tables items) entries
    | some _ => none

/-- A table gets its header: it is new, or was only implied. -/
def open? : Option Toml → Option Toml
  | none => some (.table .header [])
  | some (.table .implied entries) => some (.table .header entries)
  | some _ => none

/-- A list of tables gets one more. -/
def append? : Option Toml → Option Toml
  | none => some (.tables [[]])
  | some (.tables items) => some (.tables (items ++ [[]]))
  | some _ => none

/-- The entries under a header are changed. -/
def inside? (change : Entries → Option Entries) : Option Toml → Option Toml
  | some (.table origin entries) => (change entries).map (.table origin)
  | some (.tables items) => (alterLast change items).map .tables
  | _ => none

/-! ## Statements -/

/-- A line of a document: a header in single or double brackets, or an entry. -/
inductive Statement where
  | header (path : List String)
  | listHeader (path : List String)
  | entry (path : List String) (value : Toml)

/-- A document under way: all entries, and the path of the header that entries
go under. -/
structure Draft where
  entries : Entries
  path : List String

/-- A document with one more line. -/
def Draft.add (d : Draft) : Statement → Option Draft
  | .header path => (alter open? path d.entries).map fun entries => ⟨entries, path⟩
  | .listHeader path => (alter append? path d.entries).map fun entries => ⟨entries, path⟩
  | .entry path value =>
    (if d.path.isEmpty then putDotted value path d.entries
      else alter (inside? (putDotted value path)) d.path d.entries).map fun entries =>
        ⟨entries, d.path⟩

/-- The entries of a document with the given lines. -/
def ofStatements? (statements : List Statement) : Option Entries :=
  (statements.foldlM Draft.add ⟨[], []⟩).map Draft.entries

/-- An inline table with the given entries. -/
def inlineTable? (entries : List (List String × Toml)) : Option Toml :=
  (entries.foldlM (fun table (path, value) => putDotted value path table) []).map
    (.table .inline)

end Toml
end AgentRelay
