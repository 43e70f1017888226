import ReviewBot.Document.Basic

set_option autoImplicit false

/-!
# The tree that a TOML document builds

A table is opened by a header, by a dotted key, or by being on the way to another one. A header may
open a table that was only on the way; a dotted key may add to tables that dotted keys have made; a
value is never replaced.
-/

namespace ReviewBot.Toml

/-- How a table has come about. -/
inductive Origin where
  /-- A header has opened it. -/
  | header
  /-- It was on the way to another table. -/
  | passage
  /-- A dotted key has made it. -/
  | dotted
  deriving DecidableEq

/-- What stands under a key. -/
inductive Item where
  | value (d : Document)
  | table (origin : Origin) (entries : List (String × Item))
  /-- The tables of one name that headers in double brackets have opened, latest first. -/
  | tables (latest : List (List (String × Item)))

/-- The entries of a table. -/
abbrev Entries := List (String × Item)

namespace Entries

/-- Puts an item under a key, in place of an old one. -/
def put (key : String) (item : Item) : Entries → Entries
  | [] => [(key, item)]
  | (k, old) :: rest => if k = key then (k, item) :: rest else (k, old) :: put key item rest

/-- Changes the table that a path leads to. Tables that are missing on the way are made. A dotted
key must not go through tables that are there for another reason. Of several tables of one name the
latest is meant. -/
def change? (dotted : Bool) (change : Origin → Entries → Option Entries) (origin : Origin) :
    List String → Entries → Option Entries
  | [], entries => change origin entries
  | key :: path, entries =>
    match entries.lookup key with
    | none => do
      let new := if dotted then Origin.dotted else .passage
      let inner ← change? dotted change new path []
      some (entries.put key (.table new inner))
    | some (.value _) => none
    | some (.table old inner) =>
      if dotted && old = .header then none
      else do
        let inner ← change? dotted change old path inner
        some (entries.put key (.table old inner))
    | some (.tables []) => none
    | some (.tables (inner :: older)) => do
      let inner ← change? dotted change .header path inner
      some (entries.put key (.tables (inner :: older)))

/-- Adds a value; the key must be new. A value whose key has several parts goes into a table that
dotted keys have made. -/
def addValue? (path : List String) (key : String) (d : Document) (origin : Origin)
    (entries : Entries) : Option Entries :=
  change? true
    (fun origin inner =>
      -- Without a path the table is the one of the header itself, whatever has made it.
      if !path.isEmpty && origin != .dotted then none
      else if (inner.lookup key).isSome then none
      else some (inner.put key (.value d)))
    origin path entries

/-- Opens a table by a header. -/
def openTable? (path : List String) (key : String) (entries : Entries) : Option Entries :=
  change? false
    (fun _ inner =>
      match inner.lookup key with
      | none => some (inner.put key (.table .header []))
      | some (.table .passage old) => some (inner.put key (.table .header old))
      | some _ => none)
    .header path entries

/-- Opens one more table of a name by a header in double brackets. -/
def openOneMore? (path : List String) (key : String) (entries : Entries) : Option Entries :=
  change? false
    (fun _ inner =>
      match inner.lookup key with
      | none => some (inner.put key (.tables [[]]))
      | some (.tables latest) => some (inner.put key (.tables ([] :: latest)))
      | some _ => none)
    .header path entries

/-- Adds a value to the table that a header has opened. -/
def addBelow? (header path : List String) (key : String) (d : Document) (entries : Entries) :
    Option Entries :=
  change? false (addValue? path key d) .header header entries

end Entries

mutual

/-- The item as a document. -/
def Item.document : Item → Document
  | .value d => d
  | .table _ entries => .table (Entries.documents entries)
  | .tables latest => .list (Entries.tableDocuments latest).reverse

/-- The entries of a table as documents. -/
def Entries.documents : List (String × Item) → List (WrittenText × Document)
  | [] => []
  | (key, item) :: rest => (some key, item.document) :: Entries.documents rest

/-- Several tables as documents. -/
def Entries.tableDocuments : List (List (String × Item)) → List Document
  | [] => []
  | entries :: rest => .table (Entries.documents entries) :: Entries.tableDocuments rest

end

end ReviewBot.Toml
