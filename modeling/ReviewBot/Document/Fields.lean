import ReviewBot.Document.Basic

set_option autoImplicit false

/-!
# Reading records

A record is written either as a table with one entry for each field or as a list with the fields in
order. In a table unknown keys are passed over and a field must not be given twice. `slots?` finds
what is written for each field, and the readers of slots say which fields may be missing.
-/

namespace ReviewBot

/-- What is written for one field of a record. -/
inductive Slot where
  /-- The field is given. -/
  | given (d : Document)
  /-- The table has no entry for the field. -/
  | absent
  /-- The list ends before the field. -/
  | beyond

/-- What is done with a list that has more elements than the record has fields. -/
inductive Surplus where
  | refused
  | ignored
  deriving DecidableEq

namespace Document

/-- The entries of a table that has an entry for `name`. -/
def entriesFor (name : String) (entries : List (WrittenText × Document)) : List Document :=
  (entries.filter (·.1 == some name)).map (·.2)

/-- The slot of a field in a table, unless the field is given twice. -/
def slotIn? (entries : List (WrittenText × Document)) (name : String) : Option Slot :=
  match entriesFor name entries with
  | [] => some .absent
  | [d] => some (.given d)
  | _ => none

/-- The slots of the fields that remain when a list is read from the beginning. -/
def slotsOfList : List Document → List String → List Slot
  | _, [] => []
  | [], _ :: names => .beyond :: slotsOfList [] names
  | d :: items, _ :: names => .given d :: slotsOfList items names

/-- The slots of the fields of a record. -/
def slots? (surplus : Surplus) (names : List String) : Document → Option (List Slot)
  | table entries =>
    if entries.any (·.1.isNone) then none else names.mapM (slotIn? entries)
  | list items =>
    if surplus = .refused && names.length < items.length then none
    else some (slotsOfList items names)
  | _ => none

/-- A text. -/
def string? : Document → Option String
  | text t => t
  | _ => none

/-- A truth value. -/
def bool? : Document → Option Bool
  | bool b => some b
  | _ => none

/-- A natural number up to a limit. -/
def nat? (limit : Nat) : Document → Option Nat
  | number n => n.nat? limit
  | _ => none

/-- An integer of 64 bits with a sign. -/
def int64? : Document → Option Int
  | number n =>
    n.int?.bind fun i => if leastSigned ≤ i && i ≤ greatestSigned then some i else none
  | _ => none

/-- A double. -/
def binary64? : Document → Option Binary64
  | number n => n.binary64?
  | _ => none

/-- A list of which every element can be read. -/
def list? {α : Type} (read? : Document → Option α) : Document → Option (List α)
  | list items => items.mapM read?
  | _ => none

/-- One of several named things, given by its name, or by a table with nothing under its name. -/
def named? {α : Type} (label : α → String) (all : List α) : Document → Option α
  | text (some t) => all.find? (label · == t)
  | table [(some t, null)] => all.find? (label · == t)
  | _ => none

end Document

namespace Slot

/-- A field that must be given. -/
def required? {α : Type} (read? : Document → Option α) : Slot → Option α
  | given d => read? d
  | absent => none
  | beyond => none

/-- A field that may be null or have no entry in a table. -/
def optional? {α : Type} (read? : Document → Option α) : Slot → Option (Option α)
  | given .null => some none
  | given d => (read? d).map some
  | absent => some none
  | beyond => none

/-- A field with a value of its own in case it is missing. -/
def orElse? {α : Type} (missing : α) (read? : Document → Option α) : Slot → Option α
  | given d => read? d
  | absent => some missing
  | beyond => some missing

/-- A field that may be null or missing. -/
def optionalOrElse? {α : Type} (read? : Document → Option α) : Slot → Option (Option α)
  | given .null => some none
  | given d => (read? d).map some
  | absent => some none
  | beyond => some none

end Slot

end ReviewBot
