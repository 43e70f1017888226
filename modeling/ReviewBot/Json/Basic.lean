import ReviewBot.Numeric.Shortest
import ReviewBot.Document.Basic

set_option autoImplicit false

/-!
# JSON values

A JSON value as it is handed out or passed on. Integers and doubles are told apart, and the members
of an object are kept in the order in which they are given.
-/

namespace ReviewBot

/-- A JSON value. -/
inductive Json where
  | null
  | bool (b : Bool)
  | int (i : Int)
  | double (x : Binary64)
  | text (s : String)
  | list (items : List Json)
  | object (members : List (String × Json))
  deriving Inhabited

namespace Json

/-- The member of an object under a key. -/
def get? (key : String) : Json → Option Json
  | object members => members.lookup key
  | _ => none

/-- The text held. -/
def text? : Json → Option String
  | text s => some s
  | _ => none

/-- The truth value held. -/
def bool? : Json → Option Bool
  | bool b => some b
  | _ => none

/-- The natural number held. -/
def nat? : Json → Option Nat
  | int i => if 0 ≤ i then some i.toNat else none
  | _ => none

/-- The elements held. -/
def items? : Json → Option (List Json)
  | list items => some items
  | _ => none

/-- The members held. -/
def members? : Json → Option (List (String × Json))
  | object members => some members
  | _ => none

/-- An optional value, absent as `null`. -/
def ofOption {α : Type} (encode : α → Json) : Option α → Json
  | some a => encode a
  | none => null

/-- A natural number. -/
def nat (n : Nat) : Json := int n

/-- A list of encoded values. -/
def array {α : Type} (encode : α → Json) (xs : List α) : Json := list (xs.map encode)

mutual

/-- The value as a document. -/
def toDocument : Json → Document
  | null => .null
  | bool b => .bool b
  | int i => .number (.ofInt i)
  | double _ => .fractional
  | text s => .text (some s)
  | list items => .list (itemDocuments items)
  | object members => .table (memberDocuments members)

/-- The elements of a list as documents. -/
def itemDocuments : List Json → List Document
  | [] => []
  | v :: rest => v.toDocument :: itemDocuments rest

/-- The members of an object as entries of a table. -/
def memberDocuments : List (String × Json) → List (WrittenText × Document)
  | [] => []
  | (key, v) :: rest => (some key, v.toDocument) :: memberDocuments rest

end

end Json

end ReviewBot
