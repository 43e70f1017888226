import ReviewBot.Json.Token
import ReviewBot.Json.Basic
import ReviewBot.Text.Utf8

set_option autoImplicit false

/-!
# Reading JSON

A text is read token by token with a stack of the lists and objects that are still open
(`Reading.step?`). `Document.ofJsonText?` gives the tree as written. `Json.ofDocument?` turns it
into a value: nesting is limited to 127 levels, numbers must be doubles or integers of 64 bits, and
of repeated keys the last one counts; the members of the value are sorted by key.
-/

namespace ReviewBot

namespace Json

/-- A list or object that is still open, with what has been read of it, latest first. -/
inductive Frame where
  | list (items : List Document)
  | object (entries : List (WrittenText × Document)) (key : WrittenText)

/-- What may come next. -/
inductive Expectation where
  | value
  /-- A value, or the end of the list just opened. -/
  | valueOrEnd
  | key
  /-- A key, or the end of the object just opened. -/
  | keyOrEnd
  | colon
  /-- A comma, or the end of the innermost list or object. -/
  | separator
  /-- Nothing: the outermost value is complete. -/
  | nothing (result : Document)

/-- A position inside a JSON text. -/
structure Reading where
  /-- The open lists and objects, innermost first. -/
  stack : List Frame
  /-- What may come next. -/
  expected : Expectation

/-- A complete value goes into the innermost open list or object. -/
def Reading.deliver (d : Document) : List Frame → Reading
  | [] => ⟨[], .nothing d⟩
  | .list items :: outer => ⟨.list (d :: items) :: outer, .separator⟩
  | .object entries key :: outer => ⟨.object ((key, d) :: entries) none :: outer, .separator⟩

/-- Reads one token. -/
def Reading.step? (r : Reading) (t : Token) : Option Reading :=
  match r.expected, t, r.stack with
  | .value, .scalar d, stack | .valueOrEnd, .scalar d, stack => some (deliver d stack)
  | .value, .openList, stack | .valueOrEnd, .openList, stack =>
    some ⟨.list [] :: stack, .valueOrEnd⟩
  | .value, .openObject, stack | .valueOrEnd, .openObject, stack =>
    some ⟨.object [] none :: stack, .keyOrEnd⟩
  | .valueOrEnd, .closeList, .list _ :: outer => some (deliver (.list []) outer)
  | .key, .scalar (.text t), .object entries _ :: outer
  | .keyOrEnd, .scalar (.text t), .object entries _ :: outer =>
    some ⟨.object entries t :: outer, .colon⟩
  | .keyOrEnd, .closeObject, .object _ _ :: outer => some (deliver (.table []) outer)
  | .colon, .colon, stack => some ⟨stack, .value⟩
  | .separator, .comma, .list items :: outer => some ⟨.list items :: outer, .value⟩
  | .separator, .comma, .object entries k :: outer => some ⟨.object entries k :: outer, .key⟩
  | .separator, .closeList, .list items :: outer => some (deliver (.list items.reverse) outer)
  | .separator, .closeObject, .object entries _ :: outer =>
    some (deliver (.table entries.reverse) outer)
  | _, _, _ => none

/-- Where the next character of a JSON text stands. -/
inductive Place where
  | outside
  /-- In a string. -/
  | inside
  /-- In a string, after a backslash. -/
  | escaped

/-- Where the next character stands after one. -/
def Place.after (c : Char) : Place → Place
  | outside => if c = '"' then inside else outside
  | inside => if c = '"' then outside else if c = '\\' then escaped else inside
  | escaped => inside

/-- What no text can represent: two second halves of characters. The first one may belong to an
escape in front of it, the other one may not. -/
def broken : List Char := "\\udc00\\udc00".toList

/-- The text in which strings have `broken` in place of what is no character. It may stand in no
other place. -/
def escapeBroken? : Place → List (Option Char) → Option (List Char)
  | _, [] => some []
  | place, some c :: rest => (escapeBroken? (place.after c) rest).map (c :: ·)
  | .inside, none :: rest => (escapeBroken? .inside rest).map (broken ++ ·)
  | .outside, none :: _ => none
  | .escaped, none :: _ => none

end Json

/-- The tree written as a JSON text. -/
def Document.ofJsonChars? (s : List Char) : Option Document := do
  let tokens ← Json.tokens? s
  let final ← tokens.foldlM Json.Reading.step? ⟨[], .value⟩
  match final.expected with
  | .nothing d => some d
  | _ => none

/-- The tree written as a JSON text. -/
def Document.ofJsonText? (s : String) : Option Document := ofJsonChars? s.toList

/-- The tree written as JSON in bytes. A string may hold bytes that are no characters, as long as
nobody wants to read it. -/
def Document.ofJsonBytes? (bytes : Bytes) : Option Document :=
  (Json.escapeBroken? .outside (Text.charsOf bytes)).bind ofJsonChars?

namespace Json

/-- Puts a member into a list of members sorted by key, in place of one with the same key. -/
def insertMember (key : String) (v : Json) : List (String × Json) → List (String × Json)
  | [] => [(key, v)]
  | (k, w) :: rest =>
    if key = k then (key, v) :: rest
    else if key < k then (key, v) :: (k, w) :: rest
    else (k, w) :: insertMember key v rest

/-- The value of a number: an integer of 64 bits, or else a double. -/
def ofNumeral? (n : Numeral) : Option Json :=
  match n.int? with
  | some i => if leastSigned ≤ i && i ≤ maxLong then some (int i) else n.binary64?.map double
  | none => n.binary64?.map double

mutual

/-- The value of a tree that is nested in fewer than `depth` levels. -/
def ofDocumentWithin? : Nat → Document → Option Json
  | _, .null => some null
  | _, .bool b => some (bool b)
  | _, .number n => ofNumeral? n
  | _, .text t => t.map text
  | _, .moment => none
  | _, .fractional => none
  | 0, .list _ => none
  | 0, .table _ => none
  | depth + 1, .list items => (itemsWithin? depth items).map list
  | depth + 1, .table entries => (membersWithin? depth entries).map object

/-- The values of the elements of a list. -/
def itemsWithin? : Nat → List Document → Option (List Json)
  | _, [] => some []
  | depth, d :: rest => do
    let v ← ofDocumentWithin? depth d
    let vs ← itemsWithin? depth rest
    some (v :: vs)

/-- The members of an object, sorted by key. Members later in the text win, and they are put in
first, so an earlier one is dropped when its key is already there. -/
def membersWithin? : Nat → List (WrittenText × Document) → Option (List (String × Json))
  | _, [] => some []
  | depth, (key, d) :: rest => do
    let k ← key
    let v ← ofDocumentWithin? depth d
    let members ← membersWithin? depth rest
    some (if (members.lookup k).isSome then members else insertMember k v members)

end

/-- The value of a tree; lists and objects may be nested in 127 levels. -/
def ofDocument? (d : Document) : Option Json := ofDocumentWithin? 127 d

/-- The value written as a text. -/
def ofText? (s : String) : Option Json := (Document.ofJsonText? s).bind ofDocument?

/-- The value written as UTF-8. -/
def ofBytes? (bytes : Bytes) : Option Json := (Text.ofUtf8? bytes).bind ofText?

end Json

end ReviewBot
