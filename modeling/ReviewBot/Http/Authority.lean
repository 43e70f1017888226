import ReviewBot.Http.Percent
import ReviewBot.Numeric.Unsigned
import ReviewBot.Text.Lines
import ReviewBot.Text.Search

set_option autoImplicit false

/-!
# Hosts and ports in URLs

A host is a name, in small letters, an address of four numbers, or an address in brackets. Four
numbers may be written in several ways and are put into the usual one. The port that is usual for
the scheme is left out.
-/

namespace ReviewBot.Authority

/-- The value of one part of an address, in the base that its beginning tells. -/
def part? : List Char → Option Nat
  | [] => none
  | ['0'] => some 0
  | '0' :: 'x' :: digits | '0' :: 'X' :: digits =>
    digits.foldlM (fun n c => (Numeric.hexDigit? c).map (16 * n + ·)) 0
  | '0' :: digits =>
    digits.foldlM (fun n c => if '0' ≤ c && c ≤ '7' then some (8 * n + (c.toNat - 48)) else none) 0
  | digits => if digits.all (·.isDigit) then some (Numeric.ofDigits digits) else none

/-- The host is written as numbers: its last part is one. -/
def isNumeric (parts : List (List Char)) : Bool :=
  match parts.getLast? with
  | some last => last.all (·.isDigit) && !last.isEmpty || (part? last).isSome
  | none => false

/-- The four numbers of an address, of which the last part may hold several. -/
def octets? (parts : List Nat) : Option (List Nat) :=
  match parts.reverse with
  | [] => none
  | last :: firsts =>
    -- The last part holds the numbers that are not given on their own.
    let room := 4 - firsts.length
    if 4 ≤ firsts.length || firsts.any (255 < ·) || Nat.pow 256 room ≤ last then none
    else
      some (firsts.reverse ++
        (List.range room).map fun i => last / Nat.pow 256 (room - 1 - i) % 256)

/-- An address of four numbers. -/
def address? (parts : List (List Char)) : Option String := do
  let numbers ← parts.mapM part?
  some (".".intercalate ((← octets? numbers).map toString))

/-- Characters that may not stand in a name. -/
def isForbidden (c : Char) : Bool :=
  Percent.needed " #/:<>?@[\\]^|%" c

/-- The parts of a name; a point at the end does not count. -/
def parts (name : List Char) : List (List Char) :=
  match (Text.pieces '.' name).reverse with
  | [] :: rest => rest.reverse
  | all => all.reverse

/-- A name or an address that is not in brackets. -/
def name? (written : List Char) : Option String := do
  let text ← Text.ofUtf8? (Percent.decode written)
  let name := text.toList.map Char.toLower
  if name.isEmpty || name.any isForbidden then none
  else if isNumeric (parts name) then address? (parts name)
  else some (String.ofList name)

/-- An address in brackets. -/
def bracketed? (inner : List Char) : Option String :=
  let valid (c : Char) : Bool := (Numeric.hexDigit? c).isSome || c = ':' || c = '.'
  if 2 ≤ inner.count ':' && inner.all valid then
    some ("[" ++ String.ofList (inner.map Char.toLower) ++ "]")
  else none

/-- The host and the text of the port. -/
def split? (s : List Char) : Option (String × List Char) :=
  match s with
  | '[' :: rest => do
    let (inner, after) ← Text.splitChar? ']' rest
    let host ← bracketed? inner
    match after with
    | [] => some (host, [])
    | ':' :: port => some (host, port)
    | _ => none
  | s => do
    let (name, port) := (Text.splitChar? ':' s).getD (s, [])
    some (← name? name, port)

/-- The authority with its host and port in the usual form; whatever stands before an at sign, a
name and a password, is left out. -/
def read? (usualPort : Nat) (s : List Char) : Option String := do
  let (host, port) ← split? (((Text.splitLastChar? '@' s).map (·.2)).getD s)
  if port.isEmpty then some host
  else do
    let n ← Numeric.digits? 65535 port
    some (if n = usualPort then host else host ++ ":" ++ toString n)

end ReviewBot.Authority
