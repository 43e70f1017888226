import ReviewBot.Toml.Scalar
import ReviewBot.Toml.Tree

set_option autoImplicit false

/-!
# Reading TOML

A document is a sequence of headers and of keys with values, each on a line of its own. Values may
be nested in fewer than 80 levels.
-/

namespace ReviewBot

namespace Toml

mutual

/-- A value; `n` bounds the number of steps and `depth` the levels of nesting. -/
def value? : Nat → Nat → List Char → Option (Document × List Char)
  | 0, _, _ => none
  | n + 1, depth, s =>
    match s with
    | '"' :: _ => (string? s).map fun (t, rest) => (.text (some t), rest)
    | '\'' :: _ => (string? s).map fun (t, rest) => (.text (some t), rest)
    | '[' :: rest =>
      match depth with
      | 0 => none
      | depth + 1 => (elements? n depth rest).map fun (items, rest) => (.list items, rest)
    | '\x7b' :: rest =>
      match depth with
      | 0 => none
      | depth + 1 =>
        (match skipSpaces rest with
          | '\x7d' :: rest => some ([], rest)
          | rest => members? n depth [] rest).map fun (entries, rest) =>
            (.table (Entries.documents entries), rest)
    | s => scalarValue? s

/-- The elements of a list up to its closing bracket; a comma may stand behind the last one. -/
def elements? : Nat → Nat → List Char → Option (List Document × List Char)
  | 0, _, _ => none
  | n + 1, depth, s =>
    match skipLines s with
    | ']' :: rest => some ([], rest)
    | s => do
      let (d, rest) ← value? n depth s
      match skipLines rest with
      | ',' :: rest =>
        let (items, rest) ← elements? n depth rest
        some (d :: items, rest)
      | ']' :: rest => some ([d], rest)
      | _ => none

/-- The entries of a table within braces up to its closing brace, all on one line. -/
def members? : Nat → Nat → Entries → List Char → Option (Entries × List Char)
  | 0, _, _, _ => none
  | n + 1, depth, entries, s => do
    let (path, rest) ← key? s
    let rest ← skip? '=' rest
    let (d, rest) ← value? n depth (skipSpaces rest)
    let keys := path.1 :: path.2
    let entries ← entries.addValue? keys.dropLast (keys.getLastD "") d .header
    match skipSpaces rest with
    | ',' :: rest => members? n depth entries rest
    | '\x7d' :: rest => some (entries, rest)
    | _ => none

end

/-- What has been read of a document: the header in force and the entries. -/
structure Reading where
  /-- The path of the header. -/
  header : List String
  /-- All entries so far. -/
  entries : Entries

/-- The text `[` or `[[` up to the end of its line. -/
def headerLine? (r : Reading) (s : List Char) : Option (Reading × List Char) :=
  match s with
  | '[' :: '[' :: rest => do
    let (path, rest) ← key? rest
    let rest ← skip? ']' rest
    let rest ← skip? ']' rest
    let rest ← closeLine? rest
    let keys := path.1 :: path.2
    let entries ← r.entries.openOneMore? keys.dropLast (keys.getLastD "")
    some (⟨keys, entries⟩, rest)
  | '[' :: rest => do
    let (path, rest) ← key? rest
    let rest ← skip? ']' rest
    let rest ← closeLine? rest
    let keys := path.1 :: path.2
    let entries ← r.entries.openTable? keys.dropLast (keys.getLastD "")
    some (⟨keys, entries⟩, rest)
  | _ => none

/-- A key with its value up to the end of the line. -/
def valueLine? (r : Reading) (s : List Char) : Option (Reading × List Char) := do
  let (path, rest) ← key? s
  let rest ← skip? '=' rest
  let rest := skipSpaces rest
  -- Every two steps take at least one character, so the number of steps never cuts a value off.
  let (d, rest) ← value? (2 * rest.length + 2) 79 rest
  let rest ← closeLine? rest
  let keys := path.1 :: path.2
  let entries ← r.entries.addBelow? r.header keys.dropLast (keys.getLastD "") d
  some ({ r with entries := entries }, rest)

/-- Reads the lines of a document, at most `n` of them. -/
def lines? : Nat → Reading → List Char → Option Reading
  | 0, _, _ => none
  | n + 1, r, s =>
    match skipSpaces s with
    | [] => some r
    | '#' :: rest => (closeLine? ('#' :: rest)).bind (lines? n r)
    | '\n' :: rest => lines? n r rest
    | '\r' :: '\n' :: rest => lines? n r rest
    | '[' :: rest => (headerLine? r ('[' :: rest)).bind fun (r, rest) => lines? n r rest
    | s => (valueLine? r s).bind fun (r, rest) => lines? n r rest

/-- The text without a byte order mark. -/
def dropMark : List Char → List Char
  | c :: rest => if c.toNat = 0xFEFF then rest else c :: rest
  | [] => []

end Toml

/-- The tree written as a TOML text. -/
def Document.ofTomlText? (text : String) : Option Document :=
  let s := Toml.dropMark text.toList
  (Toml.lines? (s.length + 1) ⟨[], []⟩ s).map fun r => .table (Toml.Entries.documents r.entries)

end ReviewBot
