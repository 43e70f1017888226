import ReviewBot.Text.Utf8

set_option autoImplicit false

/-!
# Data in tag, length and value

Each item is written as a tag, a length and that many bytes. `Der.items?` reads the items that tell
what kind of key a file holds: sequences, object identifiers and strings of bits or bytes. Of the
others only the form is checked.
-/

namespace ReviewBot

/-- An item. -/
inductive Der where
  | sequence (items : List Der)
  /-- A string of bits or of bytes. -/
  | string (content : Bytes)
  /-- An object identifier, by the numbers on the way to it. -/
  | identifier (path : List Nat)
  | other
  deriving Inhabited

namespace Der

/-- The number in digits of base 128, of which all but the last are marked, added to `n`, and the
bytes after it. -/
def markedNumber? (n : Nat) : Bytes → Option (Nat × Bytes)
  | [] => none
  | b :: rest =>
    let n := n * 128 + b.toNat % 128
    if b < 0x80 then some (n, rest) else markedNumber? n rest

/-- The numbers in bytes, at most `k` of them. -/
def markedNumbers? : Nat → Bytes → Option (List Nat)
  | _, [] => some []
  | 0, _ => none
  | k + 1, bytes => do
    let (n, rest) ← markedNumber? 0 bytes
    some (n :: (← markedNumbers? k rest))

/-- The numbers of an object identifier; the first byte holds the first two. -/
def path? : Bytes → Option (List Nat)
  | [] => none
  | b :: rest => do
    -- Below the roots 0 and 1 the second number is less than 40; all else lies below the root 2.
    let first := min (b.toNat / 40) 2
    some (first :: (b.toNat - 40 * first) :: (← markedNumbers? rest.length rest))

/-- The number in bytes, the highest first. -/
def number (bytes : Bytes) : Nat := bytes.foldl (fun n b => 256 * n + b.toNat) 0

/-- The length at the beginning, and the bytes after it. A length that does not fit into seven bits
is written in up to eight bytes, with their number in front. -/
def length? : Bytes → Option (Nat × Bytes)
  | [] => none
  | b :: rest =>
    if b < 0x80 then some (b.toNat, rest)
    else
      let k := b.toNat - 0x80
      if 8 < k || rest.length < k then none else some (number (rest.take k), rest.drop k)

/-- The tag at the beginning. -/
structure Tag where
  /-- The tag has the meaning that it has everywhere. -/
  universal : Bool
  /-- The item is made of others. -/
  constructed : Bool
  /-- Number of the tag. -/
  number : Nat

/-- The tag at the beginning, and the bytes after it. -/
def tag? : Bytes → Option (Tag × Bytes)
  | [] => none
  | b :: rest =>
    let tag (n : Nat) : Tag := ⟨b < 0x40, b.toNat / 0x20 % 2 = 1, n⟩
    if b.toNat % 0x20 = 0x1F then (markedNumber? 0 rest).map fun (n, rest) => (tag n, rest)
    else some (tag (b.toNat % 0x20), rest)

/-- The characters of a printable string. -/
def isPrintable (b : UInt8) : Bool :=
  let c := Char.ofNat b.toNat
  c.isAlphanum || " '()+,-./:=?".toList.contains c

/-- An item that holds no others. -/
def primitive? (tag : Nat) (content : Bytes) : Option Der :=
  let checked (valid : Bool) : Option Der := if valid then some other else none
  match tag with
  | 0x01 => checked (content.length = 1)
  | 0x03 => some (string (content.drop 1))
  | 0x04 => some (string content)
  | 0x06 => (path? content).map identifier
  | 0x0C => checked (Text.ofUtf8? content).isSome
  | 0x13 => checked (content.all isPrintable)
  | 0x14 => checked (Text.ofUtf8? content).isSome
  | 0x16 => checked (content.all (· < 0x80))
  | 0x1C => checked (Text.ofUtf8? content).isSome
  | 0x1E => checked (Text.ofUtf8? content).isSome
  | _ => some other

/-- The items in bytes, of which every item has at least two; `n` is more than their number. -/
def itemsUpTo? : Nat → Bytes → Option (List Der)
  | _, [] => some []
  | 0, _ => none
  | n + 1, bytes => do
    let (tag, rest) ← tag? bytes
    let (length, rest) ← length? rest
    if rest.length < length then none
    else do
      let content := rest.take length
      let item ←
        if !tag.universal then some other
        else if tag.number = 0x10 || tag.number = 0x11 then
          if content.isEmpty then none
          else
            (itemsUpTo? n content).map fun items =>
              if tag.number = 0x10 then sequence items else other
        else primitive? tag.number content
      let items ← itemsUpTo? n (rest.drop length)
      some (item :: items)

/-- The items in bytes. -/
def items? (bytes : Bytes) : Option (List Der) := itemsUpTo? (bytes.length + 1) bytes

mutual

/-- The first answer that `f` gives on an item or on what it holds. -/
def findSome? {α : Type} (f : Der → Option α) : Der → Option α
  | sequence items => findSomeIn? f items
  | item => f item

/-- The first answer that `f` gives on items or on what they hold. -/
def findSomeIn? {α : Type} (f : Der → Option α) : List Der → Option α
  | [] => none
  | item :: rest => (findSome? f item).or (findSomeIn? f rest)

end

end Der

end ReviewBot
