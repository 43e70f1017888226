set_option autoImplicit false

/-!
# Texts as bytes

A text is stored and sent as UTF-8. `ofUtf8?` reads bytes that are a text throughout. `charsOf`
reads any bytes: each longest beginning of a character that is not carried on, and each byte that
begins no character, is no character, and `ofUtf8Lossy` puts the replacement character in its place.
-/

namespace ReviewBot

/-- A sequence of bytes. -/
abbrev Bytes := List UInt8

namespace Text

/-- The bytes of a text. -/
def utf8 (s : String) : Bytes := s.toUTF8.data.toList

/-- The text whose bytes are given. -/
def ofUtf8? (bytes : Bytes) : Option String := String.fromUTF8? ⟨bytes.toArray⟩

/-- A character of which the first bytes have been read. -/
structure Unfinished where
  /-- The bits read so far. -/
  value : Nat
  /-- How many bytes are still missing. -/
  missing : Nat
  /-- The least byte that may come next. -/
  least : Nat
  /-- The greatest byte that may come next. -/
  greatest : Nat

/-- The characters that a first byte completes, and the character that it begins. A byte that begins
no character stands for none. -/
def beginChar (b : Nat) : List (Option Char) × Option Unfinished :=
  if b < 0x80 then ([some (Char.ofNat b)], none)
  else if b < 0xC2 then ([none], none)
  else if b < 0xE0 then ([], some ⟨b - 0xC0, 1, 0x80, 0xBF⟩)
  else if b < 0xF0 then
    -- The second byte may not make the form too long, nor the character a surrogate.
    ([], some ⟨b - 0xE0, 2, if b = 0xE0 then 0xA0 else 0x80, if b = 0xED then 0x9F else 0xBF⟩)
  else if b < 0xF5 then
    -- Nor may the character lie beyond the last code point.
    ([], some ⟨b - 0xF0, 3, if b = 0xF0 then 0x90 else 0x80, if b = 0xF4 then 0x8F else 0xBF⟩)
  else ([none], none)

/-- The characters that one more byte completes, and the character that is unfinished after it. -/
def continueChar (pending : Option Unfinished) (b : Nat) :
    List (Option Char) × Option Unfinished :=
  match pending with
  | none => beginChar b
  | some u =>
    if u.least ≤ b && b ≤ u.greatest then
      let value := u.value * 0x40 + (b - 0x80)
      if u.missing = 1 then ([some (Char.ofNat value)], none)
      else ([], some ⟨value, u.missing - 1, 0x80, 0xBF⟩)
    else
      -- The byte does not carry the character on, but it may begin the next one.
      let (cs, next) := beginChar b
      (none :: cs, next)

/-- The characters in bytes that follow the bytes of an unfinished character. -/
def charsFrom (pending : Option Unfinished) : Bytes → List (Option Char)
  | [] => if pending.isSome then [none] else []
  | b :: rest =>
    let (cs, next) := continueChar pending b.toNat
    cs ++ charsFrom next rest

/-- The characters in bytes; what is no character stands for none. -/
def charsOf (bytes : Bytes) : List (Option Char) := charsFrom none bytes

/-- What stands in place of bytes that are no character. -/
def replacement : Char := Char.ofNat 0xFFFD

/-- The text in bytes, with the replacement character in place of what is no character. -/
def ofUtf8Lossy (bytes : Bytes) : String :=
  String.ofList ((charsOf bytes).map (·.getD replacement))

end Text

end ReviewBot
