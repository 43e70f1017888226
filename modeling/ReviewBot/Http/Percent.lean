import ReviewBot.Numeric.Hex

set_option autoImplicit false

/-!
# Percent encoding

Characters that may not stand in a part of a URL are written by the bytes of their UTF-8, each as a
percent sign and two hexadecimal digits. Which ones these are differs between the parts.
-/

namespace ReviewBot.Percent

/-- A byte as it is written. -/
def ofByte (b : UInt8) : List Char :=
  '%' :: (Bytes.hexOf b).map Char.toUpper

/-- Controls and characters outside ASCII may not stand in any part. -/
def isControl (c : Char) : Bool := c.toNat < 0x20 || 0x7E < c.toNat

/-- The character is a control, not ASCII or among `others`. -/
def needed (others : String) (c : Char) : Bool := isControl c || others.toList.contains c

/-- The text with the characters written that are not ASCII, controls or among `others`. -/
def encode (others : String) (s : List Char) : List Char :=
  s.flatMap fun c =>
    if needed others c then (Text.utf8 (String.singleton c)).flatMap ofByte else [c]

/-- The bytes of a text, with each written byte in place of its three characters. -/
def decode : List Char → Bytes
  | [] => []
  | '%' :: a :: b :: rest =>
    match Bytes.ofHex? [a, b] with
    | some bytes => bytes ++ decode rest
    | none => 0x25 :: decode (a :: b :: rest)
  | c :: rest => Text.utf8 (String.singleton c) ++ decode rest

end ReviewBot.Percent
