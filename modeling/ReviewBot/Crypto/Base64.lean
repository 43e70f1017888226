import ReviewBot.Text.Utf8

set_option autoImplicit false

/-!
# Base 64

Three bytes are written as four characters. The alphabet for URLs is used without padding, the usual
one with padding up to a multiple of four characters. Reading is strict: the padding must be there,
and the bits that the last character has too many must be zero.
-/

namespace ReviewBot.Base64

/-- The character for six bits; the last two differ between the alphabets. -/
def symbol (last : Char × Char) (n : Nat) : Char :=
  if n < 26 then Char.ofNat ('A'.toNat + n)
  else if n < 52 then Char.ofNat ('a'.toNat + (n - 26))
  else if n < 62 then Char.ofNat ('0'.toNat + (n - 52))
  else if n = 62 then last.1
  else last.2

/-- The characters for bytes in the alphabet for URLs, without padding. -/
def urlText : Bytes → List Char
  | [] => []
  | [a] =>
    let n := a.toNat * 16
    [n / 64, n % 64].map (symbol ('-', '_'))
  | [a, b] =>
    let n := (a.toNat * 256 + b.toNat) * 4
    [n / 4096, n / 64 % 64, n % 64].map (symbol ('-', '_'))
  | a :: b :: c :: rest =>
    let n := (a.toNat * 256 + b.toNat) * 256 + c.toNat
    [n / 262144, n / 4096 % 64, n / 64 % 64, n % 64].map (symbol ('-', '_')) ++ urlText rest

/-- The six bits of a character of the usual alphabet. -/
def value? (c : Char) : Option Nat :=
  if c.isUpper then some (c.toNat - 'A'.toNat)
  else if c.isLower then some (c.toNat - 'a'.toNat + 26)
  else if c.isDigit then some (c.toNat - '0'.toNat + 52)
  else if c = '+' then some 62
  else if c = '/' then some 63
  else none

/-- The bytes written in the usual alphabet with padding. -/
def bytes? : List Char → Option Bytes
  | [] => some []
  | [a, b, '=', '='] => do
    let n := (← value? a) * 64 + (← value? b)
    if n % 16 = 0 then some [UInt8.ofNat (n / 16)] else none
  | [a, b, c, '='] => do
    let n := ((← value? a) * 64 + (← value? b)) * 64 + (← value? c)
    if n % 4 = 0 then some [UInt8.ofNat (n / 1024), UInt8.ofNat (n / 4)] else none
  | a :: b :: c :: d :: rest => do
    let n := (((← value? a) * 64 + (← value? b)) * 64 + (← value? c)) * 64 + (← value? d)
    let bytes ← bytes? rest
    some (UInt8.ofNat (n / 65536) :: UInt8.ofNat (n / 256) :: UInt8.ofNat n :: bytes)
  | _ => none

end ReviewBot.Base64
