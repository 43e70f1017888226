import ReviewBot.Crypto.RsaKey
import ReviewBot.Crypto.Sha256
import ReviewBot.Numeric.Power

set_option autoImplicit false

/-!
# Signatures by RSA

A message is signed by its SHA-256 digest, padded to the length of the modulus as PKCS#1 version 1.5
lays down. The private power is put together from the powers modulo the two primes, and is given out
only if the public power leads back.
-/

namespace ReviewBot.RsaKey

/-- What stands before a SHA-256 digest and names it as one. -/
def digestHeader : Bytes :=
  [0x30, 0x31, 0x30, 0x0d, 0x06, 0x09, 0x60, 0x86, 0x48, 0x01, 0x65, 0x03, 0x04, 0x02, 0x01, 0x05,
   0x00, 0x04, 0x20]

/-- The digest of a message, padded to `length` bytes. -/
def padded (length : Nat) (message : Bytes) : Bytes :=
  let tail := 0 :: digestHeader ++ Sha256.digest message
  0 :: 1 :: List.replicate (length - 2 - tail.length) 0xFF ++ tail

/-- A number in `length` bytes, the highest first. -/
def bytesOfNumber : Nat → Nat → Bytes
  | 0, _ => []
  | length + 1, n => UInt8.ofNat (n / Nat.pow 256 length) :: bytesOfNumber length n

/-- The private power of a number. -/
def privatePower (k : RsaKey) (x : Nat) : Nat :=
  -- `v + h * prime2` is `u` modulo the first prime and `v` modulo the second.
  let u := Numeric.powMod x k.exponent1 k.prime1
  let v := Numeric.powMod x k.exponent2 k.prime2
  let h := k.coefficient * (u + (k.prime1 - v % k.prime1)) % k.prime1
  v + h * k.prime2

/-- The signature of a message, unless the numbers of the key do not lead back to it. -/
def sign? (k : RsaKey) (message : Bytes) : Option Bytes :=
  let length := byteLength k.modulus
  let x := Der.number (padded length message)
  let y := k.privatePower x
  -- A fault in the key must not leak through a wrong signature.
  if Numeric.powMod y k.publicExponent k.modulus = x then some (bytesOfNumber length y) else none

end ReviewBot.RsaKey
