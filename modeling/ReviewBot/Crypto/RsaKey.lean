import ReviewBot.Crypto.Der

set_option autoImplicit false

/-!
# Private keys for RSA

A private key is written as a sequence of nine integers. Here, other than where the kind of a key is
told, the shortest form is insisted on, and the numbers are checked against each other.
-/

namespace ReviewBot

/-- The numbers of a private key. -/
structure RsaKey where
  modulus : Nat
  publicExponent : Nat
  privateExponent : Nat
  prime1 : Nat
  prime2 : Nat
  /-- The private exponent modulo `prime1 - 1`. -/
  exponent1 : Nat
  /-- The private exponent modulo `prime2 - 1`. -/
  exponent2 : Nat
  /-- The inverse of `prime2` modulo `prime1`. -/
  coefficient : Nat

/-- Why a private key is not used. -/
inductive KeyRejection where
  | invalidEncoding
  | versionNotSupported
  | tooSmall
  | tooLarge
  | invalidComponent
  | inconsistentComponents
  | primeLength
  | unexpected
  deriving DecidableEq

/-- The reason in messages. -/
def KeyRejection.label : KeyRejection → String
  | invalidEncoding => "InvalidEncoding"
  | versionNotSupported => "VersionNotSupported"
  | tooSmall => "TooSmall"
  | tooLarge => "TooLarge"
  | invalidComponent => "InvalidComponent"
  | inconsistentComponents => "InconsistentComponents"
  | primeLength => "PrivateModulusLenNotMultipleOf512Bits"
  | unexpected => "UnexpectedError"

namespace RsaKey

/-- The length at the beginning, written in the shortest way, and the bytes after it. -/
def strictLength? : Bytes → Option (Nat × Bytes)
  | 0x81 :: a :: rest => if 0x80 ≤ a then some (a.toNat, rest) else none
  | 0x82 :: a :: b :: rest => if a = 0 then none else some (256 * a.toNat + b.toNat, rest)
  | a :: rest => if a < 0x80 then some (a.toNat, rest) else none
  | [] => none

/-- The content of the item with the given tag at the beginning, and the bytes after it. -/
def content? (tag : UInt8) : Bytes → Option (Bytes × Bytes)
  | [] => none
  | t :: rest => do
    let (length, rest) ← strictLength? rest
    if t = tag && length ≤ rest.length then some (rest.take length, rest.drop length) else none

/-- The natural number in the bytes of an integer; a zero in front only makes room for the sign. -/
def natural? : Bytes → Option Nat
  | [] => none
  | [a] => if a < 0x80 then some a.toNat else none
  | a :: b :: rest =>
    if 0x80 ≤ a || (a = 0 && b < 0x80) then none else some (Der.number (a :: b :: rest))

/-- The natural number at the beginning, and the bytes after it. -/
def integer? (bytes : Bytes) : Option (Nat × Bytes) := do
  let (content, rest) ← content? 0x02 bytes
  some (← natural? content, rest)

/-- The natural numbers at the beginning, and the bytes after them. -/
def integers? : Nat → Bytes → Option (List Nat × Bytes)
  | 0, bytes => some ([], bytes)
  | n + 1, bytes => do
    let (first, rest) ← integer? bytes
    let (others, rest) ← integers? n rest
    some (first :: others, rest)

/-- How many bits a number has. -/
def bitLength (n : Nat) : Nat := if n = 0 then 0 else Nat.log2 n + 1

/-- How many bytes a number has. -/
def byteLength (n : Nat) : Nat := (bitLength n + 7) / 8

/-- A condition that a key must meet. -/
def demand (condition : Bool) (otherwise : KeyRejection) : Except KeyRejection Unit :=
  if condition then .ok () else .error otherwise

/-- The number can be computed with as a modulus: it is odd and neither too short nor too long. -/
def checkModulus (n : Nat) : Except KeyRejection Unit := do
  demand (n ≠ 0) .invalidEncoding
  demand (byteLength n ≤ 1024) .tooLarge
  demand (24 < byteLength n) .unexpected
  demand (n % 2 = 1) .invalidComponent

/-- The public half is long enough to be safe and not longer than is supported. -/
def checkPublic (n e : Nat) : Except KeyRejection Unit := do
  checkModulus n
  demand (2048 ≤ 8 * byteLength n) .tooSmall
  demand (bitLength n ≤ 4096) .tooLarge
  demand (byteLength e ≤ 5) .tooLarge
  demand (e ≠ 0) .invalidEncoding
  demand (65537 ≤ e) .tooSmall
  demand (bitLength e ≤ 33) .tooLarge
  demand (e % 2 = 1) .invalidComponent

/-- How many bits each prime has. -/
def primeLength (n : Nat) : Nat := (bitLength n + 1) / 2

/-- A prime has half as many bits as the modulus. -/
def checkPrime (n p : Nat) : Except KeyRejection Unit := do
  checkModulus p
  demand (bitLength p = primeLength n) .inconsistentComponents
  demand (bitLength p % 512 = 0) .primeLength

/-- The private exponent is odd and lies between the primes and the modulus. -/
def checkPrivateExponent (n d : Nat) : Except KeyRejection Unit := do
  demand (checkModulus d).isOk .invalidComponent
  demand (primeLength n < bitLength d && d < n) .inconsistentComponents

/-- The numbers are in range and belong together. -/
def check (k : RsaKey) : Except KeyRejection Unit := do
  checkPublic k.modulus k.publicExponent
  checkPrime k.modulus k.prime1
  checkPrime k.modulus k.prime2
  demand (k.prime1 * k.prime2 % k.modulus = 0) .inconsistentComponents
  checkPrivateExponent k.modulus k.privateExponent
  demand (k.exponent1 < k.prime1 && k.exponent1 % 2 = 1) .inconsistentComponents
  demand (k.exponent2 < k.prime2 && k.exponent2 % 2 = 1) .inconsistentComponents
  demand (k.coefficient < k.prime1) .invalidComponent
  demand (k.coefficient * k.prime2 % k.prime1 = 1) .inconsistentComponents

/-- The key written by the integers in a sequence; nothing may follow them. -/
def ofIntegers (bytes : Bytes) : Except KeyRejection RsaKey := do
  let (version, bytes) ← (integer? bytes).elim (.error .invalidEncoding) .ok
  demand (version < 256) .invalidEncoding
  demand (version = 0) .versionNotSupported
  match integers? 8 bytes with
  | some ([n, e, d, p, q, dp, dq, c], rest) =>
    let key : RsaKey := ⟨n, e, d, p, q, dp, dq, c⟩
    key.check
    demand rest.isEmpty .invalidEncoding
    return key
  | _ => .error .invalidEncoding

/-- The key in bytes; nothing may follow it. -/
def ofBytes (bytes : Bytes) : Except KeyRejection RsaKey := do
  let (content, rest) ← (content? 0x30 bytes).elim (.error .invalidEncoding) .ok
  let key ← ofIntegers content
  demand rest.isEmpty .invalidEncoding
  return key

end RsaKey

end ReviewBot
