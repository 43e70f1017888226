import ReviewBot.Text.Utf8

set_option autoImplicit false

/-!
# SHA-256

The digest of a message of any length: the message is padded to whole blocks of 64 bytes, and each
block is mixed into eight words of 32 bits. A digest has 32 bytes (`digest_length`).
-/

namespace ReviewBot.Sha256

/-- The eight words that blocks are mixed into. -/
structure State where
  a : UInt32
  b : UInt32
  c : UInt32
  d : UInt32
  e : UInt32
  f : UInt32
  g : UInt32
  h : UInt32

/-- The words before the first block: fractions of the square roots of the first eight primes. -/
def initial : State :=
  ⟨0x6a09e667, 0xbb67ae85, 0x3c6ef372, 0xa54ff53a, 0x510e527f, 0x9b05688c, 0x1f83d9ab, 0x5be0cd19⟩

/-- One word for each round: fractions of the cube roots of the first sixty-four primes. -/
def roundConstants : List UInt32 :=
  [0x428a2f98, 0x71374491, 0xb5c0fbcf, 0xe9b5dba5, 0x3956c25b, 0x59f111f1, 0x923f82a4, 0xab1c5ed5,
   0xd807aa98, 0x12835b01, 0x243185be, 0x550c7dc3, 0x72be5d74, 0x80deb1fe, 0x9bdc06a7, 0xc19bf174,
   0xe49b69c1, 0xefbe4786, 0x0fc19dc6, 0x240ca1cc, 0x2de92c6f, 0x4a7484aa, 0x5cb0a9dc, 0x76f988da,
   0x983e5152, 0xa831c66d, 0xb00327c8, 0xbf597fc7, 0xc6e00bf3, 0xd5a79147, 0x06ca6351, 0x14292967,
   0x27b70a85, 0x2e1b2138, 0x4d2c6dfc, 0x53380d13, 0x650a7354, 0x766a0abb, 0x81c2c92e, 0x92722c85,
   0xa2bfe8a1, 0xa81a664b, 0xc24b8b70, 0xc76c51a3, 0xd192e819, 0xd6990624, 0xf40e3585, 0x106aa070,
   0x19a4c116, 0x1e376c08, 0x2748774c, 0x34b0bcb5, 0x391c0cb3, 0x4ed8aa4a, 0x5b9cca4f, 0x682e6ff3,
   0x748f82ee, 0x78a5636f, 0x84c87814, 0x8cc70208, 0x90befffa, 0xa4506ceb, 0xbef9a3f7, 0xc67178f2]

/-- Turns a word to the right by `n` bits. -/
def rotate (n x : UInt32) : UInt32 := (x >>> n) ||| (x <<< (32 - n))

/-- The four bytes of a word, the highest first. -/
def bytesOf (w : UInt32) : Bytes :=
  [(w >>> 24).toUInt8, (w >>> 16).toUInt8, (w >>> 8).toUInt8, w.toUInt8]

/-- The words in bytes; there are four bytes to each. -/
def wordsOf : Bytes → List UInt32
  | a :: b :: c :: d :: rest =>
    ((a.toUInt32 <<< 24) ||| (b.toUInt32 <<< 16) ||| (c.toUInt32 <<< 8) ||| d.toUInt32) ::
      wordsOf rest
  | _ => []

/-- How many zeros stand between the end mark and the length of a message of `n` bytes. -/
def zeroCount (n : Nat) : Nat := (119 - n % 64) % 64

/-- The length of a message of `n` bytes in bits, as eight bytes. -/
def lengthBytes (n : Nat) : Bytes :=
  bytesOf (UInt32.ofNat (8 * n / 0x100000000)) ++ bytesOf (UInt32.ofNat (8 * n))

/-- The message with an end mark, zeros and its length behind it. -/
def pad (message : Bytes) : Bytes :=
  message ++ 0x80 :: List.replicate (zeroCount message.length) 0 ++ lengthBytes message.length

/-- The word that follows others in a schedule, which are given latest first. -/
def nextWord (ws : List UInt32) : UInt32 :=
  let x := ws.getD 1 0
  let y := ws.getD 14 0
  ws.getD 15 0 + (rotate 7 y ^^^ rotate 18 y ^^^ (y >>> 3)) + ws.getD 6 0 +
    (rotate 17 x ^^^ rotate 19 x ^^^ (x >>> 10))

/-- Adds words to a schedule, which is given latest first. -/
def extend : Nat → List UInt32 → List UInt32
  | 0, ws => ws
  | n + 1, ws => extend n (nextWord ws :: ws)

/-- The words of a block and 48 more that depend on them. -/
def schedule (block : List UInt32) : List UInt32 := (extend 48 block.reverse).reverse

/-- Mixes one word of a schedule and its constant into the state. -/
def round (s : State) (input : UInt32 × UInt32) : State :=
  let t := s.h + (rotate 6 s.e ^^^ rotate 11 s.e ^^^ rotate 25 s.e) +
    ((s.e &&& s.f) ^^^ (~~~s.e &&& s.g)) + input.1 + input.2
  let u := (rotate 2 s.a ^^^ rotate 13 s.a ^^^ rotate 22 s.a) +
    ((s.a &&& s.b) ^^^ (s.a &&& s.c) ^^^ (s.b &&& s.c))
  ⟨t + u, s.a, s.b, s.c, s.d + t, s.e, s.f, s.g⟩

/-- Mixes a block into the state. -/
def mix (s : State) (block : List UInt32) : State :=
  let r := (roundConstants.zip (schedule block)).foldl round s
  ⟨s.a + r.a, s.b + r.b, s.c + r.c, s.d + r.d, s.e + r.e, s.f + r.f, s.g + r.g, s.h + r.h⟩

/-- Mixes words into the state, sixteen at a time. -/
def mixAll (s : State) (ws : List UInt32) : State :=
  if (ws.take 16).length < 16 then s else mixAll (mix s (ws.take 16)) (ws.drop 16)
termination_by ws.length
decreasing_by
  rename_i full
  rw [List.length_take] at full
  rw [List.length_drop]
  omega

/-- The bytes of the eight words. -/
def State.bytes (s : State) : Bytes :=
  [s.a, s.b, s.c, s.d, s.e, s.f, s.g, s.h].flatMap bytesOf

/-- The digest of a message. -/
def digest (message : Bytes) : Bytes := (mixAll initial (wordsOf (pad message))).bytes

theorem digest_length (message : Bytes) : (digest message).length = 32 := by
  simp [digest, State.bytes, bytesOf]

end ReviewBot.Sha256
