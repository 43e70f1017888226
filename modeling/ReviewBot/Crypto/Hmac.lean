import ReviewBot.Crypto.Sha256

set_option autoImplicit false

/-!
# Message authentication by HMAC with SHA-256

The code of a message under a secret key of any length. A code has 32 bytes (`hmac_length`).
-/

namespace ReviewBot.Sha256

/-- The key as one block: a longer key by its digest, a shorter one with zeros behind it. -/
def keyBlock (key : Bytes) : Bytes :=
  let short := if 64 < key.length then digest key else key
  short ++ List.replicate (64 - short.length) 0

/-- The code of a message under a key. -/
def hmac (key message : Bytes) : Bytes :=
  let block := keyBlock key
  digest (block.map (· ^^^ 0x5c) ++ digest (block.map (· ^^^ 0x36) ++ message))

theorem hmac_length (key message : Bytes) : (hmac key message).length = 32 := digest_length _

end ReviewBot.Sha256
