import ReviewBot.Crypto.Hmac
import ReviewBot.Numeric.Hex

set_option autoImplicit false

/-!
# Signatures of deliveries

The code host signs the bytes of every delivery with a secret that it shares with the program. A
verifier without a secret, or with an empty one, accepts nothing.
-/

namespace ReviewBot

/-- What stands before the digits of a signature. -/
def signatureScheme : String := "sha256="

/-- The signature of a body under a secret. -/
def sign (secret : String) (body : Bytes) : String :=
  signatureScheme ++ String.ofList (Bytes.toHex (Sha256.hmac (Text.utf8 secret) body))

/-- Checks signatures. -/
structure Verifier where
  /-- The shared secret. -/
  secret : Option String

namespace Verifier

/-- The secret, if there is one that is not empty. -/
def secret? (v : Verifier) : Option String := v.secret.filter (· ≠ "")

/-- The code that a signature states. -/
def statedCode? (signature : String) : Option Bytes :=
  (signatureScheme.toList.isPrefixOf? signature.toList).bind Bytes.ofHex?

/-- The signature is that of the body. -/
def accepts (v : Verifier) (body : Bytes) (signature : Option String) : Bool :=
  match v.secret?, signature.bind statedCode? with
  | some secret, some code => code == Sha256.hmac (Text.utf8 secret) body
  | _, _ => false

/-- What logs may say of a verifier, without its secret. -/
def description (v : Verifier) : String :=
  "SignatureVerifier \x7b configured: " ++ (if v.secret.isSome then "true" else "false") ++ " \x7d"

end Verifier

end ReviewBot
