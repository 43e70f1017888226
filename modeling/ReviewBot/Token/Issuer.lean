import ReviewBot.Crypto.KeyFile
import ReviewBot.Crypto.RsaSignature
import ReviewBot.Files.Basic
import ReviewBot.Json.Printer
import ReviewBot.Token.Claims

set_option autoImplicit false

/-!
# Tokens

An app shows who it is by a token that it signs with its private key: the way of signing, the claims
and the signature, each in base 64, with points between them.
-/

namespace ReviewBot

/-- Issues tokens in the name of an app. -/
structure TokenIssuer where
  /-- Number of the app. -/
  appId : Nat
  /-- The private key as it is stored. -/
  key : Bytes

namespace TokenIssuer

/-- An issuer with the key in a file. -/
def ofKeyFile (appId : Nat) (file : Bytes) : Except Error TokenIssuer :=
  match KeyFile.rsaKey file with
  | .ok key => .ok ⟨appId, key⟩
  | .error fault => .error (.auth ("invalid private key: " ++ fault.label))

/-- An issuer with the key in the file at `path`, of which the state is given. -/
def ofPath (appId : Nat) (path : String) (state : PathState) : Except Error TokenIssuer :=
  match state.content path with
  | .ok file => ofKeyFile appId file
  | .error e => .error e

/-- The way of signing. -/
def header : Json := .object [("typ", .text "JWT"), ("alg", .text "RS256")]

/-- A part of a token. -/
def part (bytes : Bytes) : String := String.ofList (Base64.urlText bytes)

/-- A token cannot be signed. -/
def signingFailed (reason : String) : Error := .auth ("failed to sign app token: " ++ reason)

/-- The signature of a message. -/
def signature (issuer : TokenIssuer) (message : Bytes) : Except Error Bytes :=
  match RsaKey.ofBytes issuer.key with
  | .error rejection => .error (signingFailed ("RSA key invalid: " ++ rejection.label))
  | .ok key => (key.sign? message).elim (.error (signingFailed "RsaFailedSigning")) .ok

/-- The token at a time, given in seconds since the beginning of 1970. -/
def issue (issuer : TokenIssuer) (now : Int) : Except Error String :=
  let message := part (Text.utf8 header.compact) ++ "." ++
    part (Text.utf8 (Claims.ofApp issuer.appId now).toJson.compact)
  match issuer.signature (Text.utf8 message) with
  | .ok signature => .ok (message ++ "." ++ part signature)
  | .error e => .error e

/-- What logs may say of an issuer, without its key. -/
def description (issuer : TokenIssuer) : String :=
  "AppJwtIssuer \x7b app_id: " ++ toString issuer.appId ++ ", .. \x7d"

end TokenIssuer

end ReviewBot
