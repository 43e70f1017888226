import ReviewBot.Crypto.Der
import ReviewBot.Crypto.Pem

set_option autoImplicit false

/-!
# Files with keys

A file holds a key as a labelled block. Under two labels the key stands there as it is; under the
others it is wrapped into an item that names the kind of key, and only RSA will do. Here a public
key passes for a private one; it is found out when something is to be signed.
-/

namespace ReviewBot

/-- Why a file does not hold a key. -/
inductive KeyFileFault where
  | invalidFormat
  /-- A wrapping with no key inside. -/
  | noKey
  deriving DecidableEq

/-- The reason in messages. -/
def KeyFileFault.label : KeyFileFault → String
  | invalidFormat => "InvalidKeyFormat"
  | noKey => "InvalidEcdsaKey"

namespace KeyFile

/-- A kind of key. -/
inductive KeyKind where
  | ellipticCurve
  | rsa
  | edwardsCurve
  deriving DecidableEq

/-- The kind of key that an object identifier stands for. -/
def kindOfPath? (path : List Nat) : Option KeyKind :=
  if path = [1, 2, 840, 10045, 2, 1] then some .ellipticCurve
  else if path = [1, 2, 840, 113549, 1, 1, 1] then some .rsa
  else if path = [1, 3, 101, 112] then some .edwardsCurve
  else none

/-- The kind of key that an item names. -/
def kindOf? : Der → Option KeyKind
  | .identifier path => kindOfPath? path
  | _ => none

/-- The bytes that an item wraps. -/
def wrapped? : Der → Option Bytes
  | .string content => some content
  | _ => none

/-- The key under a label that says that it is wrapped. -/
def unwrap (items : List Der) : Except KeyFileFault Bytes :=
  if Der.findSomeIn? kindOf? items = some .rsa then
    (Der.findSomeIn? wrapped? items).elim (.error .noKey) .ok
  else .error .invalidFormat

/-- The key in a block. -/
def ofPem (pem : Pem) (items : List Der) : Except KeyFileFault Bytes :=
  if ["RSA PRIVATE KEY", "RSA PUBLIC KEY"].contains pem.label then .ok pem.content
  else if ["PRIVATE KEY", "PUBLIC KEY", "CERTIFICATE"].contains pem.label then unwrap items
  else .error .invalidFormat

/-- The key in a file. -/
def rsaKey (file : Bytes) : Except KeyFileFault Bytes :=
  match Pem.ofBytes? file with
  | none => .error .invalidFormat
  | some pem =>
    match Der.items? pem.content with
    | none => .error .invalidFormat
    | some [] => .error .invalidFormat
    | some items => ofPem pem items

end KeyFile

end ReviewBot
