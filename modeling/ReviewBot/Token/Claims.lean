import ReviewBot.Document.Fields
import ReviewBot.Json.Basic

set_option autoImplicit false

/-!
# What a token states

A token says who has issued it and how long it holds. It is dated back a minute, in case clocks
differ, and holds for nine minutes.
-/

namespace ReviewBot

/-- What a token states; times are seconds since the beginning of 1970. -/
structure Claims where
  /-- When it was issued. -/
  issuedAt : Int
  /-- When it ceases to hold. -/
  expiresAt : Int
  /-- Who has issued it. -/
  issuer : String
  deriving DecidableEq

namespace Claims

/-- What an app states at a time. -/
def ofApp (appId : Nat) (now : Int) : Claims := ⟨now - 60, now + 540, toString appId⟩

/-- Reads what a token states. -/
def ofDocument? (d : Document) : Option Claims := do
  match ← d.slots? .refused ["iat", "exp", "iss"] with
  | [issuedAt, expiresAt, issuer] =>
    some
      { issuedAt := ← issuedAt.required? Document.int64?
        expiresAt := ← expiresAt.required? Document.int64?
        issuer := ← issuer.required? Document.string? }
  | _ => none

/-- What a token states as JSON. -/
def toJson (c : Claims) : Json :=
  .object [("iat", .int c.issuedAt), ("exp", .int c.expiresAt), ("iss", .text c.issuer)]

end Claims

end ReviewBot
