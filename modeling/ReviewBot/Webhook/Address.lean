import ReviewBot.Error
import ReviewBot.Numeric.Unsigned
import ReviewBot.Text.Search

set_option autoImplicit false

/-!
# Addresses to listen on

An address is a host and a port with a colon between them; the last colon counts.
-/

namespace ReviewBot

/-- Where a server listens. -/
structure ListenAddress where
  /-- Name or number of the host. -/
  host : String
  /-- The port. -/
  port : Nat
  deriving DecidableEq

namespace ListenAddress

/-- The greatest port. -/
def maxPort : Nat := 65535

/-- Reads an address. -/
def read (text : String) : Except Error ListenAddress :=
  match Text.splitLastChar? ':' text.toList with
  | none => .error (.io "invalid socket address")
  | some (host, port) =>
    match Numeric.unsigned? maxPort port with
    | none => .error (.io "invalid port value")
    | some n => .ok ⟨String.ofList host, n⟩

end ListenAddress

end ReviewBot
