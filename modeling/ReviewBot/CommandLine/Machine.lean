import ReviewBot.Files.Basic
import ReviewBot.Host.Library
import ReviewBot.Http.Exchange
import ReviewBot.Settings.Environment
import ReviewBot.Webhook.Server

set_option autoImplicit false

/-!
# What the program runs on

Everything outside the program that a command may use, in a monad `m`: the machine itself, or a
stand-in for it in memory.
-/

namespace ReviewBot

/-- What a command may use. -/
structure Machine (m : Type → Type) where
  /-- The files. -/
  files : Files m
  /-- The environment variables. -/
  environment : Environment
  /-- The bytes of the standard input. -/
  input : m Bytes
  /-- Reaches other servers. -/
  network : Network m
  /-- Reaches the comments on the code host. -/
  library : CommentLibrary m
  /-- The time in seconds since the beginning of 1970. -/
  now : m Int
  /-- Identifiers that have not been issued before. -/
  identifiers : m (Nat → String)
  /-- Listens on an address until the program is told to stop. -/
  listen : String → WebhookServer m → m (Except Error Unit)

/-- How the program ends. -/
structure Exit where
  /-- The exit code. -/
  code : Nat
  /-- What goes to the standard output. -/
  output : String := ""
  /-- What is said about a failure. -/
  complaint : Option String := none
  deriving DecidableEq

namespace Exit

/-- The command has done its work. -/
def success (output : String) : Exit := ⟨0, output, none⟩

/-- The command has failed. -/
def failure (complaint : String) : Exit := ⟨1, "", some complaint⟩

/-- The arguments are not as they should be. -/
def misuse (complaint : String) : Exit := ⟨2, "", some complaint⟩

end Exit

end ReviewBot
