import ReviewBot.Error
import ReviewBot.Text.Utf8

set_option autoImplicit false

/-!
# Files

What can stand at a path, and what reading it yields. Looking at a path runs in a monad `m`, so that
the files can be those of the machine or a tree in memory.
-/

namespace ReviewBot

/-- What stands at a path. -/
inductive PathState where
  | missing
  /-- Something that cannot be read as a file, and why. -/
  | unreadable (reason : String)
  | file (content : Bytes)
  deriving DecidableEq

namespace PathState

/-- A directory. -/
def directory : PathState := unreadable "Is a directory (os error 21)"

/-- Something stands at the path. -/
def present : PathState → Bool
  | missing => false
  | unreadable _ => true
  | file _ => true

/-- The bytes of the file at `path`, of which the state is given. -/
def content (path : String) : PathState → Except Error Bytes
  | missing => .error (.fileNotFound path)
  | unreadable reason => .error (.io reason)
  | file content => .ok content

/-- The bytes are a text. -/
def textOf (content : Bytes) : Except Error String :=
  (Text.ofUtf8? content).elim (.error (.io "stream did not contain valid UTF-8")) .ok

/-- The text of the file at `path`, of which the state is given. -/
def text (path : String) (state : PathState) : Except Error String :=
  match state.content path with
  | .ok content => textOf content
  | .error e => .error e

end PathState

/-- The files that a program works with. -/
structure Files (m : Type → Type) where
  /-- Looks at a path. -/
  look : String → m PathState
  /-- Writes a file, in place of one that is there. -/
  write : String → Bytes → m (Except Error Unit)

end ReviewBot
