import ReviewBot.Encoding.Settings
import ReviewBot.Files.Basic
import ReviewBot.Settings.Environment
import ReviewBot.Toml.Parser

set_option autoImplicit false

/-!
# Settings from a file

The environment comes before the file, and the file before the values that hold when nothing is
said. A file that is named must be there; the usual one may be missing.
-/

namespace ReviewBot.Settings

/-- The file that is read when none is named. -/
def usualFile : String := "lookout.toml"

/-- The settings in a TOML text. -/
def ofToml (text : String) : Except Error Settings :=
  match (Document.ofTomlText? text).bind (ofDocument? .ignored) with
  | some s => .ok s
  | none => .error (.toml "not a document with settings")

/-- The settings in the file at `path`, of which the state is given. -/
def ofFile (path : String) (state : PathState) : Except Error Settings :=
  match state.text path with
  | .error e => .error e
  | .ok text => ofToml text

/-- The settings in the file that is named, or else in the usual one if it is there. -/
def ofNamedFile {m : Type → Type} [Monad m] (files : Files m) :
    Option String → m (Except Error Settings)
  | some path => do
    let state ← files.look path
    pure (ofFile path state)
  | none => do
    let state ← files.look usualFile
    pure (if state.present then ofFile usualFile state else .ok {})

/-- The settings in force. -/
def load {m : Type → Type} [Monad m] (files : Files m) (path : Option String)
    (env : Environment) : m (Except Error Settings) := do
  match ← ofNamedFile files path with
  | .error e => pure (.error e)
  | .ok s => pure (s.withEnvironment env)

end ReviewBot.Settings
