import ReviewBot.Text.LetterCase
import ReviewBot.Text.Search

set_option autoImplicit false

/-!
# Chunks of a change

A chunk is one contiguous place of one file where lines are added or removed. It is what rules look
at and what a model is asked about. The file type of a chunk is derived from the path alone
(`fileTypeOf`).
-/

namespace ReviewBot

/-- What a change does to a file as a whole; a renamed file counts as modified. -/
inductive ChangeKind where
  | added
  | modified
  | deleted
  deriving DecidableEq, Inhabited

/-- The name of the kind in reviews and messages. -/
def ChangeKind.label : ChangeKind → String
  | .added => "ADDED"
  | .modified => "MODIFIED"
  | .deleted => "DELETED"

/-- All kinds of change. -/
def ChangeKind.all : List ChangeKind := [.added, .modified, .deleted]

/-- One contiguous place of one file where lines are added or removed. -/
structure Chunk where
  /-- Path of the file after the change. -/
  filePath : String
  /-- Extension of the path in small letters, or `unknown`. -/
  fileType : String
  /-- Line of the changed file at which the chunk begins, counted from one. -/
  startLine : Nat
  /-- The added lines in order. -/
  addedLines : List String
  /-- The removed lines in order. -/
  removedLines : List String
  /-- All lines of the chunk, each with a sign in front and a line feed behind. -/
  context : String
  /-- What the change does to the file. -/
  change : ChangeKind
  deriving DecidableEq, Inhabited

/-- What follows the last slash of a path. -/
def lastComponent (path : List Char) : List Char :=
  match Text.splitLastChar? '/' path with
  | some parts => parts.2
  | none => path

/-- The extension of the last component of a path in small letters. A point at the beginning or at
the end of the component makes no extension. -/
def fileTypeOf (path : String) : String :=
  match Text.splitLastChar? '.' (lastComponent path.toList) with
  | some (_ :: _, c :: extension) => String.ofList (Text.lower (c :: extension))
  | _ => "unknown"

end ReviewBot
