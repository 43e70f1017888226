import ReviewBot.Host.Basic

set_option autoImplicit false

/-!
# A host in memory

A board keeps comments in order of posting and a log of the calls made on it. A script says which of
its operations fail; without one, posting adds a comment at the end and deleting removes exactly the
comments on the pull request that contain the marker.
-/

namespace ReviewBot

/-- A comment on a pull request. -/
structure Comment where
  /-- The name of the pull request. -/
  pullRequest : String
  /-- The text. -/
  body : String
  deriving DecidableEq

/-- What a board holds. -/
structure Board where
  /-- The comments, oldest first. -/
  comments : List Comment
  /-- The calls, latest first. -/
  log : List String := []

namespace Board

/-- Adds a call to the log. -/
def note (b : Board) (call : String) : Board := { b with log := call :: b.log }

/-- Adds a comment at the end. -/
def post (b : Board) (c : Comment) : Board := { b with comments := b.comments ++ [c] }

/-- The comment is one that deleting on a pull request removes. -/
def isMarked (pullRequest marker : String) (c : Comment) : Bool :=
  c.pullRequest == pullRequest && c.body.hasPart marker

/-- Removes the comments on a pull request that contain a marker. -/
def deleteMarked (b : Board) (pullRequest marker : String) : Board :=
  { b with comments := b.comments.filter (!isMarked pullRequest marker ·) }

end Board

/-- What the operations of a board do when they are called. -/
structure BoardScript where
  /-- The diff of every pull request, or why it cannot be fetched. -/
  diff : Except Error String
  /-- Why posting fails. -/
  postFailure : Option Error := none
  /-- Why deleting fails. -/
  deleteFailure : Option Error := none

/-- The board as a host that follows a script. -/
def BoardScript.host (script : BoardScript) : Host (StateM Board) where
  fetchDiff pr := fun b => (script.diff, b.note ("fetch " ++ pr.name))
  postComment pr body := fun b =>
    let b := b.note ("post " ++ pr.name)
    match script.postFailure with
    | some e => (.error e, b)
    | none => (.ok (), b.post ⟨pr.name, body⟩)
  deleteMarked pr marker := fun b =>
    let b := b.note ("delete " ++ pr.name ++ " " ++ marker)
    match script.deleteFailure with
    | some e => (.error e, b)
    | none =>
      (.ok (b.comments.countP (Board.isMarked pr.name marker)), b.deleteMarked pr.name marker)

end ReviewBot
