import ReviewBot.Document.Fields
import ReviewBot.PullRequest
import ReviewBot.Text.Blank

set_option autoImplicit false

/-!
# Events on pull requests

What the code host says of a pull request when something has happened to it. Of a message that holds
much more, only what a review needs is read.
-/

namespace ReviewBot

/-- A branch, and the commit that it stands at. -/
structure Branch where
  /-- Name of the branch. -/
  name : String
  /-- The commit; empty if it is not given. -/
  commit : String
  deriving DecidableEq

/-- What an event says of the pull request itself. -/
structure EventSubject where
  /-- Number of the pull request. -/
  number : Nat
  /-- Title. -/
  title : String
  /-- What the author wrote about it. -/
  body : Option String
  /-- Login of the author. -/
  author : String
  /-- The branch that is to be changed. -/
  base : Branch
  /-- The branch with the change. -/
  head : Branch
  deriving DecidableEq

/-- A repository. -/
structure Repository where
  /-- Name of the repository. -/
  name : String
  /-- Login of the owner. -/
  owner : String
  deriving DecidableEq

/-- Something has happened to a pull request. -/
structure PullRequestEvent where
  /-- What has happened. -/
  action : String
  /-- What it has happened to. -/
  subject : EventSubject
  /-- Where the pull request is. -/
  repository : Repository
  /-- Installation of the app that the message comes from. -/
  installationId : Option Nat
  deriving DecidableEq

/-- Reads the login of an account. -/
def login? (d : Document) : Option String := do
  match ← d.slots? .refused ["login"] with
  | [login] => login.required? Document.string?
  | _ => none

/-- Reads a branch. -/
def Branch.ofDocument? (d : Document) : Option Branch := do
  match ← d.slots? .refused ["ref", "sha"] with
  | [name, commit] =>
    some
      { name := ← name.required? Document.string?
        commit := ← commit.orElse? "" Document.string? }
  | _ => none

/-- Reads what an event says of the pull request itself. -/
def EventSubject.ofDocument? (d : Document) : Option EventSubject := do
  match ← d.slots? .refused ["number", "title", "body", "user", "base", "head"] with
  | [number, title, body, user, base, head] =>
    some
      { number := ← number.required? (Document.nat? maxLong)
        title := ← title.required? Document.string?
        body := ← body.optionalOrElse? Document.string?
        author := ← user.required? login?
        base := ← base.required? Branch.ofDocument?
        head := ← head.required? Branch.ofDocument? }
  | _ => none

/-- Reads a repository. -/
def Repository.ofDocument? (d : Document) : Option Repository := do
  match ← d.slots? .refused ["name", "owner"] with
  | [name, owner] =>
    some { name := ← name.required? Document.string?, owner := ← owner.required? login? }
  | _ => none

namespace PullRequestEvent

/-- Reads the number of an installation. -/
def installation? (d : Document) : Option Nat := do
  match ← d.slots? .refused ["id"] with
  | [id] => id.required? (Document.nat? maxLong)
  | _ => none

/-- Reads an event. -/
def ofDocument? (d : Document) : Option PullRequestEvent := do
  match ← d.slots? .refused ["action", "pull_request", "repository", "installation"] with
  | [action, pullRequest, repository, installation] =>
    some
      { action := ← action.required? Document.string?
        subject := ← pullRequest.required? EventSubject.ofDocument?
        repository := ← repository.required? Repository.ofDocument?
        installationId := ← installation.optionalOrElse? installation? }
  | _ => none

/-- The pull request that the event is about; a blank description counts as missing. -/
def pullRequest (e : PullRequestEvent) : PullRequest where
  owner := e.repository.owner
  repo := e.repository.name
  number := e.subject.number
  title := e.subject.title
  description := e.subject.body.filter (!·.isBlank)
  authorLogin := e.subject.author
  baseRef := e.subject.base.name
  headRef := e.subject.head.name
  commitSha := e.subject.head.commit
  installationId := e.installationId

/-- The actions after which a pull request is reviewed. -/
def reviewableActions : List String := ["opened", "synchronize", "reopened"]

/-- A pull request is reviewed after the action. -/
def isReviewable (action : String) : Bool := reviewableActions.contains action

end PullRequestEvent

end ReviewBot
