import ReviewBot.Document.Fields
import ReviewBot.Json.Basic
import ReviewBot.PullRequest

set_option autoImplicit false

/-!
# Pull requests as JSON
-/

namespace ReviewBot.PullRequest

/-- The fields of a pull request in order. -/
def fieldNames : List String :=
  ["owner", "repo", "prNumber", "title", "description", "authorLogin", "baseRef", "headRef",
   "commitSha", "installationId"]

/-- Reads a pull request. -/
def ofDocument? (d : Document) : Option PullRequest := do
  match ← d.slots? .refused fieldNames with
  | [owner, repo, number, title, description, authorLogin, baseRef, headRef, commitSha,
      installationId] =>
    some
      { owner := ← owner.required? Document.string?
        repo := ← repo.required? Document.string?
        number := ← number.required? (Document.nat? maxLong)
        title := ← title.required? Document.string?
        description := ← description.optional? Document.string?
        authorLogin := ← authorLogin.required? Document.string?
        baseRef := ← baseRef.required? Document.string?
        headRef := ← headRef.required? Document.string?
        commitSha := ← commitSha.required? Document.string?
        installationId := ← installationId.optionalOrElse? (Document.nat? maxLong) }
  | _ => none

/-- The pull request as JSON. -/
def toJson (pr : PullRequest) : Json :=
  .object
    [("owner", .text pr.owner),
     ("repo", .text pr.repo),
     ("prNumber", .nat pr.number),
     ("title", .text pr.title),
     ("description", .ofOption .text pr.description),
     ("authorLogin", .text pr.authorLogin),
     ("baseRef", .text pr.baseRef),
     ("headRef", .text pr.headRef),
     ("commitSha", .text pr.commitSha),
     ("installationId", .ofOption .nat pr.installationId)]

end ReviewBot.PullRequest
