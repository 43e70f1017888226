import ReviewBot.Host.Basic
import ReviewBot.Pipeline
import ReviewBot.Report.Markdown

set_option autoImplicit false

/-!
# Publishing reviews

A review is published as one comment. Earlier reviews are deleted first, if that is wanted; when
deleting fails, the comment is posted all the same. `Reviewer.review` runs a whole review: fetch the
diff, look at it, publish the report.
-/

namespace ReviewBot

/-- Publishes findings on a pull request. -/
def Host.publish {m : Type → Type} [Monad m] (host : Host m) (deletePrevious : Bool)
    (pr : PullRequest) (findings : List Finding) : m (Except Error Unit) := do
  if deletePrevious then
    -- A review that cannot be cleaned up after is still worth posting.
    let _ ← host.deleteMarked pr Markdown.marker
  host.postComment pr (Markdown.render findings)

/-- Everything that reviewing the pull requests of a host takes. -/
structure Reviewer (m : Type → Type) where
  /-- Where the pull requests are. -/
  host : Host m
  /-- What looks at a diff. -/
  pipeline : Pipeline m
  /-- Earlier reviews of the same pull request are deleted. -/
  deletePrevious : Bool

namespace Reviewer

/-- Publishes a report and hands it on. -/
def publishReport {m : Type → Type} [Monad m] (r : Reviewer m) (pr : PullRequest)
    (report : Report) : m (Except Error (Option Report)) := do
  match ← r.host.publish r.deletePrevious pr report.findings with
  | .error e => pure (.error e)
  | .ok () => pure (.ok (some report))

/-- Reviews a pull request and publishes the report; a diff that is too large has none. -/
def review {m : Type → Type} [Monad m] (r : Reviewer m) (pr : PullRequest) :
    m (Except Error (Option Report)) := do
  match ← r.host.fetchDiff pr with
  | .error e => pure (.error e)
  | .ok diff =>
    match ← r.pipeline.analyze pr diff with
    | none => pure (.ok none)
    | some report => r.publishReport pr report

/-- Reviews a pull request in the background, where nobody waits for the outcome. -/
def process {m : Type → Type} [Monad m] (r : Reviewer m) (pr : PullRequest) : m Unit := do
  let _ ← r.review pr

end Reviewer

end ReviewBot
