import ReviewBot.Document.Fields
import ReviewBot.Host.Basic
import ReviewBot.Host.Library
import ReviewBot.Http.Exchange
import ReviewBot.Http.Status
import ReviewBot.Json.Parser
import ReviewBot.Token.Issuer

set_option autoImplicit false

/-!
# The code host behind its interface

Every call begins with a token of the app. Where the installation is known, the token is given in
exchange for one of the installation, and that one is shown with every further request of the call;
otherwise the token of the app itself is. Tokens and diffs are asked for over a network, and
comments through a library.
-/

namespace ReviewBot

/-- Calls the interface of the code host. -/
structure HostClient (m : Type → Type) where
  /-- Reaches the code host. -/
  network : Network m
  /-- Reaches the comments on the code host. -/
  library : CommentLibrary m
  /-- Root of the interface, without a slash at the end. -/
  apiUrl : String
  /-- Issues the tokens of the app. -/
  issuer : TokenIssuer
  /-- The time in seconds since the beginning of 1970. -/
  now : m Int

namespace HostClient

variable {m : Type → Type} [Monad m]

/-- A client for the interface with the given root. -/
def ofUrl (network : Network m) (library : CommentLibrary m) (apiUrl : String)
    (issuer : TokenIssuer) (now : m Int) : HostClient m :=
  ⟨network, library, apiUrl.dropEndChar '/', issuer, now⟩

/-- Shows a token. -/
def bearer (token : String) : String := "Bearer " ++ token

/-- The code host refuses a request. -/
def refused (r : HttpResponse) : Error :=
  .host ("GitHub API error " ++ Status.text r.status ++ ": " ++ r.text)

/-! ## Requests for tokens and diffs -/

/-- A request that shows a token. -/
def request (method accept token : String) (u : Url) : HttpRequest where
  method := method
  url := u
  accept := some accept
  authorization := some (bearer token)
  userAgent := some "lookout-review-bot"

/-- The request for a token of an installation. -/
def tokenRequest (appToken : String) (u : Url) : HttpRequest :=
  request "POST" "application/vnd.github+json" appToken u

/-- The request for a diff. -/
def diffRequest (token : String) (u : Url) : HttpRequest :=
  request "GET" "application/vnd.github.v3.diff" token u

/-- Reads the answer to a request for a token. -/
def tokenIn? (body : Bytes) : Option String := do
  let d ← Document.ofJsonBytes? body
  match ← d.slots? .refused ["token"] with
  | [token] => token.required? Document.string?
  | _ => none

/-- The token in a response. -/
def tokenOf (r : HttpResponse) : Except Error String :=
  if r.isSuccess then
    match r.body.bind tokenIn? with
    | some token => .ok token
    | none =>
      .error (.host ("invalid installation token response: " ++ HttpFault.unreadable.text))
  else .error (refused r)

/-- Where tokens of an installation are asked for. -/
def tokenUrl (c : HostClient m) (installation : Nat) : String :=
  c.apiUrl ++ "/app/installations/" ++ toString installation ++ "/access_tokens"

/-- Gives a token of the app in exchange for one of an installation. -/
def exchange (c : HostClient m) (installation : Nat) (appToken : String) :
    m (Except Error String) := do
  match ← c.network.submit (c.tokenUrl installation) (tokenRequest appToken) with
  | .ok response => pure (tokenOf response)
  | .error fault => pure (.error (.host ("failed to request installation token: " ++ fault.text)))

/-- The token for a call about a pull request. -/
def token (c : HostClient m) (pr : PullRequest) : m (Except Error String) := do
  let now ← c.now
  match c.issuer.issue now, pr.installationId with
  | .ok appToken, some installation => c.exchange installation appToken
  | issued, _ => pure issued

/-- Runs a call with its token. -/
def withToken {α : Type} (c : HostClient m) (pr : PullRequest)
    (call : String → m (Except Error α)) : m (Except Error α) := do
  match ← c.token pr with
  | .ok token => call token
  | .error e => pure (.error e)

/-- Where the diff of a pull request is. -/
def diffUrl (c : HostClient m) (pr : PullRequest) : String :=
  c.apiUrl ++ "/repos/" ++ pr.owner ++ "/" ++ pr.repo ++ "/pulls/" ++ toString pr.number

/-- The diff in a response. -/
def diffOf (r : HttpResponse) : Except Error String :=
  if r.isSuccess then
    match r.text? with
    | some diff => .ok diff
    | none => .error (.host ("failed to read diff response: " ++ HttpFault.unreadable.text))
  else .error (refused r)

/-- Fetches the diff of a pull request with a token. -/
def fetchDiffWith (c : HostClient m) (pr : PullRequest) (token : String) :
    m (Except Error String) := do
  match ← c.network.submit (c.diffUrl pr) (diffRequest token) with
  | .ok response => pure (diffOf response)
  | .error fault => pure (.error (.host ("failed to fetch PR diff: " ++ fault.text)))

/-- Fetches the diff of a pull request. -/
def fetchDiff (c : HostClient m) (pr : PullRequest) : m (Except Error String) :=
  c.withToken pr (c.fetchDiffWith pr)

/-! ## Comments -/

/-- The library cannot be set up. -/
def setupFailed (c : HostClient m) : SetupFault → Error
  | .root reason => .host ("invalid API url " ++ c.apiUrl ++ ": " ++ reason)
  | .other reason => .host ("failed to create GitHub client: " ++ reason)

/-- A comment cannot be posted. -/
def postFailed (reason : String) : Error := .host ("failed to post review comment: " ++ reason)

/-- The comments cannot be listed. -/
def listFailed (reason : String) : Error := .host ("failed to list comments: " ++ reason)

/-- A comment cannot be deleted. -/
def deleteFailed (reason : String) : Error := .host ("failed to delete comment: " ++ reason)

/-- Runs a call about comments with the library set up for a token. -/
def inSession {α : Type} (c : HostClient m) (call : CommentSession → m (Except Error α))
    (token : String) : m (Except Error α) :=
  match c.library.setUp ⟨c.apiUrl, token⟩ with
  | .ok () => call ⟨c.apiUrl, token⟩
  | .error fault => pure (.error (c.setupFailed fault))

/-- Posts a comment in a session. -/
def postIn (c : HostClient m) (pr : PullRequest) (body : String) (s : CommentSession) :
    m (Except Error Unit) := do
  let posted ← c.library.post s pr.owner pr.repo pr.number body
  pure (posted.mapError postFailed)

/-- Posts a comment on a pull request. -/
def postComment (c : HostClient m) (pr : PullRequest) (body : String) : m (Except Error Unit) :=
  c.withToken pr (c.inSession (c.postIn pr body))

/-- The comments on a pull request over all pages. -/
def listIn (c : HostClient m) (pr : PullRequest) (s : CommentSession) :
    m (Except String (List ListedComment)) := do
  match ← c.library.firstPage s pr.owner pr.repo pr.number 100 with
  | .ok page => c.library.allPages s page
  | .error reason => pure (.error reason)

/-- Deletes comments one after the other, up to the first that cannot be deleted; `deleted` counts
those deleted before. -/
def deleteAll (c : HostClient m) (pr : PullRequest) (s : CommentSession) (deleted : Nat) :
    List ListedComment → m (Except Error Nat)
  | [] => pure (.ok deleted)
  | comment :: rest => do
    match ← c.library.delete s pr.owner pr.repo comment.id with
    | .ok () => c.deleteAll pr s (deleted + 1) rest
    | .error reason => pure (.error (deleteFailed reason))

/-- Deletes the comments that contain a marker in a session. -/
def deleteMarkedIn (c : HostClient m) (pr : PullRequest) (marker : String) (s : CommentSession) :
    m (Except Error Nat) := do
  match ← c.listIn pr s with
  | .ok comments => c.deleteAll pr s 0 (comments.filter (·.isMarked marker))
  | .error reason => pure (.error (listFailed reason))

/-- Deletes the comments on a pull request that contain a marker. -/
def deleteMarked (c : HostClient m) (pr : PullRequest) (marker : String) : m (Except Error Nat) :=
  c.withToken pr (c.inSession (c.deleteMarkedIn pr marker))

/-- The code host. -/
def host (c : HostClient m) : Host m := ⟨c.fetchDiff, c.postComment, c.deleteMarked⟩

end HostClient

end ReviewBot
