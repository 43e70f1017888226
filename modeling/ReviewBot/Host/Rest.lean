import ReviewBot.Host.Page
import ReviewBot.Http.Status
import ReviewBot.Json.Printer

set_option autoImplicit false

/-!
# A library over a network

One library for comments, which the program runs with: it sends its requests over a network, and
sends a request again when the code host is overloaded. The client works with any other library just
as well.
-/

namespace ReviewBot.Rest

variable {m : Type → Type} [Monad m]

/-- The root of the interface can be one. -/
def isRoot (apiUrl : String) : Bool :=
  let allowed (c : Char) : Bool := !Percent.needed " \"<>\\^\x60\x7b|\x7d" c
  apiUrl ≠ "" && apiUrl.toList.all allowed &&
    (apiUrl.startsWith "/" ||
      match Text.splitFirst? "://".toList apiUrl.toList with
      | some (scheme, rest) =>
        scheme.all (fun c => c.isAlphanum || c = '+' || c = '-' || c = '.') &&
          (rest.head?.any fun c => c ≠ '/' && c ≠ '?' && c ≠ '#')
      | none => apiUrl.toList.all fun c => c ≠ '/' && c ≠ '?' && c ≠ '#')

/-- A request about comments. -/
def request (method token : String) (body : Option Json) (u : Url) : HttpRequest where
  method := method
  url := u
  authorization := some ("Bearer " ++ token)
  userAgent := some "octocrab"
  contentType := body.map fun _ => "application/json"
  body := body.elim [] fun v => Text.utf8 v.compact

/-- The code host is overloaded. -/
def isOverload (r : HttpResponse) : Bool := (500 ≤ r.status && r.status < 600) || r.status = 429

/-- Sends a request, up to `n` times more when nothing comes back or the code host is overloaded. -/
def submit (network : Network m) (url : String) (r : Url → HttpRequest) :
    Nat → m (Except HttpFault HttpResponse)
  | 0 => network.submit url r
  | n + 1 => do
    match ← network.submit url r with
    | .ok response =>
      if isOverload response then submit network url r n else pure (.ok response)
    | .error _ => submit network url r n

/-- What has come back, if it is a success. -/
def success? : Except HttpFault HttpResponse → Except String HttpResponse
  | .ok response =>
    if response.isSuccess then .ok response else .error (Status.text response.status)
  | .error fault => .error fault.text

/-- Calls the interface. -/
def call (network : Network m) (s : CommentSession) (method url : String) (body : Option Json) :
    m (Except String HttpResponse) := do
  let answer ← submit network url (request method s.token body) 3
  pure (success? answer)

/-- Where the issues of a repository are. -/
def issuesUrl (s : CommentSession) (owner repo : String) : String :=
  s.root ++ "/repos/" ++ owner ++ "/" ++ repo ++ "/issues/"

/-- Where the comments on a pull request are. -/
def commentsUrl (s : CommentSession) (owner repo : String) (number : Nat) : String :=
  issuesUrl s owner repo ++ toString number ++ "/comments"

/-- The answer does not have the expected form. -/
def unreadable : String := HttpFault.unreadable.text

/-- The page in a response. -/
def pageOf (response : HttpResponse) : Except String CommentPage :=
  (CommentPage.ofResponse? response).elim (.error unreadable) .ok

/-- Reads one page of comments. -/
def page (network : Network m) (s : CommentSession) (url : String) :
    m (Except String CommentPage) := do
  let answer ← call network s "GET" url none
  pure (answer.bind pageOf)

/-- The comments on a page and on those after it, of which at most `n` are read. -/
def pagesFrom (network : Network m) (s : CommentSession) :
    Nat → CommentPage → m (Except String (List ListedComment))
  | _, ⟨comments, none⟩ => pure (.ok comments)
  | 0, ⟨_, some _⟩ => pure (.error "too many pages")
  | n + 1, ⟨comments, some url⟩ => do
    match ← page network s url with
    | .ok next => do
      let later ← pagesFrom network s n next
      pure (later.map (comments ++ ·))
    | .error reason => pure (.error reason)

/-- The answer to a posted comment is that comment. -/
def postedIn (response : HttpResponse) : Except String Unit :=
  if ((response.body.bind Json.ofBytes?).bind ListedComment.ofJson?).isSome then .ok ()
  else .error unreadable

/-- The library over a network. -/
def library (network : Network m) : CommentLibrary m where
  setUp s := if isRoot s.root then .ok () else .error (.root "UriParse")
  post s owner repo number body := do
    let content : Json := .object [("body", .text body)]
    let answer ← call network s "POST" (commentsUrl s owner repo number) (some content)
    pure (answer.bind postedIn)
  firstPage s owner repo number perPage :=
    page network s (commentsUrl s owner repo number ++ "?per_page=" ++ toString perPage)
  -- A listing has fewer pages than there are numbers for comments.
  allPages s first := pagesFrom network s maxLong first
  delete s owner repo id := do
    let answer ← call network s "DELETE" (issuesUrl s owner repo ++ "comments/" ++ toString id) none
    pure (answer.map fun _ => ())

end ReviewBot.Rest
