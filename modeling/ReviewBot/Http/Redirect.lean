import ReviewBot.Http.Exchange

set_option autoImplicit false

/-!
# Requests that are referred elsewhere

A server may answer that what is asked for stands at another place. A network over a wire goes
there, up to ten times: by the same request, or by one without a body where the answer says so. What
shows who asks is not taken to another host.
-/

namespace ReviewBot

/-- Takes single requests to servers. -/
structure Wire (m : Type → Type) where
  /-- Sends a request; there is no response when no server can be reached. -/
  exchange : HttpRequest → m (Option HttpResponse)

namespace Url

/-- The authority with its port, also if that is the usual one. -/
def endpoint (u : Url) : Option String :=
  u.authority.map fun authority =>
    match authority.toList.reverse.dropWhile (·.isDigit) with
    | ':' :: _ => authority
    | _ => authority ++ ":" ++ toString ((usualPort? u.scheme).getD 0)

/-- The path with the last segment left out. -/
def directory (path : List Char) : List Char := (path.reverse.dropWhile (· ≠ '/')).reverse

/-- What stands at a place that is written without a scheme, as seen from a URL of the web. -/
def beside? (u : Url) (place : List Char) : Option Url := do
  let authority ← u.authority
  let port ← usualPort? u.scheme
  let (place, fragment) := match Text.splitChar? '#' place with
    | some (place, fragment) => (place, some (String.ofList (Percent.encode " \"<>\x60" fragment)))
    | none => (place, none)
  let path := u.target.toList.takeWhile (· ≠ '?')
  let here (target : List Char) : Option Url :=
    ofWeb? u.scheme port fragment (authority.toList ++ target)
  match place with
  | [] => here u.target.toList
  | '?' :: _ => here (path ++ place)
  | first :: rest =>
    if isSlash first then
      if rest.head?.any isSlash then ofWeb? u.scheme port fragment place else here place
    else here (directory path ++ place)

/-- The URL that is written, which may be seen from another one. -/
def join? (u : Url) (written : String) : Option Url :=
  match scheme? (clean written.toList) with
  | none => u.beside? (clean written.toList)
  | some (scheme, rest) =>
    if scheme = u.scheme && (rest.takeWhile isSlash).length < 2 then u.beside? rest
    else read? written

end Url

namespace HttpResponse

/-- The response refers to another place. -/
def isRedirect (r : HttpResponse) : Bool := [301, 302, 303, 307, 308].contains r.status

/-- The place that the response to a request for a URL refers to. -/
def place? (r : HttpResponse) (u : Url) : Option Url :=
  if r.isRedirect then
    (r.headers.find? fun h => h.1.toLower = "location").bind fun h =>
      (Text.ofUtf8? h.2).bind u.join?
  else none

end HttpResponse

/-- The request at another place, as a response with the given status asks for it. -/
def HttpRequest.redirected (r : HttpRequest) (status : Nat) (u : Url) : HttpRequest :=
  let r : HttpRequest :=
    if status = 307 || status = 308 then r
    else
      { r with
        method := if r.method = "HEAD" then "HEAD" else "GET"
        contentType := none
        body := [] }
  { r with
    url := u
    authorization := if u.endpoint = r.url.endpoint then r.authorization else none }

namespace Wire

variable {m : Type → Type} [Monad m]

/-- Sends a request and follows its answers to other places, up to `n` times. -/
def follow (w : Wire m) : Nat → HttpRequest → m (Except HttpFault HttpResponse)
  | 0, r => do
    match ← w.exchange r with
    | none => pure (.error (.unreachable r.url))
    | some response =>
      pure (if (response.place? r.url).isSome then .error (.misled r.url) else .ok response)
  | n + 1, r => do
    match ← w.exchange r with
    | none => pure (.error (.unreachable r.url))
    | some response =>
      match response.place? r.url with
      | none => pure (.ok response)
      | some u =>
        if u.isHttp then w.follow n (r.redirected response.status u)
        else pure (.error (.unsupported u))

/-- The network over a wire. -/
def network (w : Wire m) : Network m := ⟨w.follow 10⟩

end Wire

end ReviewBot
