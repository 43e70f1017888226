import ReviewBot.Http.Headers
import ReviewBot.Http.Url

set_option autoImplicit false

/-!
# Requests and responses

A network is a library that takes requests to servers and gives back the responses. It works in a
monad `m`, and nothing is laid down about what it does there: it may send more requests than the one
it is given, where a server refers it to another place.
-/

namespace ReviewBot

/-- A request to a server. -/
structure HttpRequest where
  /-- The method. -/
  method : String
  /-- Where it goes. -/
  url : Url
  /-- Which kinds of answer are wanted. -/
  accept : Option String := none
  /-- Who asks. -/
  authorization : Option String := none
  /-- Which program asks. -/
  userAgent : Option String := none
  /-- Of what kind the body is. -/
  contentType : Option String := none
  /-- The body. -/
  body : Bytes := []
  deriving DecidableEq

/-- The response of a server. -/
structure HttpResponse where
  /-- The status. -/
  status : Nat
  /-- The headers. -/
  headers : Headers
  /-- The body, unless the connection breaks off before its end. -/
  body : Option Bytes
  deriving DecidableEq

namespace HttpResponse

/-- The request has succeeded. -/
def isSuccess (r : HttpResponse) : Bool := 200 ≤ r.status && r.status < 300

/-- The body as a text. -/
def text? (r : HttpResponse) : Option String := r.body.map Text.ofUtf8Lossy

/-- The body as a text, which is empty if the connection breaks off. -/
def text (r : HttpResponse) : String := r.text?.getD ""

end HttpResponse

/-- Why there is no response, or why it cannot be used. -/
inductive HttpFault where
  /-- There is no such URL, or a header may not be sent. -/
  | malformed
  /-- The URL is not one that requests are sent to. -/
  | unsupported (url : Url)
  /-- No server can be reached. -/
  | unreachable (url : Url)
  /-- Servers refer to one another without end. -/
  | misled (url : Url)
  /-- The body breaks off, or does not have the expected form. -/
  | unreadable
  deriving DecidableEq

/-- The fault in messages. -/
def HttpFault.text : HttpFault → String
  | malformed => "builder error"
  | unsupported url => "builder error for url (" ++ url.text ++ ")"
  | unreachable url => "error sending request for url (" ++ url.text ++ ")"
  | misled url => "error following redirect for url (" ++ url.text ++ ")"
  | unreadable => "error decoding response body"

/-- Something that takes requests to servers. -/
structure Network (m : Type → Type) where
  /-- Sends a request. -/
  send : HttpRequest → m (Except HttpFault HttpResponse)

namespace Network

variable {m : Type → Type} [Monad m]

/-- The text may be sent as the value of a header. -/
def isHeaderValue (value : String) : Bool :=
  value.toList.all fun c => c = '\t' || (0x20 ≤ c.toNat && c.toNat ≠ 0x7F)

/-- Sends the request for a URL, if it is one that requests are sent to. -/
def dispatch (n : Network m) (request : HttpRequest) : m (Except HttpFault HttpResponse) := do
  if !(request.authorization.all isHeaderValue) then pure (.error .malformed)
  else if !request.url.isHttp then pure (.error (.unsupported request.url))
  else n.send request

/-- Sends a request to the URL that is written. -/
def submit (n : Network m) (url : String) (request : Url → HttpRequest) :
    m (Except HttpFault HttpResponse) :=
  match Url.read? url with
  | none => pure (.error .malformed)
  | some u => n.dispatch (request u)

end Network

end ReviewBot
