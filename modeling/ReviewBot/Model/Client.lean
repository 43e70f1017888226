import ReviewBot.Http.Exchange
import ReviewBot.Http.Status
import ReviewBot.Json.Parser
import ReviewBot.Json.Printer
import ReviewBot.Model.Basic
import ReviewBot.Settings.Basic

set_option autoImplicit false

/-!
# Models behind a server

A server for models takes a prompt as JSON and answers with JSON, in which the reply stands under
one key. Any other answer is an error.
-/

namespace ReviewBot

/-- Asks the model that the settings name. -/
structure ModelClient (m : Type → Type) where
  /-- Reaches the server. -/
  network : Network m
  /-- Which server and which model. -/
  settings : ModelSettings

namespace ModelClient

variable {m : Type → Type} [Monad m]

/-- The URL of a path on the server. -/
def url (c : ModelClient m) (path : String) : String := c.settings.baseUrl.dropEndChar '/' ++ path

/-- The question that is sent. -/
def question (c : ModelClient m) (prompt : String) : Json :=
  .object
    [("model", .text c.settings.model),
     ("prompt", .text prompt),
     ("stream", .bool false),
     ("temperature", .double ⟨0x3FE6666666666666⟩)] -- 0.7

/-- The request with a question. -/
def request (c : ModelClient m) (prompt : String) (u : Url) : HttpRequest where
  method := "POST"
  url := u
  accept := some "*/*"
  contentType := some "application/json"
  body := Text.utf8 (c.question prompt).compact

/-- The reply in an answer. -/
def replyIn (answer : Json) : Except Error String :=
  match (answer.get? "response").bind Json.text? with
  | some reply => .ok reply
  | none => .error (.llm ("unexpected response structure: " ++ answer.compact))

/-- The reply in a response. -/
def replyOf (r : HttpResponse) : Except Error String :=
  if r.isSuccess then
    match r.body.bind Json.ofBytes? with
    | some answer => replyIn answer
    | none => .error (.llm ("failed to parse response: " ++ HttpFault.unreadable.text))
  else .error (.llm ("LLM API error " ++ Status.text r.status ++ ": " ++ r.text))

/-- The reply to a prompt. -/
def generate (c : ModelClient m) (prompt : String) : m (Except Error String) := do
  match ← c.network.submit (c.url "/api/generate") (c.request prompt) with
  | .ok response => pure (replyOf response)
  | .error fault => pure (.error (.llm ("request failed: " ++ fault.text)))

/-- The server answers. -/
def isAvailable (c : ModelClient m) : m Bool := do
  match ← c.network.submit (c.url "/api/tags") fun u =>
      { method := "GET", url := u, accept := some "*/*" } with
  | .ok response => pure response.isSuccess
  | .error _ => pure false

/-- The model. -/
def model (c : ModelClient m) : Model m := ⟨c.settings.model, c.generate⟩

end ModelClient

end ReviewBot
