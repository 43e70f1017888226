import ReviewBot.Host.Publication
import ReviewBot.Webhook.Delivery

set_option autoImplicit false

/-!
# The server for deliveries

The server takes deliveries at one path and says at another that it is well. An accepted pull
request is handed over for review before the reply goes out; nothing else of a delivery has any
effect.
-/

namespace ReviewBot

/-- A reply of the server. -/
structure Reply where
  /-- The status. -/
  status : Nat
  /-- The text. -/
  text : String
  deriving DecidableEq

/-- A request to the server. -/
structure Request where
  /-- The method. -/
  method : String
  /-- The path, and perhaps a query after it. -/
  target : String
  /-- Headers and body. -/
  delivery : Delivery

/-- The server for deliveries. -/
structure WebhookServer (m : Type → Type) where
  /-- Checks the signatures of deliveries. -/
  verifier : Verifier
  /-- Hands a pull request over for review. -/
  dispatch : PullRequest → m Unit

namespace WebhookServer

variable {m : Type → Type} [Monad m]

/-- The server that has accepted pull requests reviewed. -/
def reviewing (verifier : Verifier) (r : Reviewer m) : WebhookServer m := ⟨verifier, r.process⟩

/-- The reply that says that the server is well. -/
def health : Reply := ⟨200, "OK"⟩

/-- Takes a delivery. -/
def deliver (s : WebhookServer m) (d : Delivery) : m Reply := do
  let verdict := s.verifier.judge d
  match verdict.pullRequest? with
  | some pr => s.dispatch pr
  | none => pure ()
  pure ⟨verdict.status, verdict.text⟩

/-- Takes deliveries one after the other. -/
def deliverAll (s : WebhookServer m) : List Delivery → m (List Reply)
  | [] => pure []
  | d :: rest => do
    let reply ← s.deliver d
    let later ← s.deliverAll rest
    pure (reply :: later)

/-- The path without the query. -/
def path (target : String) : String := String.ofList (target.toList.takeWhile (· ≠ '?'))

/-- The reply to a method that a path does not know. -/
def wrongMethod : Reply := ⟨405, ""⟩

/-- The reply at a path that does not exist. -/
def unknownPath : Reply := ⟨404, ""⟩

/-- Answers a request. -/
def answer (s : WebhookServer m) (r : Request) : m Reply :=
  match path r.target with
  | "/webhook/github" => if r.method = "POST" then s.deliver r.delivery else pure wrongMethod
  | "/webhook/health" =>
    match r.method with
    | "GET" => pure health
    | "HEAD" => pure { health with text := "" }
    | _ => pure wrongMethod
  | _ => pure unknownPath

end WebhookServer

end ReviewBot
