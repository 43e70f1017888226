import ReviewBot.Http.Headers
import ReviewBot.Json.Parser
import ReviewBot.Webhook.Event
import ReviewBot.Webhook.Signature

set_option autoImplicit false

/-!
# Deliveries

The code host delivers messages with headers. A delivery leads to a review only if its signature is
that of its body, it is about a pull request, and the action is one after which pull requests are
reviewed; `Verifier.judge` says which of these fails first.
-/

namespace ReviewBot

/-- A message of the code host. -/
structure Delivery where
  /-- The headers. -/
  headers : Headers
  /-- The message itself. -/
  body : Bytes

namespace Delivery

/-- The signature that is stated. -/
def signature? (d : Delivery) : Option String := d.headers.text? "x-hub-signature-256"

/-- The kind of event that is stated. -/
def eventName? (d : Delivery) : Option String := d.headers.text? "x-github-event"

/-- The action in a message; one that is not a text counts as empty. -/
def actionOf (message : Json) : String := ((message.get? "action").bind Json.text?).getD ""

end Delivery

/-- What comes of a delivery. -/
inductive Verdict where
  /-- The signature is missing or not that of the body. -/
  | unsigned
  /-- The delivery is not about a pull request. -/
  | otherEvent
  /-- The message does not have the expected form. -/
  | malformed
  /-- Pull requests are not reviewed after the action. -/
  | otherAction
  /-- The pull request is reviewed. -/
  | accepted (pullRequest : PullRequest)
  deriving DecidableEq

namespace Verdict

/-- The status of the reply. -/
def status : Verdict → Nat
  | unsigned => 401
  | otherEvent => 200
  | malformed => 500
  | otherAction => 200
  | accepted _ => 202

/-- The text of the reply. -/
def text : Verdict → String
  | unsigned => "Invalid signature"
  | otherEvent => "Event ignored"
  | malformed => "Error processing webhook"
  | otherAction => "Action ignored"
  | accepted _ => "Processing started"

/-- The pull request that is reviewed. -/
def pullRequest? : Verdict → Option PullRequest
  | accepted pr => some pr
  | _ => none

end Verdict

/-- What comes of a message about a pull request. -/
def judgeMessage (message : Json) : Verdict :=
  if PullRequestEvent.isReviewable (Delivery.actionOf message) then
    match PullRequestEvent.ofDocument? message.toDocument with
    | some event => .accepted event.pullRequest
    | none => .malformed
  else .otherAction

/-- What comes of a delivery. -/
def Verifier.judge (v : Verifier) (d : Delivery) : Verdict :=
  -- Nothing of a delivery is looked at before its signature.
  if v.accepts d.body d.signature? then
    if d.eventName? = some "pull_request" then
      match Json.ofBytes? d.body with
      | some message => judgeMessage message
      | none => .malformed
    else .otherEvent
  else .unsigned

end ReviewBot
