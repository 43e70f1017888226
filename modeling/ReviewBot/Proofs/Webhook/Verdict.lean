import ReviewBot.Proofs.Webhook.Signature
import ReviewBot.Webhook.Delivery

set_option autoImplicit false

/-!
# Verdicts

What a delivery must be so that it leads to a review: signed under the secret (`Signed`) and the
announcement of a pull request after an action that calls for a review (`Announces`). The verdict is
`accepted` exactly in this case (`judge_eq_accepted_iff`), and `unsigned` exactly if the signature
fails, whatever else the delivery says (`judge_eq_unsigned_iff`).
-/

namespace ReviewBot

namespace Delivery

/-- There is a secret, it is not empty, and the first header for signatures states the code of the
body under it. -/
def Signed (v : Verifier) (d : Delivery) : Prop :=
  ∃ secret signature, v.secret = some secret ∧ secret ≠ "" ∧
    d.headers.text? "x-hub-signature-256" = some signature ∧
    Verifier.statedCode? signature = some (Sha256.hmac (Text.utf8 secret) d.body)

/-- The first header for events says that the body is about a pull request, and the body is the
message of an event on `pr` after an action that calls for a review. -/
def Announces (d : Delivery) (pr : PullRequest) : Prop :=
  d.headers.text? "x-github-event" = some "pull_request" ∧
    ∃ message action event, Json.ofBytes? d.body = some message ∧
      (message.get? "action").bind Json.text? = some action ∧
      action ∈ ["opened", "synchronize", "reopened"] ∧
      PullRequestEvent.ofDocument? message.toDocument = some event ∧ event.pullRequest = pr

end Delivery

namespace Verifier

/-- A signature is accepted exactly if the delivery is signed. -/
theorem accepts_iff {v : Verifier} {d : Delivery} :
    v.accepts d.body d.signature? = true ↔ d.Signed v :=
  accepts_eq_true_iff

end Verifier

/-- An action calls for a review if it is one of three texts. -/
theorem isReviewable_actionOf_iff {message : Json} :
    PullRequestEvent.isReviewable (Delivery.actionOf message) = true ↔
      ∃ action, (message.get? "action").bind Json.text? = some action ∧
        action ∈ ["opened", "synchronize", "reopened"] := by
  unfold PullRequestEvent.isReviewable Delivery.actionOf
  cases (message.get? "action").bind Json.text? with
  | none => decide
  | some action =>
    show ["opened", "synchronize", "reopened"].contains action = true ↔ _
    rw [List.contains_iff_mem]
    constructor
    · intro h
      exact ⟨action, rfl, h⟩
    · rintro ⟨action', e, h⟩
      rw [Option.some.inj e]
      exact h

theorem judgeMessage_eq_accepted_iff {message : Json} {pr : PullRequest} :
    judgeMessage message = .accepted pr ↔
      ∃ action event, (message.get? "action").bind Json.text? = some action ∧
        action ∈ ["opened", "synchronize", "reopened"] ∧
        PullRequestEvent.ofDocument? message.toDocument = some event ∧ event.pullRequest = pr := by
  unfold judgeMessage
  constructor
  · intro h
    split at h
    · rename_i haction
      obtain ⟨action, hget, hmem⟩ := isReviewable_actionOf_iff.1 haction
      split at h
      · rename_i event hevent
        exact ⟨action, event, hget, hmem, hevent, Verdict.accepted.inj h⟩
      · exact Verdict.noConfusion h
    · exact Verdict.noConfusion h
  · rintro ⟨action, event, hget, hmem, hevent, rfl⟩
    rw [if_pos (isReviewable_actionOf_iff.2 ⟨action, hget, hmem⟩), hevent]

theorem judgeMessage_ne_unsigned (message : Json) : judgeMessage message ≠ .unsigned := by
  unfold judgeMessage
  split
  · split <;> exact Verdict.noConfusion
  · exact Verdict.noConfusion

namespace Verifier

/-- A delivery is accepted exactly if it is signed and announces a pull request. -/
theorem judge_eq_accepted_iff {v : Verifier} {d : Delivery} {pr : PullRequest} :
    v.judge d = .accepted pr ↔ d.Signed v ∧ d.Announces pr := by
  unfold judge
  rw [← accepts_iff]
  constructor
  · intro h
    split at h
    · rename_i hsigned
      split at h
      · rename_i hevent
        split at h
        · rename_i message hmessage
          obtain ⟨action, event, hjudged⟩ := judgeMessage_eq_accepted_iff.1 h
          exact ⟨hsigned, hevent, message, action, event, hmessage, hjudged⟩
        · exact Verdict.noConfusion h
      · exact Verdict.noConfusion h
    · exact Verdict.noConfusion h
  · rintro ⟨hsigned, hevent, message, action, event, hmessage, hjudged⟩
    have hname : d.eventName? = some "pull_request" := hevent
    rw [if_pos hsigned, if_pos hname, hmessage]
    exact judgeMessage_eq_accepted_iff.2 ⟨action, event, hjudged⟩

/-- Only the signature decides whether a delivery counts as unsigned. -/
theorem judge_eq_unsigned_iff {v : Verifier} {d : Delivery} :
    v.judge d = .unsigned ↔ ¬ d.Signed v := by
  unfold judge
  rw [← accepts_iff]
  constructor
  · intro h hsigned
    rw [if_pos hsigned] at h
    -- Behind the signature no verdict is `unsigned`.
    split at h
    · split at h
      · exact judgeMessage_ne_unsigned _ h
      · exact Verdict.noConfusion h
    · exact Verdict.noConfusion h
  · intro h
    rw [if_neg h]

end Verifier

namespace Verdict

theorem status_eq_accepted_iff {verdict : Verdict} :
    verdict.status = 202 ↔ ∃ pr, verdict = .accepted pr := by
  cases verdict with
  | accepted pr => exact ⟨fun _ => ⟨pr, rfl⟩, fun _ => rfl⟩
  | _ =>
    refine ⟨fun h => absurd h (by decide), ?_⟩
    rintro ⟨pr, h⟩
    exact Verdict.noConfusion h

theorem status_of_refused {verdict : Verdict} (hunsigned : verdict ≠ .unsigned)
    (haccepted : ∀ pr, verdict ≠ .accepted pr) : verdict.status = 200 ∨ verdict.status = 500 := by
  cases verdict with
  | unsigned => exact absurd rfl hunsigned
  | otherEvent => exact Or.inl rfl
  | malformed => exact Or.inr rfl
  | otherAction => exact Or.inl rfl
  | accepted pr => exact absurd rfl (haccepted pr)

end Verdict

end ReviewBot
