import Mathlib.Data.List.Forall2
import ReviewBot.Proofs.Webhook.Verdict
import ReviewBot.Webhook.Server

set_option autoImplicit false

/-!
# The gate before reviews

A run of deliveries hands over for review exactly the pull requests of the deliveries that are
signed and announce one, in order and once each, and does nothing else (`deliverAll_gate`). The
statement holds for any server in any monad, so that handing over may have any effect.
-/

namespace ReviewBot

/-- The pull requests `prs` are those that the deliveries hand over for review, in order. -/
inductive Dispatched (v : Verifier) : List Delivery → List PullRequest → Prop
  | nil : Dispatched v [] []
  | accepted {d : Delivery} {pr : PullRequest} {ds : List Delivery} {prs : List PullRequest} :
      d.Signed v → d.Announces pr → Dispatched v ds prs → Dispatched v (d :: ds) (pr :: prs)
  | refused {d : Delivery} {ds : List Delivery} {prs : List PullRequest} :
      ¬ (d.Signed v ∧ ∃ pr, d.Announces pr) → Dispatched v ds prs → Dispatched v (d :: ds) prs

/-- The status of the reply tells what has become of the delivery. -/
structure Answered (v : Verifier) (d : Delivery) (r : Reply) : Prop where
  accepted_iff : r.status = 202 ↔ d.Signed v ∧ ∃ pr, d.Announces pr
  unsigned : ¬ d.Signed v → r.status = 401
  refused : d.Signed v → (¬ ∃ pr, d.Announces pr) → r.status = 200 ∨ r.status = 500

namespace Verifier

/-- The reply to a delivery. -/
def replyTo (v : Verifier) (d : Delivery) : Reply := ⟨(v.judge d).status, (v.judge d).text⟩

/-- The pull requests of the accepted deliveries. -/
def pullRequestsOf (v : Verifier) (ds : List Delivery) : List PullRequest :=
  ds.filterMap fun d => (v.judge d).pullRequest?

theorem exists_judge_eq_accepted_iff {v : Verifier} {d : Delivery} :
    (∃ pr, v.judge d = .accepted pr) ↔ d.Signed v ∧ ∃ pr, d.Announces pr := by
  constructor
  · rintro ⟨pr, h⟩
    obtain ⟨hsigned, hannounces⟩ := judge_eq_accepted_iff.1 h
    exact ⟨hsigned, pr, hannounces⟩
  · rintro ⟨hsigned, pr, hannounces⟩
    exact ⟨pr, judge_eq_accepted_iff.2 ⟨hsigned, hannounces⟩⟩

theorem answered_replyTo (v : Verifier) (d : Delivery) : Answered v d (v.replyTo d) where
  accepted_iff := Verdict.status_eq_accepted_iff.trans exists_judge_eq_accepted_iff
  unsigned := by
    intro h
    have hjudge : v.judge d = .unsigned := judge_eq_unsigned_iff.2 h
    show (v.judge d).status = 401
    rw [hjudge]
    rfl
  refused := by
    intro hsigned hannounces
    refine Verdict.status_of_refused (fun h => judge_eq_unsigned_iff.1 h hsigned) ?_
    intro pr h
    exact hannounces ⟨pr, (judge_eq_accepted_iff.1 h).2⟩

theorem pullRequest?_judge_of_refused {v : Verifier} {d : Delivery}
    (h : ¬ ∃ pr, v.judge d = .accepted pr) : (v.judge d).pullRequest? = none := by
  cases hjudge : v.judge d with
  | accepted pr => exact absurd ⟨pr, hjudge⟩ h
  | _ => rfl

theorem pullRequestsOf_cons (v : Verifier) (d : Delivery) (ds : List Delivery) :
    v.pullRequestsOf (d :: ds) = (v.judge d).pullRequest?.toList ++ v.pullRequestsOf ds := by
  unfold pullRequestsOf
  rw [List.filterMap_cons]
  cases (v.judge d).pullRequest? with
  | none => rfl
  | some pr => rfl

theorem dispatched_pullRequestsOf (v : Verifier) (ds : List Delivery) :
    Dispatched v ds (v.pullRequestsOf ds) := by
  induction ds with
  | nil => exact .nil
  | cons d rest ih =>
    rw [pullRequestsOf_cons]
    by_cases h : ∃ pr, v.judge d = .accepted pr
    · obtain ⟨pr, hjudge⟩ := h
      obtain ⟨hsigned, hannounces⟩ := judge_eq_accepted_iff.1 hjudge
      rw [hjudge]
      exact .accepted hsigned hannounces ih
    · rw [pullRequest?_judge_of_refused h]
      exact .refused (fun hd => h (exists_judge_eq_accepted_iff.2 hd)) ih

/-- Deliveries that are not accepted have no influence on what is handed over. -/
theorem pullRequestsOf_filter (v : Verifier) (ds : List Delivery) :
    v.pullRequestsOf (ds.filter fun d => (v.replyTo d).status = 202) = v.pullRequestsOf ds := by
  induction ds with
  | nil => rfl
  | cons d rest ih =>
    rw [pullRequestsOf_cons]
    by_cases h : (v.replyTo d).status = 202
    · rw [List.filter_cons_of_pos (by simpa using h), pullRequestsOf_cons, ih]
    · have hnone := pullRequest?_judge_of_refused (mt Verdict.status_eq_accepted_iff.2 h)
      rw [List.filter_cons_of_neg (by simpa using h), ih, hnone]
      rfl

end Verifier

namespace WebhookServer

variable {m : Type → Type} [Monad m] [LawfulMonad m]

theorem deliver_eq (s : WebhookServer m) (d : Delivery) :
    s.deliver d = (do
      forM (s.verifier.judge d).pullRequest?.toList s.dispatch
      pure (s.verifier.replyTo d)) := by
  unfold deliver
  cases h : (s.verifier.judge d).pullRequest? with
  | none => simp [Verifier.replyTo, h]
  | some pr => simp [Verifier.replyTo, h]

/-- A run hands over the accepted pull requests and does nothing else. -/
theorem deliverAll_eq (s : WebhookServer m) (ds : List Delivery) :
    s.deliverAll ds = (do
      forM (s.verifier.pullRequestsOf ds) s.dispatch
      pure (ds.map s.verifier.replyTo)) := by
  induction ds with
  | nil => simp [deliverAll, Verifier.pullRequestsOf]
  | cons d rest ih =>
    rw [deliverAll, deliver_eq, ih, Verifier.pullRequestsOf_cons]
    simp [List.forM_append]

/-- The deliveries that are signed and announce a pull request have it handed over for review, in
order and once each. They are the ones answered with 202; unsigned deliveries are answered with 401,
all others with 200 or 500. Without the deliveries that are not answered with 202 the run would hand
over the same pull requests and give the same replies. -/
theorem deliverAll_gate (s : WebhookServer m) (ds : List Delivery) :
    ∃ prs replies,
      s.deliverAll ds = (do forM prs s.dispatch; pure replies) ∧
      Dispatched s.verifier ds prs ∧
      List.Forall₂ (Answered s.verifier) ds replies ∧
      let kept := (ds.zip replies).filter fun x => x.2.status = 202
      s.deliverAll (kept.map Prod.fst) = (do forM prs s.dispatch; pure (kept.map Prod.snd)) ∧
        Dispatched s.verifier (kept.map Prod.fst) prs := by
  refine ⟨s.verifier.pullRequestsOf ds, ds.map s.verifier.replyTo, deliverAll_eq s ds,
    s.verifier.dispatched_pullRequestsOf ds, ?_, ?_⟩
  · rw [List.forall₂_map_right_iff, List.forall₂_same]
    exact fun d _ => s.verifier.answered_replyTo d
  · intro kept
    have hkept : kept = (ds.filter fun d => (s.verifier.replyTo d).status = 202).map
        fun d => (d, s.verifier.replyTo d) := by
      show (ds.zip (ds.map s.verifier.replyTo)).filter _ = _
      rw [← List.map_prod_left_eq_zip, List.filter_map]
      rfl
    have hfst : kept.map Prod.fst = ds.filter fun d => (s.verifier.replyTo d).status = 202 := by
      rw [hkept, List.map_map]
      exact List.map_id _
    have hsnd : kept.map Prod.snd = (kept.map Prod.fst).map s.verifier.replyTo := by
      rw [hkept, List.map_map, List.map_map, List.map_map]
      rfl
    have hprs : s.verifier.pullRequestsOf (kept.map Prod.fst) = s.verifier.pullRequestsOf ds := by
      rw [hfst]
      exact s.verifier.pullRequestsOf_filter ds
    rw [deliverAll_eq, hsnd, hprs]
    refine ⟨rfl, ?_⟩
    rw [← hprs]
    exact s.verifier.dispatched_pullRequestsOf _

/-- Of two deliveries of one message the first is refused: the right signature stands only in its
second header for signatures. -/
theorem deliverAll_gate_of_forgery :
    let body := Text.utf8 ("\x7b\"action\":\"opened\"," ++
      "\"pull_request\":[1,\"t\",null,[\"u\"],[\"m\",\"\"],[\"h\",\"c\"]]," ++
      "\"repository\":[\"r\",[\"o\"]]\x7d")
    let headers : Headers :=
      [("X-GitHub-Event", Text.utf8 "pull_request"),
        ("X-Hub-Signature-256", Text.utf8
          "sha256=ba61657b44f88052ac33c994ecb68cb3906b118706ddfc522325fec068ea99f1")]
    let forged : Delivery := ⟨("x-hub-signature-256", Text.utf8 "sha256=") :: headers, body⟩
    let server : WebhookServer (StateM (List PullRequest)) :=
      ⟨⟨some "k"⟩, fun pr => modify (· ++ [pr])⟩
    let pr : PullRequest :=
      { owner := "o", repo := "r", number := 1, title := "t", authorLogin := "u", baseRef := "m",
        headRef := "h", commitSha := "c" }
    ∃ replies, (server.deliverAll [forged, ⟨headers, body⟩]).run [] = (replies, [pr]) ∧
      replies.map (·.status) = [401, 202] := by
  intro body headers forged server pr
  have hforged : server.verifier.judge forged = .unsigned := by decide +kernel
  have hsigned : server.verifier.judge ⟨headers, body⟩ = .accepted pr := by decide +kernel
  have hrefused := Verifier.judge_eq_unsigned_iff.1 hforged
  have haccepted := Verifier.judge_eq_accepted_iff.1 hsigned
  obtain ⟨prs, replies, hrun, hdispatched, hanswered, -⟩ :=
    deliverAll_gate server [forged, ⟨headers, body⟩]
  refine ⟨replies, ?_, ?_⟩
  · -- The first delivery can only be refused, and the second one only accepted with `pr`.
    have hprs : prs = [pr] := by
      cases hdispatched with
      | accepted hd _ _ => exact absurd hd hrefused
      | refused _ hrest =>
        cases hrest with
        | refused hd _ => exact absurd ⟨haccepted.1, pr, haccepted.2⟩ hd
        | accepted hd hpr hnil =>
          have hjudge := Verifier.judge_eq_accepted_iff.2 ⟨hd, hpr⟩
          rw [hsigned] at hjudge
          cases hnil
          rw [Verdict.accepted.inj hjudge]
    rw [hrun, hprs]
    rfl
  · cases hanswered with
    | cons hfirst hrest =>
      cases hrest with
      | cons hsecond hnil =>
        cases hnil
        rw [List.map_cons, List.map_cons, hfirst.unsigned hrefused,
          hsecond.accepted_iff.2 ⟨haccepted.1, pr, haccepted.2⟩]
        rfl

end WebhookServer

end ReviewBot
