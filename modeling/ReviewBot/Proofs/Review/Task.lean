import ReviewBot.Host.Publication
import ReviewBot.Proofs.Host.Calls

set_option autoImplicit false

/-!
# Reviews as tasks

A task is a computation that can be stopped whenever it asks the model or calls the host. A review
in this form makes no calls but those of `CompleteReview`: where the host reports no error, a review
that has ended has fetched the diff and then, unless the diff was too large, deleted the earlier
reviews and posted one of its own (`Reviewer.completeReview_of_path`).
-/

namespace ReviewBot

/-- A computation that can be stopped: it has ended, or it waits for an answer. -/
inductive Task (α : Type) where
  /-- The computation has ended. -/
  | done (result : α)
  /-- The model is asked. -/
  | ask (prompt : String) (next : Except Error String → Task α)
  /-- The host is called. -/
  | call (c : HostCall) (next : Except Error c.Result → Task α)

namespace Task

variable {α β : Type}

/-- A task, and after it one that depends on its result. -/
def bind : Task α → (α → Task β) → Task β
  | done a, f => f a
  | ask prompt next, f => .ask prompt fun reply => (next reply).bind f
  | call c next, f => .call c fun answer => (next answer).bind f

instance : Monad Task where
  pure := done
  bind := bind

/-- The host that a task calls. -/
def host : Host Task := .ofCalls fun c => .call c .done

/-- The model that a task asks. -/
def model (name : String) : Model Task := ⟨name, fun prompt => .ask prompt .done⟩

/-- The events lead from one state of a task to another. -/
inductive Path : Task α → List HostEvent → Task α → Prop
  | nil (t : Task α) : Path t [] t
  | ask {prompt : String} {next : Except Error String → Task α} {events : List HostEvent}
      {t : Task α} (reply : Except Error String) :
      Path (next reply) events t → Path (.ask prompt next) events t
  | call {c : HostCall} {next : Except Error c.Result → Task α} {events : List HostEvent}
      {t : Task α} (answer : Except Error c.Result) :
      Path (next answer) events t → Path (.call c next) (.ofCall c answer :: events) t

namespace Path

theorem trans {t u v : Task α} {front back : List HostEvent} (h : Path t front u)
    (h' : Path u back v) : Path t (front ++ back) v := by
  induction h with
  | nil t => exact h'
  | ask reply _ ih => exact .ask reply (ih h')
  | call answer _ ih => exact .call answer (ih h')

theorem of_done {a b : α} {events : List HostEvent} (h : Path (done a) events (done b)) :
    events = [] ∧ a = b := by
  cases h with
  | nil => exact ⟨rfl, rfl⟩

theorem of_ask {prompt : String} {next : Except Error String → Task α} {events : List HostEvent}
    {a : α} (h : Path (.ask prompt next) events (done a)) :
    ∃ reply, Path (next reply) events (done a) := by
  cases h with
  | ask reply h => exact ⟨reply, h⟩

theorem of_call {c : HostCall} {next : Except Error c.Result → Task α} {events : List HostEvent}
    {a : α} (h : Path (.call c next) events (done a)) :
    ∃ answer later, events = .ofCall c answer :: later ∧ Path (next answer) later (done a) := by
  cases h with
  | call answer h => exact ⟨answer, _, rfl, h⟩

/-- A task that ends has ended its first part before the second. -/
theorem of_bind {t : Task α} {f : α → Task β} {events : List HostEvent} {b : β}
    (h : Path (t.bind f) events (done b)) :
    ∃ a front back, events = front ++ back ∧ Path t front (done a) ∧ Path (f a) back (done b) := by
  -- The events before `t` ends belong to the first part, so each of them moves to `front`.
  induction t generalizing events with
  | done a => exact ⟨a, [], events, rfl, .nil _, h⟩
  | ask prompt next ih =>
    obtain ⟨reply, hnext⟩ := of_ask h
    obtain ⟨a, front, back, hevents, hfirst, hsecond⟩ := ih reply hnext
    exact ⟨a, front, back, hevents, .ask reply hfirst, hsecond⟩
  | call c next ih =>
    obtain ⟨answer, later, hevents, hnext⟩ := of_call h
    obtain ⟨a, front, back, hlater, hfirst, hsecond⟩ := ih answer hnext
    refine ⟨a, .ofCall c answer :: front, back, ?_, .call answer hfirst, hsecond⟩
    rw [hevents, hlater, List.cons_append]

/-- A call on the host is answered before the task goes on. -/
theorem of_call_bind {c : HostCall} {f : Except Error c.Result → Task β} {events : List HostEvent}
    {b : β} (h : Path ((Task.call c done).bind f) events (done b)) :
    ∃ answer later, events = .ofCall c answer :: later ∧ Path (f answer) later (done b) :=
  of_call h

end Path

end Task

/-! ## What a review calls -/

/-- The pipeline of a task, which asks for what the model says. -/
def Pipeline.inTask {m : Type → Type} (p : Pipeline m) : Pipeline Task :=
  ⟨p.rules, p.model.map fun model => Task.model model.name, p.limits⟩

/-- A review that is a task, with earlier reviews to be deleted. -/
def Pipeline.taskReviewer {m : Type → Type} (p : Pipeline m) : Reviewer Task :=
  ⟨Task.host, p.inTask, true⟩

/-- The events are those of a whole review in which the host has reported no error. -/
inductive CompleteReview (limits : Limits) (pr : PullRequest) : List HostEvent → Prop
  | large {diff : String} : limits.isExceededBy diff = true →
      CompleteReview limits pr [.fetched pr (.ok diff)]
  | published {diff : String} (count : Nat) (findings : List Finding) :
      limits.isExceededBy diff = false →
      CompleteReview limits pr
        [.fetched pr (.ok diff), .deleted pr Markdown.marker (.ok count),
          .posted pr (Markdown.render findings) (.ok ())]

namespace Task

theorem events_of_model {name : String} {pr : PullRequest} {chunks : List Chunk}
    {events : List HostEvent} {findings : List Finding}
    (h : Path ((model name).review pr chunks) events (done findings)) : events = [] := by
  induction chunks generalizing events findings with
  | nil => exact h.of_done.1
  | cons chunk rest ih =>
    obtain ⟨answer, front, back, rfl, hask, hrest⟩ := Path.of_bind h
    obtain ⟨reply, hask⟩ := Path.of_ask hask
    obtain ⟨later, front', back', rfl, hlater, hdone⟩ := Path.of_bind hrest
    rw [hask.of_done.1, ih hlater, hdone.of_done.1]
    rfl

theorem of_analyze {m : Type → Type} {p : Pipeline m} {pr : PullRequest} {diff : String}
    {events : List HostEvent} {report? : Option Report}
    (h : Path (p.inTask.analyze pr diff) events (done report?)) :
    events = [] ∧ (report? = none ↔ p.limits.isExceededBy diff = true) := by
  unfold Pipeline.analyze at h
  have hlimits : p.inTask.limits = p.limits := rfl
  rw [hlimits] at h
  by_cases hlarge : p.limits.isExceededBy diff = true
  · rw [if_pos hlarge] at h
    obtain ⟨hevents, hreport⟩ := Path.of_done h
    exact ⟨hevents, fun _ => hlarge, fun _ => hreport.symm⟩
  · rw [if_neg hlarge] at h
    obtain ⟨byModel, front, back, rfl, hmodel, hdone⟩ := Path.of_bind h
    obtain ⟨hback, hreport⟩ := Path.of_done hdone
    -- The model is asked about every chunk, but the host is not called for that.
    have hfront : front = [] := by
      unfold Pipeline.modelFindings Pipeline.inTask at hmodel
      cases hm : p.model with
      | none =>
        rw [hm] at hmodel
        exact (Path.of_done hmodel).1
      | some model =>
        rw [hm] at hmodel
        exact events_of_model hmodel
    refine ⟨by rw [hfront, hback]; rfl, fun hnone => ?_, fun h => absurd h hlarge⟩
    rw [hnone] at hreport
    exact absurd hreport nofun

end Task

/-- A review that has ended without an error of the host is complete. -/
theorem Reviewer.completeReview_of_path {m : Type → Type} {p : Pipeline m} {pr : PullRequest}
    {events : List HostEvent} (h : Task.Path (p.taskReviewer.process pr) events (.done ()))
    (hok : ∀ event ∈ events, event.Succeeds) : CompleteReview p.limits pr events := by
  obtain ⟨outcome, front, back, rfl, hreview, hend⟩ := Task.Path.of_bind h
  -- Nobody waits for the outcome, so nothing is called after the review.
  rw [(Task.Path.of_done hend).1, List.append_nil] at hok ⊢
  obtain ⟨answer, later, rfl, hfetched⟩ := Task.Path.of_call_bind (c := .fetch pr) hreview
  obtain ⟨diff, rfl⟩ := hok _ List.mem_cons_self
  obtain ⟨report?, quiet, rest, rfl, hanalyze, hconclude⟩ := Task.Path.of_bind
    (t := p.inTask.analyze pr diff) hfetched
  obtain ⟨rfl, hnone⟩ := Task.of_analyze hanalyze
  cases report? with
  | none =>
    rw [(Task.Path.of_done hconclude).1]
    exact .large (hnone.1 rfl)
  | some report =>
    have hsize : p.limits.isExceededBy diff = false := by simpa using hnone
    obtain ⟨published, front, back, rfl, hpublish, hend⟩ := Task.Path.of_bind
      (t := Task.host.publish true pr report.findings) hconclude
    obtain ⟨deleted, later, rfl, hpost⟩ :=
      Task.Path.of_call_bind (c := .delete pr Markdown.marker) hpublish
    obtain ⟨posted, last, rfl, hposted⟩ :=
      Task.Path.of_call (c := .post pr (Markdown.render report.findings)) hpost
    -- Nothing is called after the post, whatever its answer is.
    have hback : back = [] := by
      cases published with
      | error e => exact (Task.Path.of_done hend).1
      | ok u => exact (Task.Path.of_done hend).1
    rw [hback, (Task.Path.of_done hposted).1] at hok ⊢
    obtain ⟨count, rfl⟩ := hok (.deleted pr Markdown.marker deleted)
      (List.mem_cons_of_mem _ List.mem_cons_self)
    obtain rfl := hok (.posted pr (Markdown.render report.findings) posted)
      (List.mem_cons_of_mem _ (List.mem_cons_of_mem _ List.mem_cons_self))
    exact .published count report.findings hsize

end ReviewBot
