import ReviewBot.Proofs.Host.Calls
import ReviewBot.Proofs.Host.Publication
import ReviewBot.Proofs.Review.OneReview

set_option autoImplicit false

/-!
# Reviews on a host that fails

Fetching, deleting and posting may each fail, in every review of a run. Whatever fails, a review
makes the calls that it should (`HostReview.IsSafe`), and so does each review of a run, since it
begins with what the reviews before it have left (`reviewOn_safe`). A board shows what this comes to
for any script of failures (`reviewAll_safe`).
-/

namespace ReviewBot

variable {S σ : Type}

/-- A host that promises, beyond what `Host.Promises` says, that fetching touches no comment and
that posting adds the comment at the end unless it fails. -/
structure Host.Faithful (host : Host (StateM S)) (comments : S → List Comment) : Prop extends
    host.Promises comments where
  fetch_same : ∀ pr s, comments ((host.fetchDiff pr).run s).2 = comments s
  post_ok : ∀ pr body s, ((host.postComment pr body).run s).1 = .ok () →
    comments ((host.postComment pr body).run s).2 = comments s ++ [⟨pr.name, body⟩]

/-- A board is faithful, whatever its script. -/
theorem BoardScript.faithful (script : BoardScript) : script.host.Faithful Board.comments where
  toPromises := script.promises
  fetch_same := by
    intro pr b
    rfl
  post_ok := by
    intro pr body b h
    cases hfailure : script.postFailure with
    | none => simp [host, StateT.run, hfailure, Board.post, Board.note]
    | some e => simp [host, StateT.run, hfailure] at h

/-! ## One review -/

/-- One review of a run: on which pull request and host, from which state, with which calls, and
what has come of it. -/
structure HostReview (S : Type) where
  /-- The pull request. -/
  pullRequest : PullRequest
  /-- The host as it is by then. -/
  host : Host (StateM S)
  /-- The state that the review has found. -/
  before : S
  /-- The calls with their answers, in order. -/
  events : List HostEvent
  /-- What the review has ended with. -/
  outcome : Except Error (Option Report)
  /-- The state that the review has left. -/
  after : S

namespace HostReview

/-- The review has made the calls that it should, and the comments, which are seen through
`comments`, and the outcome are what the answers make of them. -/
structure IsSafe (comments : S → List Comment) (limits : Limits) (deletePrevious : Bool)
    (r : HostReview S) : Prop where
  calls : r.events.map (·.call) = [.fetch r.pullRequest] ∨
    ∃ body, r.events.map (·.call) = .fetch r.pullRequest ::
      ((if deletePrevious then [.delete r.pullRequest Markdown.marker] else []) ++
        [.post r.pullRequest body])
  posts_iff : (∃ body answer, .posted r.pullRequest body answer ∈ r.events) ↔
    ∃ diff, .fetched r.pullRequest (.ok diff) ∈ r.events ∧ limits.isExceededBy diff = false
  fails_iff : (∃ e, r.outcome = .error e) ↔
    (∃ e, .fetched r.pullRequest (.error e) ∈ r.events) ∨
      ∃ body e, .posted r.pullRequest body (.error e) ∈ r.events
  unposted : (∀ body answer, .posted r.pullRequest body answer ∉ r.events) →
    comments r.after = comments r.before
  posted : ∀ body, .posted r.pullRequest body (.ok ()) ∈ r.events →
    let kept := comments (r.host.cleaned deletePrevious r.pullRequest
      ((r.host.fetchDiff r.pullRequest).run r.before).2)
    comments r.after = kept ++ [⟨r.pullRequest.name, body⟩] ∧ kept.Sublist (comments r.before) ∧
      (deletePrevious = false → kept = comments r.before) ∧
      ∃ report, r.outcome = .ok (some report) ∧ body = Markdown.render report.findings
  others : (comments r.after).filter (!Board.isMarked r.pullRequest.name Markdown.marker ·) =
    (comments r.before).filter (!Board.isMarked r.pullRequest.name Markdown.marker ·)

end HostReview

namespace Host

/-- The call that deletes earlier reviews, with its answer, if they are to be deleted. -/
def cleanup (host : Host (StateM S)) (deletePrevious : Bool) (pr : PullRequest) (s : S) :
    List HostEvent :=
  if deletePrevious then
    [.deleted pr Markdown.marker ((host.deleteMarked pr Markdown.marker).run s).1]
  else []

theorem conclude_some (host : Host (StateM S)) (deletePrevious : Bool) (pr : PullRequest)
    (report : Report) (s : S) :
    let body := Markdown.render report.findings
    let posted := (host.postComment pr body).run (host.cleaned deletePrevious pr s)
    host.conclude deletePrevious pr (some report) s =
      (posted.1.map fun _ => some report, posted.2) := by
  intro body posted
  rw [conclude, publish_run]

theorem conclude_recording (host : Host (StateM S)) (deletePrevious : Bool) (pr : PullRequest)
    (report : Report) (s : S) (events : List HostEvent) :
    let body := Markdown.render report.findings
    let posted := (host.postComment pr body).run (host.cleaned deletePrevious pr s)
    host.recording.conclude deletePrevious pr (some report) (s, events) =
      (posted.1.map fun _ => some report,
        (posted.2, events ++ host.cleanup deletePrevious pr s ++ [.posted pr body posted.1])) := by
  cases deletePrevious with
  | false =>
    rw [cleanup, if_neg (by decide), List.append_nil]
    rfl
  | true => rfl

namespace Faithful

variable {host : Host (StateM S)} {comments : S → List Comment}

theorem cleaned_others (h : host.Faithful comments) (deletePrevious : Bool) (pr : PullRequest)
    (s : S) :
    (comments (host.cleaned deletePrevious pr s)).filter
        (!Board.isMarked pr.name Markdown.marker ·) =
      (comments s).filter (!Board.isMarked pr.name Markdown.marker ·) := by
  cases deletePrevious with
  | false => rfl
  | true => exact h.delete_others pr Markdown.marker s

theorem cleaned_sublist (h : host.Faithful comments) (deletePrevious : Bool) (pr : PullRequest)
    (s : S) : (comments (host.cleaned deletePrevious pr s)).Sublist (comments s) := by
  cases deletePrevious with
  | false => exact List.Sublist.refl _
  | true => exact h.delete_sublist pr Markdown.marker s

end Faithful

end Host

namespace Pipeline

variable {host : Host (StateM S)} {comments : S → List Comment}

/-- A review whose diff cannot be fetched is safe. -/
theorem isSafe_of_fetch_error (h : host.Faithful comments) (limits : Limits)
    (deletePrevious : Bool) {pr : PullRequest} {s : S} {e : Error} :
    HostReview.IsSafe comments limits deletePrevious
      ⟨pr, host, s, [.fetched pr (.error e)], .error e, ((host.fetchDiff pr).run s).2⟩ where
  calls := .inl rfl
  posts_iff := by simp
  fails_iff := by simp
  unposted _ := h.fetch_same pr s
  posted := by simp
  others := by rw [h.fetch_same]

/-- A review whose diff is too large is safe. -/
theorem isSafe_of_large (h : host.Faithful comments) {limits : Limits} (deletePrevious : Bool)
    {pr : PullRequest} {s : S} {diff : String} (hlarge : limits.isExceededBy diff = true) :
    HostReview.IsSafe comments limits deletePrevious
      ⟨pr, host, s, [.fetched pr (.ok diff)], .ok none, ((host.fetchDiff pr).run s).2⟩ where
  calls := .inl rfl
  posts_iff := by simp [hlarge]
  fails_iff := by simp
  unposted _ := h.fetch_same pr s
  posted := by simp
  others := by rw [h.fetch_same]

theorem isSafe_of_published (h : host.Faithful comments) {limits : Limits} (deletePrevious : Bool)
    {pr : PullRequest} {s : S} {diff : String} (hsize : limits.isExceededBy diff = false)
    (report : Report) :
    let body := Markdown.render report.findings
    let fetched := ((host.fetchDiff pr).run s).2
    let posted := (host.postComment pr body).run (host.cleaned deletePrevious pr fetched)
    HostReview.IsSafe comments limits deletePrevious
      ⟨pr, host, s,
        [.fetched pr (.ok diff)] ++ host.cleanup deletePrevious pr fetched ++
          [.posted pr body posted.1],
        posted.1.map fun _ => some report, posted.2⟩ := by
  intro body fetched posted
  have hothers : (comments (host.cleaned deletePrevious pr fetched)).filter
      (!Board.isMarked pr.name Markdown.marker ·) =
        (comments s).filter (!Board.isMarked pr.name Markdown.marker ·) := by
    rw [h.cleaned_others, h.fetch_same]
  have hposted : ∀ body' answer, .posted pr body' answer ∈ [.fetched pr (.ok diff)] ++
      host.cleanup deletePrevious pr fetched ++ [.posted pr body posted.1] ↔
        body' = body ∧ answer = posted.1 := by
    intro body' answer
    cases deletePrevious with
    | false => simp [Host.cleanup]
    | true => simp [Host.cleanup]
  have hfetched : ∀ answer, .fetched pr answer ∈ [.fetched pr (.ok diff)] ++
      host.cleanup deletePrevious pr fetched ++ [.posted pr body posted.1] ↔
        answer = .ok diff := by
    intro answer
    cases deletePrevious with
    | false => simp [Host.cleanup]
    | true => simp [Host.cleanup]
  constructor
  case calls =>
    refine .inr ⟨body, ?_⟩
    cases deletePrevious with
    | false => rfl
    | true => rfl
  case posts_iff =>
    simp only [hposted, hfetched]
    exact ⟨fun _ => ⟨diff, rfl, hsize⟩, fun _ => ⟨body, posted.1, rfl, rfl⟩⟩
  case fails_iff =>
    simp only [hposted, hfetched]
    cases hanswer : posted.1 with
    | error e => simp [Except.map]
    | ok u => simp [Except.map]
  case unposted =>
    intro hnone
    exact absurd ((hposted body posted.1).2 ⟨rfl, rfl⟩) (hnone body posted.1)
  case posted =>
    intro body' hbody
    obtain ⟨rfl, hanswer⟩ := (hposted body' (.ok ())).1 hbody
    refine ⟨h.post_ok pr body _ hanswer.symm, ?_, ?_, report, ?_, rfl⟩
    · rw [← h.fetch_same pr s]
      exact h.cleaned_sublist deletePrevious pr fetched
    · rintro rfl
      exact h.fetch_same pr s
    · show posted.1.map _ = _
      rw [← hanswer]
      rfl
  case others =>
    cases hanswer : posted.1 with
    | error e =>
      show (comments posted.2).filter _ = _
      rw [h.post_error pr body _ e hanswer]
      exact hothers
    | ok u =>
      have hnew : [(⟨pr.name, body⟩ : Comment)].filter
          (!Board.isMarked pr.name Markdown.marker ·) = [] := by
        simp [Board.isMarked, body, Markdown.hasPart_marker_render]
      show (comments posted.2).filter _ = _
      rw [h.post_ok pr body _ hanswer, List.filter_append, hnew, List.append_nil]
      exact hothers

/-- A review on a faithful host is safe, and a record of the calls has no influence on it. -/
theorem review_safe (h : host.Faithful comments) (p : Pipeline (StateM σ)) (deletePrevious : Bool)
    (pr : PullRequest) (s : S) (events : List HostEvent) (x : σ) :
    let plain := ((Reviewer.review ⟨host.among (StateM σ), p.beside S, deletePrevious⟩ pr).run
      s).run x
    let recorded := ((Reviewer.review
      ⟨host.recording.among (StateM σ), p.beside (S × List HostEvent), deletePrevious⟩ pr).run
        (s, events)).run x
    recorded.1.1 = plain.1.1 ∧ recorded.1.2.1 = plain.1.2 ∧ recorded.2 = plain.2 ∧
      ∃ new, recorded.1.2.2 = events ++ new ∧
        HostReview.IsSafe comments p.limits deletePrevious
          ⟨pr, host, s, new, plain.1.1, plain.1.2⟩ := by
  intro plain recorded
  -- The record does not change what the host answers, so both runs take the same branches.
  cases hfetch : ((host.fetchDiff pr).run s).1 with
  | error e =>
    have hrecording : ((host.recording.fetchDiff pr).run (s, events)).1 = .error e := hfetch
    have hplain : plain = ((.error e, ((host.fetchDiff pr).run s).2), x) := by
      show StateT.run (StateT.run _ _) _ = _
      rw [review_of_fetch_error p hfetch]
      rfl
    have hrecorded : recorded =
        ((.error e, ((host.recording.fetchDiff pr).run (s, events)).2), x) := by
      show StateT.run (StateT.run _ _) _ = _
      rw [review_of_fetch_error p hrecording]
      rfl
    rw [hplain, hrecorded]
    refine ⟨rfl, rfl, rfl, [.fetched pr (.error e)], ?_,
      isSafe_of_fetch_error h p.limits deletePrevious⟩
    rw [← hfetch]
    rfl
  | ok diff =>
    have hrecording : ((host.recording.fetchDiff pr).run (s, events)).1 = .ok diff := hfetch
    have hplain : plain =
        (host.conclude deletePrevious pr ((p.analyze pr diff).run x).1
            ((host.fetchDiff pr).run s).2,
          ((p.analyze pr diff).run x).2) := by
      show StateT.run (StateT.run _ _) _ = _
      rw [review_of_fetch p hfetch]
      rfl
    have hrecorded : recorded =
        (host.recording.conclude deletePrevious pr ((p.analyze pr diff).run x).1
            (((host.fetchDiff pr).run s).2, events ++ [.fetched pr (.ok diff)]),
          ((p.analyze pr diff).run x).2) := by
      show StateT.run (StateT.run _ _) _ = _
      rw [review_of_fetch p hrecording, ← hfetch]
      rfl
    have hnone := p.analyze_eq_none_iff pr diff x
    rw [hplain, hrecorded]
    cases hreport : ((p.analyze pr diff).run x).1 with
    | none =>
      exact ⟨rfl, rfl, rfl, [.fetched pr (.ok diff)], rfl,
        isSafe_of_large h deletePrevious (hnone.1 hreport)⟩
    | some report =>
      have hsize : p.limits.isExceededBy diff = false := by
        rw [hreport] at hnone
        simpa using hnone
      rw [Host.conclude_recording, Host.conclude_some]
      refine ⟨rfl, rfl, rfl, _, ?_, isSafe_of_published h deletePrevious hsize report⟩
      simp

/-! ## Several reviews -/

/-- Runs reviews one after the other, each on the host as it is by then. -/
def reviewOn {m : Type → Type} [Monad m] (p : Pipeline m) (deletePrevious : Bool) :
    List (PullRequest × Host (StateM S)) → StateT S m (List (Except Error (Option Report)))
  | [] => pure []
  | step :: rest => do
    let reviewer : Reviewer (StateT S m) := ⟨step.2.among m, p.beside S, deletePrevious⟩
    let outcome ← reviewer.review step.1
    let later ← p.reviewOn deletePrevious rest
    pure (outcome :: later)

theorem reviewAll_eq_reviewOn {m : Type → Type} [Monad m] (p : Pipeline m) (deletePrevious : Bool)
    (steps : List (PullRequest × BoardScript)) :
    p.reviewAll deletePrevious steps =
      p.reviewOn deletePrevious (steps.map fun step => (step.1, step.2.host)) := by
  induction steps with
  | nil => rfl
  | cons step rest ih =>
    rw [List.map_cons, reviewAll, reviewOn, ih]

end Pipeline

/-- The run leads from one state to another by safe reviews, with these calls and outcomes. -/
inductive SafeRun (comments : S → List Comment) (limits : Limits) (deletePrevious : Bool) :
    S → List (PullRequest × Host (StateM S)) → List HostEvent →
      List (Except Error (Option Report)) → S → Prop
  | nil (s : S) : SafeRun comments limits deletePrevious s [] [] [] s
  | review {r : HostReview S} {steps : List (PullRequest × Host (StateM S))}
      {events : List HostEvent} {outcomes : List (Except Error (Option Report))} {s : S} :
      r.IsSafe comments limits deletePrevious →
      SafeRun comments limits deletePrevious r.after steps events outcomes s →
      SafeRun comments limits deletePrevious r.before ((r.pullRequest, r.host) :: steps)
        (r.events ++ events) (r.outcome :: outcomes) s

/-- No run touches a comment that is no review. -/
theorem SafeRun.unmarked {comments : S → List Comment} {limits : Limits} {deletePrevious : Bool}
    {s s' : S} {steps : List (PullRequest × Host (StateM S))} {events : List HostEvent}
    {outcomes : List (Except Error (Option Report))}
    (h : SafeRun comments limits deletePrevious s steps events outcomes s') :
    (comments s').filter (!·.isReview) = (comments s).filter (!·.isReview) := by
  induction h with
  | nil s => rfl
  | @review r steps events outcomes s hsafe hrun ih =>
    rw [ih, ← Board.filter_other_of_filter_unmarked, hsafe.others,
      Board.filter_other_of_filter_unmarked]

namespace Pipeline

/-- Every review of a run on faithful hosts is safe, and a record of the calls has no influence on
the run. -/
theorem reviewOn_safe {comments : S → List Comment} (p : Pipeline (StateM σ))
    (deletePrevious : Bool) {steps : List (PullRequest × Host (StateM S))}
    (h : ∀ step ∈ steps, step.2.Faithful comments) (s : S) (events : List HostEvent) (x : σ) :
    let plain := ((p.reviewOn deletePrevious steps).run s).run x
    let recorded := ((p.reviewOn deletePrevious
      (steps.map fun step => (step.1, step.2.recording))).run (s, events)).run x
    recorded.1.1 = plain.1.1 ∧ recorded.1.2.1 = plain.1.2 ∧
      ∃ new, recorded.1.2.2 = events ++ new ∧
        SafeRun comments p.limits deletePrevious s steps new plain.1.1 plain.1.2 := by
  induction steps generalizing s events x with
  | nil => exact ⟨rfl, rfl, [], (List.append_nil _).symm, .nil s⟩
  | cons step rest ih =>
    obtain ⟨pr, host⟩ := step
    intro plain recorded
    obtain ⟨houtcome, hafter, hmodel, new, hnew, hsafe⟩ :=
      review_safe (h (pr, host) List.mem_cons_self) p deletePrevious pr s events x
    let first := ((Reviewer.review ⟨host.among (StateM σ), p.beside S, deletePrevious⟩ pr).run
      s).run x
    let firstRecorded := ((Reviewer.review
      ⟨host.recording.among (StateM σ), p.beside (S × List HostEvent), deletePrevious⟩ pr).run
        (s, events)).run x
    -- The rest of the run begins with what the first review has left.
    have hstate : firstRecorded.1.2 = (first.1.2, events ++ new) := Prod.ext hafter hnew
    have hrest : recorded.1 =
        (firstRecorded.1.1 :: (((p.reviewOn deletePrevious
            (rest.map fun step => (step.1, step.2.recording))).run firstRecorded.1.2).run
              firstRecorded.2).1.1,
          (((p.reviewOn deletePrevious
            (rest.map fun step => (step.1, step.2.recording))).run firstRecorded.1.2).run
              firstRecorded.2).1.2) := rfl
    obtain ⟨houtcomes, hlast, later, hlater, hrun⟩ :=
      ih (fun step hstep => h step (List.mem_cons_of_mem _ hstep)) first.1.2 (events ++ new)
        first.2
    rw [hrest, hstate, hmodel, houtcome, houtcomes, hlast, hlater]
    exact ⟨rfl, rfl, new ++ later, List.append_assoc _ _ _, .review hsafe hrun⟩

/-- Whatever fails on a board in whichever reviews of a run, every review of the run is safe. Here
`plain` is the run itself and `recorded` the same run with a record of the calls; no comment that is
no review is touched by the whole of it. -/
theorem reviewAll_safe (p : Pipeline (StateM σ)) (deletePrevious : Bool)
    (steps : List (PullRequest × BoardScript)) (b : Board) (x : σ) :
    let plain := ((p.reviewAll deletePrevious steps).run b).run x
    let recorded := ((p.reviewOn deletePrevious
      (steps.map fun step => (step.1, step.2.host.recording))).run (b, [])).run x
    recorded.1.1 = plain.1.1 ∧ recorded.1.2.1 = plain.1.2 ∧
      SafeRun Board.comments p.limits deletePrevious b
        (steps.map fun step => (step.1, step.2.host)) recorded.1.2.2 plain.1.1 plain.1.2 ∧
      plain.1.2.otherComments = b.otherComments := by
  intro plain recorded
  have hfaithful : ∀ step ∈ steps.map fun step => (step.1, step.2.host),
      step.2.Faithful Board.comments := by
    intro step hstep
    obtain ⟨step, -, rfl⟩ := List.mem_map.1 hstep
    exact step.2.faithful
  have hsafe := p.reviewOn_safe deletePrevious hfaithful b [] x
  rw [← reviewAll_eq_reviewOn, List.map_map] at hsafe
  obtain ⟨houtcomes, hboard, events, hevents, hrun⟩ := hsafe
  refine ⟨houtcomes, hboard, ?_, hrun.unmarked⟩
  have hrecorded : recorded.1.2.2 = events := hevents
  rw [hrecorded]
  exact hrun

end Pipeline

end ReviewBot
