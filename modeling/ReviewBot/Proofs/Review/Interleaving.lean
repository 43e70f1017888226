import ReviewBot.Proofs.Review.Pool

set_option autoImplicit false

/-!
# Reviews at the same time

When all reviews of a pool have ended, each has made the calls of one review. The reviews on a pull
request are then those that were posted after the last deletion there: one by the review that
deleted last, and one more for every other review that had deleted before and posted only then
(`Pool.reviews_after_interleaving`). So reviews of one pull request leave one comment if none of
them deletes or posts between the deletion and the post of another, and may leave several otherwise
(`Pool.interleaving_leaves_two_reviews`).
-/

namespace ReviewBot

/-! ## Complete reviews -/

namespace CompleteReview

variable {limits : Limits} {pr : PullRequest} {events : List HostEvent} {event : HostEvent}

theorem isOfReview (h : CompleteReview limits pr events) (hmem : event ∈ events) :
    event.IsOfReview pr := by
  cases h with
  | large hlarge =>
    rw [List.mem_singleton.1 hmem]
    exact .fetched _
  | published count findings hsize =>
    simp only [List.mem_cons, List.not_mem_nil, or_false] at hmem
    rcases hmem with rfl | rfl | rfl
    · exact .fetched _
    · exact .deleted count
    · exact .posted findings

/-- A review that deletes or posts has fetched a diff within the size limit. -/
theorem exists_fetched (h : CompleteReview limits pr events) (hmem : event ∈ events) {n : String}
    (htouch : event.deletesOn n = true ∨ event.postOn? n ≠ none) :
    pr.name = n ∧
      ∃ diff, .fetched pr (.ok diff) ∈ events ∧ limits.isExceededBy diff = false := by
  cases h with
  | large hlarge =>
    rw [List.mem_singleton.1 hmem] at htouch
    simp [HostEvent.deletesOn, HostEvent.postOn?] at htouch
  | @published diff count findings hsize =>
    refine ⟨?_, diff, List.mem_cons_self, hsize⟩
    simp only [List.mem_cons, List.not_mem_nil, or_false] at hmem
    rcases hmem with rfl | rfl | rfl
    · simp [HostEvent.deletesOn, HostEvent.postOn?] at htouch
    · simpa [HostEvent.deletesOn, HostEvent.postOn?] using htouch
    · simpa [HostEvent.deletesOn, HostEvent.postOn?] using htouch

theorem exists_deleted (h : CompleteReview limits pr events) {diff : String}
    (hmem : .fetched pr (.ok diff) ∈ events) (hsize : limits.isExceededBy diff = false) :
    ∃ count, .deleted pr Markdown.marker (.ok count) ∈ events := by
  cases h with
  | @large diff' hlarge =>
    have hdiff : diff = diff' := by simpa using hmem
    rw [hdiff, hlarge] at hsize
    exact Bool.noConfusion hsize
  | published count findings _ => exact ⟨count, by simp⟩

/-- All that a review does after it has deleted is to post once. -/
theorem exists_posted {front back : List HostEvent} {pr' : PullRequest} {marker : String}
    {answer : Except Error Nat}
    (h : CompleteReview limits pr (front ++ .deleted pr' marker answer :: back)) :
    ∃ findings, back = [.posted pr (Markdown.render findings) (.ok ())] := by
  generalize hevents : front ++ .deleted pr' marker answer :: back = events at h
  cases h with
  | large hlarge =>
    cases front with
    | nil => simp at hevents
    | cons first rest => simp at hevents
  | published count findings hsize =>
    refine ⟨findings, ?_⟩
    rcases front with _ | ⟨first, _ | ⟨second, _ | ⟨third, rest⟩⟩⟩
    · simp at hevents
    · simpa using (List.cons.inj (List.cons.inj hevents).2).2
    · simp at hevents
    · simp at hevents

end CompleteReview

namespace Pool

variable {m : Type → Type} {p : Pipeline m} {b : Board} {prs : List PullRequest} {pool : Pool}

/-- Calls of a kind are those of one task and those of all others. -/
theorem countP_eq_callsOf_add (i : Nat) (kind : HostEvent → Bool)
    (events : List (Nat × HostEvent)) :
    events.countP (fun event => kind event.2) =
      (callsOf i events).countP kind +
        events.countP fun event => event.1 ≠ i ∧ kind event.2 = true := by
  induction events with
  | nil => rfl
  | cons event rest ih =>
    have hcalls : callsOf i (event :: rest) =
        callsOf i [event] ++ callsOf i rest := callsOf_append i [event] rest
    rw [hcalls, List.countP_append, List.countP_cons, List.countP_cons, ih]
    by_cases hi : event.1 = i
    · have hone : callsOf i [event] = [event.2] := by simp [callsOf, hi]
      rw [hone, List.countP_singleton]
      simp [hi]
      omega
    · have hnone : callsOf i [event] = [] := by simp [callsOf, hi]
      rw [hnone]
      simp [hi]
      omega

theorem IsSound.completeReview (h : IsSound p.taskReviewer b prs pool)
    (hended : ∀ task ∈ pool.tasks, task = .done ()) {i : Nat} {pr : PullRequest}
    (hpr : prs[i]? = some pr) : CompleteReview p.limits pr (pool.eventsOf i) := by
  obtain ⟨hi, -⟩ := List.getElem?_eq_some_iff.1 hpr
  have htask : pool.tasks[i]? = some (.done ()) := by
    have hlt : i < pool.tasks.length := h.length ▸ hi
    rw [List.getElem?_eq_getElem hlt, hended _ (List.getElem_mem hlt)]
  refine Reviewer.completeReview_of_path (h.path i pr _ hpr htask) fun event hevent => ?_
  exact h.succeeds _ (mem_callsOf.1 hevent)

/-- When all reviews have ended, every call is one of a complete review. -/
theorem IsSound.exists_review (h : IsSound p.taskReviewer b prs pool)
    (hended : ∀ task ∈ pool.tasks, task = .done ()) {event : Nat × HostEvent}
    (hevent : event ∈ pool.events) :
    ∃ pr, prs[event.1]? = some pr ∧ CompleteReview p.limits pr (pool.eventsOf event.1) ∧
      event.2 ∈ pool.eventsOf event.1 := by
  have hi := h.known event hevent
  have hpr : prs[event.1]? = some prs[event.1] := List.getElem?_eq_getElem hi
  exact ⟨_, hpr, h.completeReview hended hpr, mem_callsOf.2 hevent⟩

theorem IsSound.forall_isOfReview (h : IsSound p.taskReviewer b prs pool)
    (hended : ∀ task ∈ pool.tasks, task = .done ()) :
    ∀ event ∈ pool.events.map (·.2), ∃ pr, event.IsOfReview pr := by
  intro event hevent
  obtain ⟨event, hmem, rfl⟩ := List.mem_map.1 hevent
  obtain ⟨pr, -, hreview, hown⟩ := h.exists_review hended hmem
  exact ⟨pr, hreview.isOfReview hown⟩

/-- A pull request of which no review has fetched a diff within the size limit keeps its
comments. -/
theorem IsSound.commentsOn_eq (h : IsSound p.taskReviewer b prs pool)
    (hended : ∀ task ∈ pool.tasks, task = .done ()) {n : String}
    (hlarge : ∀ i pr diff, prs[i]? = some pr → pr.name = n →
      .fetched pr (.ok diff) ∈ pool.eventsOf i → p.limits.isExceededBy diff = true) :
    pool.board.commentsOn n = b.commentsOn n := by
  have hquiet : ∀ event ∈ pool.events.map (·.2),
      event.deletesOn n = false ∧ event.postOn? n = none := by
    intro event hevent
    obtain ⟨event, hmem, rfl⟩ := List.mem_map.1 hevent
    obtain ⟨pr, hpr, hreview, hown⟩ := h.exists_review hended hmem
    by_contra htouch
    have htouch' : event.2.deletesOn n = true ∨ event.2.postOn? n ≠ none := by
      cases hdelete : event.2.deletesOn n with
      | false => exact .inr fun hpost => htouch ⟨hdelete, hpost⟩
      | true => exact .inl rfl
    obtain ⟨hname, diff, hfetched, hsize⟩ := hreview.exists_fetched hown htouch'
    rw [hlarge event.1 pr diff hpr hname hfetched] at hsize
    exact Bool.noConfusion hsize
  rw [Board.commentsOn, h.board]
  exact Board.commentsOn_afterEvents (h.forall_isOfReview hended) hquiet b

/-- A pull request of which a review has fetched a diff within the size limit has the reviews on it
that were posted after reviews were last deleted there. -/
theorem IsSound.reviewsOn_eq (h : IsSound p.taskReviewer b prs pool)
    (hended : ∀ task ∈ pool.tasks, task = .done ()) {i : Nat} {pr : PullRequest} {diff : String}
    (hpr : prs[i]? = some pr) (hfetched : .fetched pr (.ok diff) ∈ pool.eventsOf i)
    (hsize : p.limits.isExceededBy diff = false) :
    ∃ front last pr' count back,
      pool.events = front ++ (last, .deleted pr' Markdown.marker (.ok count)) :: back ∧
      pr'.name = pr.name ∧ (∀ event ∈ back, event.2.deletesOn pr.name = false) ∧
      pool.board.reviewsOn pr.name = back.filterMap (·.2.postOn? pr.name) ∧
      (pool.board.reviewsOn pr.name).length =
        1 + back.countP fun event => event.1 ≠ last ∧ (event.2.postOn? pr.name).isSome = true := by
  obtain ⟨count, hdeleted⟩ := (h.completeReview hended hpr).exists_deleted hfetched hsize
  have hexists : ∃ event ∈ pool.events, event.2.deletesOn pr.name = true :=
    ⟨_, mem_callsOf.1 hdeleted, by simp [HostEvent.deletesOn]⟩
  obtain ⟨front, ⟨last, event⟩, back, hevents, hdeletes, hlast⟩ := exists_last_of_exists hexists
  obtain ⟨pr', hpr', hreview, hown⟩ := h.exists_review hended
    (hevents ▸ List.mem_append_right _ List.mem_cons_self : (last, event) ∈ pool.events)
  have hback : ∀ event ∈ back.map (·.2), ∃ pr, event.IsOfReview pr := by
    intro event hmem
    refine h.forall_isOfReview hended event ?_
    rw [hevents, List.map_append, List.map_cons]
    exact List.mem_append_right _ (List.mem_cons_of_mem _ hmem)
  cases hreview.isOfReview hown with
  | fetched diff => exact absurd hdeletes (by simp [HostEvent.deletesOn])
  | posted findings => exact absurd hdeletes (by simp [HostEvent.deletesOn])
  | deleted count' =>
    have hname : pr'.name = pr.name := by simpa [HostEvent.deletesOn] using hdeletes
    have hkept : ∀ event ∈ back, event.2.deletesOn pr.name = false := by
      intro event hmem
      simpa using hlast event hmem
    have hreviews : pool.board.reviewsOn pr.name = back.filterMap (·.2.postOn? pr.name) := by
      rw [Board.reviewsOn, Board.commentsOn, h.board, hevents, List.map_append, List.map_cons,
        ← hname]
      refine (Board.reviewsOn_afterEvents hback ?_ b).trans (List.filterMap_map ..)
      intro event hevent
      obtain ⟨later, hlater, rfl⟩ := List.mem_map.1 hevent
      rw [hname]
      exact hkept later hlater
    refine ⟨front, last, pr', count', back, hevents, hname, hkept, hreviews, ?_⟩
    -- The review that deleted last has posted since then, and once.
    have hown : pool.eventsOf last = callsOf last front ++
        .deleted pr' Markdown.marker (.ok count') :: callsOf last back := by
      show callsOf last pool.events = _
      rw [hevents, callsOf_append]
      refine congrArg _ ((callsOf_append last [_] back).trans ?_)
      simp [callsOf]
    rw [hown] at hreview
    obtain ⟨findings, hposted⟩ := hreview.exists_posted
    rw [hreviews, List.length_filterMap_eq_countP,
      countP_eq_callsOf_add last (fun event => (event.postOn? pr.name).isSome), hposted]
    simp [HostEvent.postOn?, hname]

/-- After any moves in any order, on a host that reports no error, when all reviews have ended: the
reviews are those of the accepted deliveries, and each has made the calls of one review. A pull
request of which no diff within the size limit was fetched keeps its comments. On any other one the
reviews are those that were posted after reviews were last deleted there: the one of the review that
deleted last, and those of other reviews that posted only then. All other comments stay. -/
theorem reviews_after_interleaving (v : Verifier) (p : Pipeline m) (b : Board) (moves : List Move)
    (hended : ∀ task ∈ ((start b).run v p.taskReviewer moves).tasks, task = .done ()) :
    let pool := (start b).run v p.taskReviewer moves
    let prs := reviewed v moves
    Dispatched v (moves.filterMap Move.delivery?) prs ∧ pool.tasks.length = prs.length ∧
      (∀ i pr, prs[i]? = some pr → CompleteReview p.limits pr (pool.eventsOf i)) ∧
      (∀ n, (∀ i pr diff, prs[i]? = some pr → pr.name = n →
          .fetched pr (.ok diff) ∈ pool.eventsOf i → p.limits.isExceededBy diff = true) →
        pool.board.commentsOn n = b.commentsOn n) ∧
      (∀ i pr diff, prs[i]? = some pr → .fetched pr (.ok diff) ∈ pool.eventsOf i →
          p.limits.isExceededBy diff = false →
        ∃ front last pr' count back,
          pool.events = front ++ (last, .deleted pr' Markdown.marker (.ok count)) :: back ∧
          pr'.name = pr.name ∧ (∀ event ∈ back, event.2.deletesOn pr.name = false) ∧
          pool.board.reviewsOn pr.name = back.filterMap (·.2.postOn? pr.name) ∧
          (pool.board.reviewsOn pr.name).length =
            1 + back.countP fun event =>
              event.1 ≠ last ∧ (event.2.postOn? pr.name).isSome = true) ∧
      pool.board.otherComments = b.otherComments := by
  intro pool prs
  have hsound : IsSound p.taskReviewer b prs pool := (isSound_start p.taskReviewer b).run moves
  refine ⟨v.dispatched_pullRequestsOf _, hsound.length, fun i pr => hsound.completeReview hended,
    fun n => hsound.commentsOn_eq hended, fun i pr diff => hsound.reviewsOn_eq hended, ?_⟩
  rw [Board.otherComments, hsound.board]
  exact Board.otherComments_afterEvents (hsound.forall_isOfReview hended) b

/-! ## Runs on one pull request -/

/-- The pull request of `openedDelivery`. -/
def openedPullRequest : PullRequest :=
  { owner := "o", repo := "r", number := 1, title := "t", authorLogin := "u", baseRef := "m",
    headRef := "h", commitSha := "c" }

/-- A delivery that is signed with `k` and hands over `openedPullRequest`. -/
def openedDelivery : Delivery where
  headers :=
    [("X-GitHub-Event", Text.utf8 "pull_request"),
      ("X-Hub-Signature-256", Text.utf8
        "sha256=ba61657b44f88052ac33c994ecb68cb3906b118706ddfc522325fec068ea99f1")]
  body := Text.utf8 ("\x7b\"action\":\"opened\"," ++
    "\"pull_request\":[1,\"t\",null,[\"u\"],[\"m\",\"\"],[\"h\",\"c\"]]," ++
    "\"repository\":[\"r\",[\"o\"]]\x7d")

theorem judge_openedDelivery :
    (⟨some "k"⟩ : Verifier).judge openedDelivery = .accepted openedPullRequest := by
  decide +kernel

theorem pullRequestsOf_openedDelivery :
    (⟨some "k"⟩ : Verifier).pullRequestsOf [openedDelivery] = [openedPullRequest] := by
  rw [Verifier.pullRequestsOf_cons, judge_openedDelivery]
  rfl

/-- An accepted delivery starts a task. -/
theorem run_deliver {v : Verifier} {r : Reviewer Task} {d : Delivery} {pr : PullRequest}
    (h : v.judge d = .accepted pr) (pool : Pool) (moves : List Move) :
    pool.run v r (.deliver d :: moves) =
      ({ pool with tasks := pool.tasks ++ [r.process pr] } : Pool).run v r moves := by
  have htasks := tasks_deliver v r d pool.tasks
  rw [h] at htasks
  exact congrArg (fun tasks => ({ pool with tasks := tasks } : Pool).run v r moves) htasks

/-- Without a model, a review whose diff is within the size limit deletes and posts next. -/
theorem exists_process_eq {m : Type → Type} {p : Pipeline m} (hmodel : p.model = none)
    (pr : PullRequest) {diff : String} (hsize : p.limits.isExceededBy diff = false) :
    ∃ next findings, p.taskReviewer.process pr = .call (.fetch pr) next ∧
      next (.ok diff) = .call (.delete pr Markdown.marker) fun _ =>
        .call (.post pr (Markdown.render findings)) fun _ => .done () := by
  have hanalyze : ∃ report, p.inTask.analyze pr diff = .done (some report) := by
    have hsize' : ¬ p.inTask.limits.isExceededBy diff = true := by
      rw [show p.inTask.limits = p.limits from rfl, hsize]
      exact Bool.false_ne_true
    have hquiet : p.inTask.model = none := by rw [Pipeline.inTask, hmodel, Option.map_none]
    unfold Pipeline.analyze Pipeline.modelFindings
    rw [if_neg hsize', hquiet]
    exact ⟨_, rfl⟩
  obtain ⟨report, hanalyze⟩ := hanalyze
  refine ⟨_, report.findings, rfl, ?_⟩
  show Task.bind (Task.bind (p.inTask.analyze pr diff) _) _ = _
  rw [hanalyze]
  refine congrArg (Task.call _) (funext fun _ => congrArg (Task.call _) (funext fun answer => ?_))
  cases answer with
  | error e => rfl
  | ok u => rfl

/-- The moves of two reviews of one pull request, of which each deletes before the other posts. -/
def twoReviews : List Move :=
  let turn := fun i => Move.advance i "" (.ok "")
  [.deliver openedDelivery, .deliver openedDelivery, turn 0, turn 1, turn 0, turn 1, turn 0, turn 1]

/-- Both of these reviews have fetched the diff before either goes on. -/
theorem exists_run_twoReviews (comments : List Comment) :
    let v : Verifier := ⟨some "k"⟩
    let p : Pipeline Id := ⟨none, none, { maxDiffSize := 0 }⟩
    let turn := fun i => Move.advance i "" (.ok "")
    ∃ findings,
      let publish : Task Unit := .call (.delete openedPullRequest Markdown.marker) fun _ =>
        .call (.post openedPullRequest (Markdown.render findings)) fun _ => .done ()
      (start ⟨comments, []⟩).run v p.taskReviewer twoReviews =
        (⟨[publish, publish], ⟨comments, ["fetch o/r#1", "fetch o/r#1"]⟩,
          [(0, .fetched openedPullRequest (.ok "")),
           (1, .fetched openedPullRequest (.ok ""))]⟩ : Pool).run v p.taskReviewer
            [turn 0, turn 1, turn 0, turn 1] := by
  intro v p turn
  have hsize : p.limits.isExceededBy "" = false := by decide
  obtain ⟨next, findings, hprocess, hnext⟩ := exists_process_eq rfl openedPullRequest hsize
  refine ⟨findings, ?_⟩
  intro publish
  have hpublish : publish = next (.ok "") := hnext.symm
  rw [hpublish]
  refine (run_deliver judge_openedDelivery _ _).trans ?_
  refine (run_deliver judge_openedDelivery _ _).trans ?_
  rw [hprocess]
  rfl

theorem pullRequestsOf_two :
    (⟨some "k"⟩ : Verifier).pullRequestsOf [openedDelivery, openedDelivery] =
      [openedPullRequest, openedPullRequest] := by
  rw [Verifier.pullRequestsOf_cons, judge_openedDelivery, pullRequestsOf_openedDelivery]
  rfl

/-- Two reviews that take turns replace the review before, and both are left. -/
theorem reviews_after_interleaving_of_two :
    let v : Verifier := ⟨some "k"⟩
    let p : Pipeline Id := ⟨none, none, { maxDiffSize := 0 }⟩
    let b : Board := ⟨[⟨"o/r#1", "old <!-- lookout:review -->"⟩, ⟨"o/r#1", "please rename"⟩], []⟩
    reviewed v twoReviews = [openedPullRequest, openedPullRequest] ∧
      ∃ pool, (start b).run v p.taskReviewer twoReviews = pool ∧
        (∀ task ∈ pool.tasks, task = .done ()) ∧ (pool.board.reviewsOn "o/r#1").length = 2 ∧
        pool.board.otherComments = b.otherComments := by
  intro v p b
  obtain ⟨findings, hfetched⟩ := exists_run_twoReviews b.comments
  obtain ⟨board, hrun⟩ : ∃ board, (start b).run v p.taskReviewer twoReviews =
      ⟨[.done (), .done ()], board,
        [(0, .fetched openedPullRequest (.ok "")), (1, .fetched openedPullRequest (.ok "")),
         (0, .deleted openedPullRequest Markdown.marker (.ok 1)),
         (1, .deleted openedPullRequest Markdown.marker (.ok 0)),
         (0, .posted openedPullRequest (Markdown.render findings) (.ok ())),
         (1, .posted openedPullRequest (Markdown.render findings) (.ok ()))]⟩ :=
    ⟨_, hfetched⟩
  have hreviewed : reviewed v twoReviews = [openedPullRequest, openedPullRequest] :=
    pullRequestsOf_two
  have hinterleaving := reviews_after_interleaving v p b twoReviews
  rw [hrun] at hinterleaving
  obtain ⟨-, -, -, -, hreviews, hother⟩ := hinterleaving (by simp)
  have hpr : (reviewed v twoReviews)[0]? = some openedPullRequest := by
    rw [hreviewed]
    rfl
  obtain ⟨front, last, pr, count, back, hsplit, -, hkept, -, hlength⟩ :=
    hreviews 0 openedPullRequest "" hpr (mem_callsOf.2 List.mem_cons_self) (by decide)
  refine ⟨hreviewed, _, hrun, by simp, hlength.trans ?_, hother⟩
  -- Nothing is deleted after the fourth call, so that one is the last deletion.
  rcases front with _ | ⟨first, _ | ⟨second, _ | ⟨third, _ | ⟨fourth, rest⟩⟩⟩⟩
  · simp at hsplit
  · simp at hsplit
  · have hback : (1, .deleted openedPullRequest Markdown.marker (.ok 0)) ∈ back := by
      simp only [List.cons_append, List.nil_append, List.cons.injEq] at hsplit
      rw [← hsplit.2.2.2]
      exact List.mem_cons_self
    exact absurd (hkept _ hback) (by decide)
  · simp only [List.cons_append, List.nil_append, List.cons.injEq, Prod.mk.injEq] at hsplit
    obtain ⟨-, -, -, ⟨rfl, -⟩, rfl⟩ := hsplit
    simp [HostEvent.postOn?]
  · rcases rest with _ | ⟨fifth, _ | ⟨sixth, rest⟩⟩
    · simp at hsplit
    · simp at hsplit
    · simp at hsplit

/-- Of two reviews of one pull request both are left if each deletes before the other posts, and a
review whose diff is too large leaves none. -/
theorem interleaving_leaves_two_reviews :
    let v : Verifier := ⟨some "k"⟩
    let p : Pipeline Id := ⟨none, none, { maxDiffSize := 0 }⟩
    let turn := fun i => Move.advance i "" (.ok "")
    let two := [.deliver openedDelivery, .deliver openedDelivery,
      turn 0, turn 1, turn 0, turn 1, turn 0, turn 1]
    let large := [.deliver openedDelivery, .advance 0 "-" (.ok "")]
    let after := fun moves => (start ⟨[], []⟩).run v p.taskReviewer moves
    reviewed v two = [openedPullRequest, openedPullRequest] ∧
      (∀ task ∈ (after two).tasks, task = .done ()) ∧
      ((after two).board.reviewsOn openedPullRequest.name).length = 2 ∧
      reviewed v large = [openedPullRequest] ∧
      (∀ task ∈ (after large).tasks, task = .done ()) ∧
      ((after large).board.reviewsOn openedPullRequest.name).length = 0 := by
  intro v p turn two large after
  have hlarge : after large =
      ⟨[.done ()], ⟨[], ["fetch o/r#1"]⟩, [(0, .fetched openedPullRequest (.ok "-"))]⟩ :=
    run_deliver judge_openedDelivery _ _
  obtain ⟨findings, hrun⟩ := exists_run_twoReviews []
  have hfetched : after two = _ := hrun
  have htasks : (after two).tasks = [.done (), .done ()] := by
    rw [hfetched]
    rfl
  have hcomments : (after two).board.comments =
      [⟨openedPullRequest.name, Markdown.render findings⟩,
        ⟨openedPullRequest.name, Markdown.render findings⟩] := by
    rw [hfetched]
    rfl
  refine ⟨pullRequestsOf_two, ?_, ?_, pullRequestsOf_openedDelivery, ?_, ?_⟩
  · rw [htasks]
    simp
  · rw [Board.reviewsOn, Board.commentsOn, hcomments]
    simp [Comment.isReview, Markdown.hasPart_marker_render]
  · rw [hlarge]
    simp
  · rw [hlarge]
    rfl

end Pool

end ReviewBot
