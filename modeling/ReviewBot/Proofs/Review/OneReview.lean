import Mathlib.Data.List.Basic
import ReviewBot.Proofs.Review.Runs

set_option autoImplicit false

/-!
# One review on each pull request

Where earlier reviews are deleted and the host reports no error, a pull request has at most one
review of a run on it, that of its last diff within the size limit. All other comments stay, and a
pull request without such a diff keeps all its comments (`reviewAll_leaves_one_review`).
-/

namespace ReviewBot

/-- The comment contains the marker of published reviews. -/
def Comment.isReview (c : Comment) : Bool := c.body.hasPart Markdown.marker

/-- Every published text contains the marker. -/
theorem Markdown.hasPart_marker_render (findings : List Finding) :
    (render findings).hasPart marker = true := by
  unfold String.hasPart render
  rw [Text.occursIn_iff, String.toList_append, String.toList_append]
  exact ⟨_, "\n".toList, rfl⟩

namespace Board

/-- The comments on a pull request. -/
def commentsOn (b : Board) (n : String) : List Comment := b.comments.filter (·.pullRequest = n)

/-- The reviews on a pull request. -/
def reviewsOn (b : Board) (n : String) : List Comment := (b.commentsOn n).filter (·.isReview)

/-- The comments of all pull requests that are no reviews. -/
def otherComments (b : Board) : List Comment := b.comments.filter (!·.isReview)

/-! ## Deleting and posting -/

/-- Deleting does not touch other pull requests. -/
theorem commentsOn_deleteMarked_of_ne (b : Board) {name n : String} (h : name ≠ n)
    (marker : String) : (b.deleteMarked name marker).commentsOn n = b.commentsOn n := by
  unfold commentsOn deleteMarked
  rw [List.filter_filter]
  refine List.filter_congr fun c _ => ?_
  by_cases hc : c.pullRequest = n
  · have hkept : isMarked name marker c = false := by simp [isMarked, hc, Ne.symm h]
    simp [hc, hkept]
  · simp [hc]

theorem reviewsOn_deleteMarked (b : Board) (n : String) :
    (b.deleteMarked n Markdown.marker).reviewsOn n = [] := by
  unfold reviewsOn
  rw [List.filter_eq_nil_iff]
  intro c hc hreview
  obtain ⟨hkept, hpr⟩ := List.mem_filter.1 hc
  have hunmarked := (List.mem_filter.1 hkept).2
  have hmarked : isMarked n Markdown.marker c = true := by
    rw [isMarked, Bool.and_eq_true]
    exact ⟨by simpa using hpr, hreview⟩
  rw [hmarked] at hunmarked
  exact Bool.noConfusion hunmarked

/-- A comment that is no review is none that deleting reviews removes. -/
theorem filter_other_of_filter_unmarked (n : String) (comments : List Comment) :
    (comments.filter (!isMarked n Markdown.marker ·)).filter (!·.isReview) =
      comments.filter (!·.isReview) := by
  rw [List.filter_filter]
  refine List.filter_congr fun c _ => ?_
  cases hc : c.body.hasPart Markdown.marker with
  | false => simp [isMarked, Comment.isReview, hc]
  | true => simp [Comment.isReview, hc]

theorem otherComments_deleteMarked (b : Board) (n : String) :
    (b.deleteMarked n Markdown.marker).otherComments = b.otherComments :=
  filter_other_of_filter_unmarked n b.comments

/-- Posting does not touch other pull requests. -/
theorem commentsOn_post_of_ne (b : Board) {c : Comment} {n : String} (h : c.pullRequest ≠ n) :
    (b.post c).commentsOn n = b.commentsOn n := by
  unfold commentsOn post
  rw [List.filter_append]
  simp [h]

theorem reviewsOn_post (b : Board) (n : String) (findings : List Finding) :
    (b.post ⟨n, Markdown.render findings⟩).reviewsOn n =
      b.reviewsOn n ++ [⟨n, Markdown.render findings⟩] := by
  unfold reviewsOn commentsOn post
  rw [List.filter_append, List.filter_append]
  simp [Comment.isReview, Markdown.hasPart_marker_render]

theorem otherComments_post (b : Board) (n : String) (findings : List Finding) :
    (b.post ⟨n, Markdown.render findings⟩).otherComments = b.otherComments := by
  unfold otherComments post
  rw [List.filter_append]
  simp [Comment.isReview, Markdown.hasPart_marker_render]

/-! ## One review -/

/-- But for the log, a review with a report deletes and posts. -/
theorem comments_afterReview_some (b : Board) (pr : PullRequest) (report : Report) :
    (b.afterReview pr (some report)).comments =
      ((b.deleteMarked pr.name Markdown.marker).post
        ⟨pr.name, Markdown.render report.findings⟩).comments :=
  rfl

theorem commentsOn_afterReview_none (b : Board) (pr : PullRequest) (n : String) :
    (b.afterReview pr none).commentsOn n = b.commentsOn n :=
  rfl

/-- A review does not touch other pull requests. -/
theorem commentsOn_afterReview_of_ne (b : Board) {pr : PullRequest} {n : String}
    (h : pr.name ≠ n) (report? : Option Report) :
    (b.afterReview pr report?).commentsOn n = b.commentsOn n := by
  cases report? with
  | none => rfl
  | some report =>
    rw [commentsOn, comments_afterReview_some]
    exact (commentsOn_post_of_ne _ h).trans (b.commentsOn_deleteMarked_of_ne h _)

/-- After a review its report is the only one on the pull request. -/
theorem reviewsOn_afterReview_some (b : Board) (pr : PullRequest) (report : Report) :
    (b.afterReview pr (some report)).reviewsOn pr.name =
      [⟨pr.name, Markdown.render report.findings⟩] := by
  rw [reviewsOn, commentsOn, comments_afterReview_some]
  refine (reviewsOn_post _ _ _).trans ?_
  rw [reviewsOn_deleteMarked, List.nil_append]

/-- A review touches no comment that is none. -/
theorem otherComments_afterReview (b : Board) (pr : PullRequest) (report? : Option Report) :
    (b.afterReview pr report?).otherComments = b.otherComments := by
  cases report? with
  | none => rfl
  | some report =>
    rw [otherComments, comments_afterReview_some]
    exact (otherComments_post _ _ _).trans (b.otherComments_deleteMarked _)

/-! ## Several reviews -/

theorem afterReviews_append (b : Board) (front back : List (PullRequest × Option Report)) :
    b.afterReviews (front ++ back) = (b.afterReviews front).afterReviews back :=
  List.foldl_append

/-- A pull request of which no review has a report keeps its comments. -/
theorem commentsOn_afterReviews {n : String} {reviews : List (PullRequest × Option Report)}
    (h : ∀ review ∈ reviews, review.1.name = n → review.2 = none) (b : Board) :
    (b.afterReviews reviews).commentsOn n = b.commentsOn n := by
  induction reviews generalizing b with
  | nil => rfl
  | cons review rest ih =>
    obtain ⟨pr, report?⟩ := review
    have hrest := ih (fun review hreview => h review (List.mem_cons_of_mem _ hreview))
      (b.afterReview pr report?)
    have hone : (b.afterReview pr report?).commentsOn n = b.commentsOn n := by
      by_cases hpr : pr.name = n
      · have hnone : report? = none := h (pr, report?) List.mem_cons_self hpr
        rw [hnone, commentsOn_afterReview_none]
      · exact commentsOn_afterReview_of_ne b hpr report?
    exact hrest.trans hone

/-- The last report on a pull request is the only one that is left there. -/
theorem reviewsOn_afterReviews {pr : PullRequest} {report : Report}
    {front back : List (PullRequest × Option Report)}
    (h : ∀ review ∈ back, review.1.name = pr.name → review.2 = none) (b : Board) :
    (b.afterReviews (front ++ (pr, some report) :: back)).reviewsOn pr.name =
      [⟨pr.name, Markdown.render report.findings⟩] := by
  have hback := commentsOn_afterReviews h ((b.afterReviews front).afterReview pr (some report))
  rw [afterReviews_append]
  show (((b.afterReviews front).afterReview pr (some report)).afterReviews back).reviewsOn _ = _
  rw [reviewsOn, hback]
  exact reviewsOn_afterReview_some _ pr report

theorem otherComments_afterReviews (b : Board) (reviews : List (PullRequest × Option Report)) :
    (b.afterReviews reviews).otherComments = b.otherComments := by
  induction reviews generalizing b with
  | nil => rfl
  | cons review rest ih => exact (ih _).trans (otherComments_afterReview b review.1 review.2)

end Board

/-! ## Whole runs -/

/-- Where some entry has a property, one is the last that has it. -/
theorem exists_last_of_exists {α : Type} {P : α → Prop} {l : List α} (h : ∃ x ∈ l, P x) :
    ∃ front x back, l = front ++ x :: back ∧ P x ∧ ∀ y ∈ back, ¬ P y := by
  induction l with
  | nil =>
    obtain ⟨x, hx, -⟩ := h
    exact absurd hx List.not_mem_nil
  | cons y l ih =>
    by_cases hl : ∃ x ∈ l, P x
    · obtain ⟨front, x, back, rfl, hx, hback⟩ := ih hl
      exact ⟨y :: front, x, back, rfl, hx, hback⟩
    · obtain ⟨x, hx, hP⟩ := h
      rcases List.mem_cons.1 hx with rfl | hx
      · exact ⟨[], x, l, rfl, hP, fun z hz hPz => hl ⟨z, hz, hPz⟩⟩
      · exact absurd ⟨x, hx, hP⟩ hl

namespace Pipeline

variable {σ : Type}

/-- A diff has a report exactly if it is within the size limit. -/
theorem analyze_eq_none_iff (p : Pipeline (StateM σ)) (pr : PullRequest) (diff : String) (s : σ) :
    ((p.analyze pr diff).run s).1 = none ↔ p.limits.isExceededBy diff = true := by
  unfold analyze
  by_cases h : p.limits.isExceededBy diff = true
  · rw [if_pos h]
    exact ⟨fun _ => h, fun _ => rfl⟩
  · rw [if_neg h]
    constructor
    · intro hnone
      simp at hnone
    · intro h'
      exact absurd h' h

/-- The requests with the reports on them, which are there for the diffs within the size limit. -/
theorem analyzeAll_run (p : Pipeline (StateM σ)) (requests : List ReviewRequest) (s : σ) :
    ∃ (record : List (ReviewRequest × Option Report)) (s' : σ), record.map (·.1) = requests ∧
      (p.analyzeAll requests).run s = (record.map (·.2), s') ∧
      ∀ entry ∈ record, entry.2 = none ↔ p.limits.isExceededBy entry.1.diff = true := by
  induction requests generalizing s with
  | nil => exact ⟨[], s, rfl, rfl, fun entry hentry => absurd hentry List.not_mem_nil⟩
  | cons q rest ih =>
    have hcons : (p.analyzeAll (q :: rest)).run s =
        (((p.analyze q.pullRequest q.diff).run s).1 ::
            ((p.analyzeAll rest).run ((p.analyze q.pullRequest q.diff).run s).2).1,
          ((p.analyzeAll rest).run ((p.analyze q.pullRequest q.diff).run s).2).2) := by
      rw [analyzeAll, List.mapM_cons]
      rfl
    obtain ⟨record, s', hrequests, hrun, hnone⟩ := ih ((p.analyze q.pullRequest q.diff).run s).2
    refine ⟨(q, ((p.analyze q.pullRequest q.diff).run s).1) :: record, s', ?_, ?_, ?_⟩
    · rw [List.map_cons, hrequests]
    · rw [hcons, hrun]
      rfl
    · intro entry hentry
      rcases List.mem_cons.1 hentry with rfl | hentry
      · exact analyze_eq_none_iff p q.pullRequest q.diff s
      · exact hnone entry hentry

/-- Where some diff of a pull request is within the size limit, one report on it is the last. -/
theorem exists_last_report {p : Pipeline (StateM σ)}
    {record : List (ReviewRequest × Option Report)}
    (hnone : ∀ entry ∈ record, entry.2 = none ↔ p.limits.isExceededBy entry.1.diff = true)
    {n : String} (h : ∃ entry ∈ record, entry.1.pullRequest.name = n ∧
      p.limits.isExceededBy entry.1.diff = false) :
    ∃ front q report back, record = front ++ (q, some report) :: back ∧
      q.pullRequest.name = n ∧
      ∀ entry ∈ back, entry.1.pullRequest.name = n → entry.2 = none := by
  have hreported : ∃ entry ∈ record, entry.1.pullRequest.name = n ∧ entry.2 ≠ none := by
    obtain ⟨entry, hentry, hname, hsize⟩ := h
    refine ⟨entry, hentry, hname, fun hmissing => ?_⟩
    rw [(hnone entry hentry).1 hmissing] at hsize
    exact Bool.noConfusion hsize
  obtain ⟨front, ⟨q, report?⟩, back, hsplit, ⟨hname, hsome⟩, hback⟩ :=
    exists_last_of_exists hreported
  obtain ⟨report, rfl⟩ := Option.ne_none_iff_exists'.1 hsome
  refine ⟨front, q, report, back, hsplit, hname, ?_⟩
  intro entry hentry hsame
  by_contra hlater
  exact hback entry hentry ⟨hsame, hlater⟩

/-- Where earlier reviews are deleted and the host reports no error, a pull request of which some
diff is within the size limit has one review on it after a run: the report on the last such diff.
The other pull requests keep their comments, and all comments that are no reviews stay in order. -/
theorem reviewAll_leaves_one_review (p : Pipeline (StateM σ)) (requests : List ReviewRequest)
    (b : Board) (s : σ) :
    ∃ (record : List (ReviewRequest × Option Report)) (b' : Board) (s' : σ),
      record.map (·.1) = requests ∧
      (p.analyzeAll requests).run s = (record.map (·.2), s') ∧
      ((p.reviewAll true (requests.map fun q => (q.pullRequest, q.script))).run b).run s =
        ((record.map fun entry => .ok entry.2, b'), s') ∧
      (∀ entry ∈ record, entry.2 = none ↔ p.limits.isExceededBy entry.1.diff = true) ∧
      (∀ n, (∃ q ∈ requests, q.pullRequest.name = n ∧ p.limits.isExceededBy q.diff = false) →
        ∃ front q report back, record = front ++ (q, some report) :: back ∧
          q.pullRequest.name = n ∧
          (∀ entry ∈ back, entry.1.pullRequest.name = n → entry.2 = none) ∧
          b'.reviewsOn n = [⟨n, Markdown.render report.findings⟩]) ∧
      (∀ n, (∀ q ∈ requests, q.pullRequest.name = n → p.limits.isExceededBy q.diff = true) →
        b'.commentsOn n = b.commentsOn n) ∧
      b'.otherComments = b.otherComments := by
  obtain ⟨record, s', hrequests, hanalyzed, hnone⟩ := p.analyzeAll_run requests s
  have hreviews : (requests.map (·.pullRequest)).zip (record.map (·.2)) =
      record.map fun entry => (entry.1.pullRequest, entry.2) := by
    rw [← hrequests, List.map_map, List.zip_map']
    rfl
  refine ⟨record, b.afterReviews (record.map fun entry => (entry.1.pullRequest, entry.2)), s',
    hrequests, hanalyzed, ?_, hnone, ?_, ?_, b.otherComments_afterReviews _⟩
  · rw [reviewAll_run, StateT.run_bind, hanalyzed]
    show ((_, _), _) = _
    rw [hreviews, List.map_map]
    rfl
  · rintro n ⟨q, hq, hname, hsize⟩
    rw [← hrequests] at hq
    obtain ⟨entry, hentry, rfl⟩ := List.mem_map.1 hq
    obtain ⟨front, q, report, back, rfl, rfl, hback⟩ :=
      exists_last_report hnone ⟨entry, hentry, hname, hsize⟩
    refine ⟨front, q, report, back, rfl, rfl, hback, ?_⟩
    rw [List.map_append, List.map_cons]
    refine Board.reviewsOn_afterReviews ?_ b
    intro review hreview hsame
    obtain ⟨entry, hentry, rfl⟩ := List.mem_map.1 hreview
    exact hback entry hentry hsame
  · intro n hsize
    refine Board.commentsOn_afterReviews ?_ b
    intro review hreview hname
    obtain ⟨entry, hentry, rfl⟩ := List.mem_map.1 hreview
    have hmem : entry.1 ∈ requests := hrequests ▸ List.mem_map_of_mem hentry
    exact (hnone entry hentry).2 (hsize entry.1 hmem hname)

end Pipeline

end ReviewBot
