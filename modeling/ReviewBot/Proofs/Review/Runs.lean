import ReviewBot.Host.Board
import ReviewBot.Host.Publication

set_option autoImplicit false

/-!
# Reviews on a board

A board and a model are parts of one system: the model keeps a state of its own in a monad `m` and
does not reach the board, and the host does not reach the model. `Pipeline.reviewAll` runs reviews
one after the other in this system, each with a script for the host. On any host a review whose diff
can be fetched is the analysis of the diff and what that comes to on the host (`review_of_fetch`).
Where the host reports no error it leaves the board as `Board.afterReview` says (`review_run`), so a
whole run is the analysis of all diffs and one pass over the board (`reviewAll_run`).
-/

namespace ReviewBot

/-- The model in a system with a further state, which it does not reach. -/
def Model.beside {m : Type → Type} [Monad m] (S : Type) (model : Model m) : Model (StateT S m) :=
  ⟨model.name, fun prompt => StateT.lift (model.reply prompt)⟩

/-- The pipeline in a system with a further state, which it does not reach. -/
def Pipeline.beside {m : Type → Type} [Monad m] (S : Type) (p : Pipeline m) :
    Pipeline (StateT S m) :=
  ⟨p.rules, p.model.map (·.beside S), p.limits⟩

/-- The host in a system with further effects, which it does not use. -/
def Host.among {S : Type} (m : Type → Type) [Monad m] (host : Host (StateM S)) :
    Host (StateT S m) where
  fetchDiff pr := fun s => pure ((host.fetchDiff pr).run s)
  postComment pr body := fun s => pure ((host.postComment pr body).run s)
  deleteMarked pr marker := fun s => pure ((host.deleteMarked pr marker).run s)

/-- What a review comes to on a host after the analysis of the diff: nothing more without a report,
and otherwise its publication. -/
def Host.conclude {S : Type} (host : Host (StateM S)) (deletePrevious : Bool) (pr : PullRequest)
    (report? : Option Report) (s : S) : Except Error (Option Report) × S :=
  match report? with
  | none => (.ok none, s)
  | some report =>
    let published := (host.publish deletePrevious pr report.findings).run s
    (published.1.map fun _ => some report, published.2)

/-- A review to be run on a host that reports no error: the pull request and its diff by then. -/
structure ReviewRequest where
  /-- The pull request. -/
  pullRequest : PullRequest
  /-- The diff of the pull request. -/
  diff : String

/-- The script of a host that reports no error. -/
def ReviewRequest.script (q : ReviewRequest) : BoardScript := { diff := .ok q.diff }

namespace Board

/-- The board after a review in which the host has reported no error. Without a report nothing but
the log changes; with one it replaces the earlier ones. -/
def afterReview (b : Board) (pr : PullRequest) (report? : Option Report) : Board :=
  let fetched := b.note ("fetch " ++ pr.name)
  match report? with
  | none => fetched
  | some report =>
      let cleaned := (fetched.note ("delete " ++ pr.name ++ " " ++ Markdown.marker)).deleteMarked
        pr.name Markdown.marker
      (cleaned.note ("post " ++ pr.name)).post ⟨pr.name, Markdown.render report.findings⟩

/-- The board after reviews in which the host has reported no error. -/
def afterReviews (b : Board) (reviews : List (PullRequest × Option Report)) : Board :=
  reviews.foldl (fun b review => b.afterReview review.1 review.2) b

end Board

namespace Pipeline

variable {m : Type → Type} [Monad m]

/-- Runs reviews on a board one after the other. During each of them the host follows a script. -/
def reviewAll (p : Pipeline m) (deletePrevious : Bool) :
    List (PullRequest × BoardScript) → StateT Board m (List (Except Error (Option Report)))
  | [] => pure []
  | (pr, script) :: rest => do
    let reviewer : Reviewer (StateT Board m) :=
      ⟨script.host.among m, p.beside Board, deletePrevious⟩
    let outcome ← reviewer.review pr
    let later ← p.reviewAll deletePrevious rest
    pure (outcome :: later)

/-- Analyses the diffs of all requests. -/
def analyzeAll (p : Pipeline m) (requests : List ReviewRequest) : m (List (Option Report)) :=
  requests.mapM fun q => p.analyze q.pullRequest q.diff

end Pipeline

/-! ## One review -/

section Lawful

variable {m : Type → Type} [Monad m] [LawfulMonad m] {S : Type}

theorem Model.reply_beside (S : Type) (model : Model m) (prompt : String) (s : S) :
    ((model.beside S).reply prompt).run s =
      (do let answer ← model.reply prompt; pure (answer, s)) := by
  simp [Model.beside, StateT.run_lift]

theorem Model.review_beside (S : Type) (model : Model m) (pr : PullRequest)
    (chunks : List Chunk) (s : S) :
    ((model.beside S).review pr chunks).run s =
      (do let findings ← model.review pr chunks; pure (findings, s)) := by
  induction chunks with
  | nil => simp [Model.review]
  | cons chunk rest ih => simp [Model.review, Model.reply_beside, ih]

namespace Pipeline

theorem modelFindings_beside (S : Type) (p : Pipeline m) (pr : PullRequest) (chunks : List Chunk)
    (s : S) :
    ((p.beside S).modelFindings pr chunks).run s =
      (do let findings ← p.modelFindings pr chunks; pure (findings, s)) := by
  unfold modelFindings beside
  cases p.model with
  | none => simp
  | some model => exact model.review_beside S pr chunks s

omit [LawfulMonad m] in
theorem report_beside (S : Type) (p : Pipeline m) (chunks : List Chunk)
    (byRules byModel : List Finding) :
    (p.beside S).report chunks byRules byModel = p.report chunks byRules byModel := by
  unfold report beside
  cases p.model with
  | none => rfl
  | some model => rfl

theorem analyze_beside (S : Type) (p : Pipeline m) (pr : PullRequest) (diff : String) (s : S) :
    ((p.beside S).analyze pr diff).run s =
      (do let report? ← p.analyze pr diff; pure (report?, s)) := by
  have hlimits : (p.beside S).limits = p.limits := rfl
  have hchunks : (p.beside S).chunksOf diff = p.chunksOf diff := rfl
  have hrules : (p.beside S).heuristicFindings = p.heuristicFindings := rfl
  unfold analyze
  rw [hlimits, hchunks, hrules]
  by_cases h : p.limits.isExceededBy diff = true
  · rw [if_pos h, if_pos h]
    simp
  · rw [if_neg h, if_neg h]
    simp [modelFindings_beside, report_beside]

theorem publishReport_run (p : Pipeline m) (host : Host (StateM S)) (deletePrevious : Bool)
    (pr : PullRequest) (report : Report) (s : S) :
    (Reviewer.publishReport ⟨host.among m, p.beside S, deletePrevious⟩ pr report).run s =
      pure (host.conclude deletePrevious pr (some report) s) := by
  have hpublish : ((host.among m).publish deletePrevious pr report.findings).run s =
      pure ((host.publish deletePrevious pr report.findings).run s) := by
    cases deletePrevious with
    | false => rfl
    | true =>
      -- Whatever deleting is answered with, the run goes on with the post.
      show StateT.run (_ >>= _) s = _
      rw [StateT.run_bind]
      show pure _ >>= _ = _
      rw [pure_bind]
      rfl
  rw [Reviewer.publishReport, StateT.run_bind, hpublish, pure_bind, Host.conclude]
  cases ((host.publish deletePrevious pr report.findings).run s).1 with
  | error e => rfl
  | ok u => rfl

/-- A review whose diff cannot be fetched ends with that. -/
theorem review_of_fetch_error (p : Pipeline m) {host : Host (StateM S)} {deletePrevious : Bool}
    {pr : PullRequest} {s : S} {e : Error} (h : ((host.fetchDiff pr).run s).1 = .error e) :
    (Reviewer.review ⟨host.among m, p.beside S, deletePrevious⟩ pr).run s =
      pure (.error e, ((host.fetchDiff pr).run s).2) := by
  have hfetch : ((host.among m).fetchDiff pr).run s =
      pure (.error e, ((host.fetchDiff pr).run s).2) := congrArg pure (Prod.ext h rfl)
  rw [Reviewer.review, StateT.run_bind, hfetch, pure_bind]
  rfl

/-- Any other review is the analysis of the diff and what it comes to on the host. -/
theorem review_of_fetch (p : Pipeline m) {host : Host (StateM S)} {deletePrevious : Bool}
    {pr : PullRequest} {s : S} {diff : String} (h : ((host.fetchDiff pr).run s).1 = .ok diff) :
    (Reviewer.review ⟨host.among m, p.beside S, deletePrevious⟩ pr).run s =
      (do let report? ← p.analyze pr diff
          pure (host.conclude deletePrevious pr report? ((host.fetchDiff pr).run s).2)) := by
  have hfetch : ((host.among m).fetchDiff pr).run s =
      pure (.ok diff, ((host.fetchDiff pr).run s).2) := congrArg pure (Prod.ext h rfl)
  rw [Reviewer.review, StateT.run_bind, hfetch, pure_bind]
  -- The diff has been fetched, so the run goes on with its analysis.
  show StateT.run (_ >>= _) _ = _
  rw [StateT.run_bind, analyze_beside, bind_assoc]
  refine congrArg _ (funext fun report? => ?_)
  rw [pure_bind]
  cases report? with
  | none => rfl
  | some report => exact publishReport_run p host deletePrevious pr report _

/-- A review in which the host reports no error is the analysis of the diff and what it leaves on
the board. -/
theorem review_run (p : Pipeline m) (q : ReviewRequest) (b : Board) :
    (Reviewer.review ⟨q.script.host.among m, p.beside Board, true⟩ q.pullRequest).run b =
      (do let report? ← p.analyze q.pullRequest q.diff
          pure (.ok report?, b.afterReview q.pullRequest report?)) := by
  have hfetch : ((q.script.host.fetchDiff q.pullRequest).run b).1 = .ok q.diff := rfl
  rw [review_of_fetch p hfetch]
  refine congrArg _ (funext fun report? => congrArg pure ?_)
  cases report? with
  | none => rfl
  | some report => rfl

/-- A run of reviews in which the host reports no error is the analysis of all diffs and what they
leave on the board. -/
theorem reviewAll_run (p : Pipeline m) (requests : List ReviewRequest) (b : Board) :
    (p.reviewAll true (requests.map fun q => (q.pullRequest, q.script))).run b =
      (do let reports ← p.analyzeAll requests
          pure (reports.map .ok,
            b.afterReviews ((requests.map (·.pullRequest)).zip reports))) := by
  induction requests generalizing b with
  | nil => simp [reviewAll, analyzeAll, Board.afterReviews]
  | cons q rest ih =>
    simp [reviewAll, analyzeAll, Board.afterReviews, review_run, ih]

end Pipeline

end Lawful

end ReviewBot
