import ReviewBot.Host.Board
import ReviewBot.Host.Publication

set_option autoImplicit false

/-!
# Publications that fail

A host promises that a comment it does not post leaves no trace, and that deleting takes away
nothing but the marked comments of one pull request, all of them unless it fails (`Host.Promises`).
Then a publication that fails adds nothing and takes away at most earlier reviews of the same pull
request; these are gone when they were to be deleted and only posting failed (`publish_of_error`).
-/

namespace ReviewBot

variable {S : Type}

theorem Board.filter_of_unmarked {n marker : String} {comments : List Comment}
    (h : ∀ c ∈ comments, isMarked n marker c = false) :
    comments.filter (!isMarked n marker ·) = comments := by
  rw [List.filter_eq_self]
  intro c hc
  rw [h c hc]
  rfl

/-- What a host promises about the comments on it, which are seen through `comments`. -/
structure Host.Promises (host : Host (StateM S)) (comments : S → List Comment) : Prop where
  post_error : ∀ pr body s e, ((host.postComment pr body).run s).1 = .error e →
    comments ((host.postComment pr body).run s).2 = comments s
  delete_sublist : ∀ pr marker s,
    (comments ((host.deleteMarked pr marker).run s).2).Sublist (comments s)
  delete_others : ∀ pr marker s,
    (comments ((host.deleteMarked pr marker).run s).2).filter
        (!Board.isMarked pr.name marker ·) =
      (comments s).filter (!Board.isMarked pr.name marker ·)
  delete_ok : ∀ pr marker s n, ((host.deleteMarked pr marker).run s).1 = .ok n →
    ∀ c ∈ comments ((host.deleteMarked pr marker).run s).2,
      Board.isMarked pr.name marker c = false

/-- A board keeps the promises of a host, whatever its script. -/
theorem BoardScript.promises (script : BoardScript) : script.host.Promises Board.comments where
  post_error := by
    intro pr body b e h
    cases hfailure : script.postFailure with
    | none => simp [host, StateT.run, hfailure] at h
    | some e' => simp [host, StateT.run, hfailure, Board.note]
  delete_sublist := by
    intro pr marker b
    cases hfailure : script.deleteFailure with
    | none =>
      simp only [host, StateT.run, hfailure]
      exact List.filter_sublist
    | some e =>
      simp only [host, StateT.run, hfailure]
      exact List.Sublist.refl _
  delete_others := by
    intro pr marker b
    cases hfailure : script.deleteFailure with
    | none => simp [host, StateT.run, hfailure, Board.deleteMarked, Board.note]
    | some e => simp [host, StateT.run, hfailure, Board.note]
  delete_ok := by
    intro pr marker b n h c hc
    cases hfailure : script.deleteFailure with
    | none =>
      simp only [host, StateT.run, hfailure] at hc
      simpa using (List.mem_filter.1 hc).2
    | some e => simp [host, StateT.run, hfailure] at h

namespace Host

/-- The state in which the comment is posted: after earlier reviews have been deleted, as far as
they are to be. -/
def cleaned (host : Host (StateM S)) (deletePrevious : Bool) (pr : PullRequest) (s : S) : S :=
  if deletePrevious then ((host.deleteMarked pr Markdown.marker).run s).2 else s

/-- Publishing posts the comment after cleaning up, whatever has become of that. -/
theorem publish_run (host : Host (StateM S)) (deletePrevious : Bool) (pr : PullRequest)
    (findings : List Finding) (s : S) :
    (host.publish deletePrevious pr findings).run s =
      (host.postComment pr (Markdown.render findings)).run (host.cleaned deletePrevious pr s) := by
  cases deletePrevious with
  | false => rfl
  | true => rfl

namespace Promises

variable {host : Host (StateM S)} {comments : S → List Comment} {pr : PullRequest}
  {marker : String} {s : S}

theorem delete_ok_eq (h : host.Promises comments) {n : Nat}
    (hok : ((host.deleteMarked pr marker).run s).1 = .ok n) :
    comments ((host.deleteMarked pr marker).run s).2 =
      (comments s).filter (!Board.isMarked pr.name marker ·) := by
  rw [← h.delete_others pr marker s]
  exact (Board.filter_of_unmarked (h.delete_ok pr marker s n hok)).symm

theorem delete_of_unmarked (h : host.Promises comments)
    (hnone : ∀ c ∈ comments s, Board.isMarked pr.name marker c = false) :
    comments ((host.deleteMarked pr marker).run s).2 = comments s := by
  have hsubset := (h.delete_sublist pr marker s).subset
  have hothers := h.delete_others pr marker s
  rw [Board.filter_of_unmarked hnone,
    Board.filter_of_unmarked fun c hc => hnone c (hsubset hc)] at hothers
  exact hothers

end Promises

/-- A publication that fails adds no comment and keeps all comments but earlier reviews of the same
pull request. Without deleting, or with nothing to delete, it changes nothing; otherwise the
comments are those that deleting has left, which is none of the earlier reviews if it succeeded. -/
theorem publish_of_error {host : Host (StateM S)} {comments : S → List Comment}
    (h : host.Promises comments) {deletePrevious : Bool} {pr : PullRequest}
    {findings : List Finding} {s : S} {e : Error}
    (herror : ((host.publish deletePrevious pr findings).run s).1 = .error e) :
    let after := comments ((host.publish deletePrevious pr findings).run s).2
    let cleanup := (host.deleteMarked pr Markdown.marker).run s
    after.Sublist (comments s) ∧
      after.filter (!Board.isMarked pr.name Markdown.marker ·) =
        (comments s).filter (!Board.isMarked pr.name Markdown.marker ·) ∧
      ((∀ c ∈ comments s, Board.isMarked pr.name Markdown.marker c = false) →
        after = comments s) ∧
      (deletePrevious = false → after = comments s) ∧
      (deletePrevious = true → after = comments cleanup.2 ∧ ∀ n, cleanup.1 = .ok n →
        after = (comments s).filter (!Board.isMarked pr.name Markdown.marker ·)) := by
  intro after cleanup
  have hafter : after = comments (host.cleaned deletePrevious pr s) := by
    rw [publish_run] at herror
    show comments ((host.publish deletePrevious pr findings).run s).2 = _
    rw [publish_run]
    exact h.post_error _ _ _ _ herror
  rw [hafter]
  cases deletePrevious with
  | false =>
    have hkept : host.cleaned false pr s = s := rfl
    rw [hkept]
    exact ⟨List.Sublist.refl _, rfl, fun _ => rfl, fun _ => rfl, fun hon => Bool.noConfusion hon⟩
  | true =>
    have hleft : host.cleaned true pr s = cleanup.2 := rfl
    rw [hleft]
    exact ⟨h.delete_sublist _ _ _, h.delete_others _ _ _, h.delete_of_unmarked,
      fun hoff => Bool.noConfusion hoff, fun _ => ⟨rfl, fun n hok => h.delete_ok_eq hok⟩⟩

/-- Posting fails after an earlier review has been deleted. -/
theorem publish_of_error_after_cleanup :
    let script : BoardScript := { diff := .ok "", postFailure := some (.host "502 Bad Gateway") }
    let pr : PullRequest := { owner := "o", repo := "r", number := 1 }
    let b : Board := ⟨[⟨"o/r#1", "please rename"⟩, ⟨"o/r#1", "old <!-- lookout:review -->"⟩,
      ⟨"o/r#2", "<!-- lookout:review -->"⟩], []⟩
    ((script.host.publish true pr []).run b).1 = .error (.host "502 Bad Gateway") ∧
      ((script.host.publish true pr []).run b).2.comments =
        [⟨"o/r#1", "please rename"⟩, ⟨"o/r#2", "<!-- lookout:review -->"⟩] := by
  intro script pr b
  have herror : ((script.host.publish true pr []).run b).1 = .error (.host "502 Bad Gateway") := rfl
  have hcleanup : ((script.host.deleteMarked pr Markdown.marker).run b).1 = .ok 1 := by
    have hcount : b.comments.countP (Board.isMarked pr.name Markdown.marker) = 1 := by decide
    exact congrArg Except.ok hcount
  obtain ⟨-, -, -, -, hcleaned⟩ := publish_of_error script.promises herror
  refine ⟨herror, ?_⟩
  rw [(hcleaned rfl).2 1 hcleanup]
  decide

/-- An earlier review is gone although no new one could be posted. -/
theorem publish_error_loses_review :
    let script : BoardScript := { diff := .ok "", postFailure := some (.host "502 Bad Gateway") }
    let pr : PullRequest := { owner := "o", repo := "r", number := 1 }
    let b : Board := ⟨[⟨"o/r#1", "old <!-- lookout:review -->"⟩], []⟩
    ((script.host.publish true pr []).run b).1 = .error (.host "502 Bad Gateway") ∧
      ((script.host.publish true pr []).run b).2.comments ≠ b.comments := by
  intro script pr b
  have hgone : ((script.host.publish true pr []).run b).2.comments = [] := by decide
  refine ⟨rfl, ?_⟩
  rw [hgone]
  decide

end Host

end ReviewBot
