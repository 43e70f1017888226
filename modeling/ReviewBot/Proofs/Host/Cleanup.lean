import ReviewBot.Proofs.Host.Deletions
import ReviewBot.Proofs.Text.Search
import ReviewBot.Proofs.Token.Header

set_option autoImplicit false

/-!
# Which comments are deleted

A library for comments is taken to follow the links from one page to the next until there is none
(`CommentLibrary.FollowsLinks`). All pages of a pull request are listed before the first comment is
deleted (`HostClient.Lists`), so if a page fails, nothing is deleted. Otherwise the marked comments
are deleted in the order of the listing, up to the first that cannot be deleted
(`HostClient.IsDeletion`). This holds for every library, whose answers may depend on all that has
happened before (`HostClient.deleteMarked_run`).
-/

namespace ReviewBot

/-! ## Marked comments -/

namespace ListedComment

/-- The comment has a text, and the text contains the marker. -/
def HasMarker (marker : String) (comment : ListedComment) : Prop :=
  ∃ body, comment.body = some body ∧ marker.toList <:+: body.toList

theorem isMarked_iff {marker : String} {comment : ListedComment} :
    comment.isMarked marker = true ↔ comment.HasMarker marker := by
  rw [isMarked, Option.any_eq_true]
  simp only [String.hasPart, Text.occursIn_iff, HasMarker]

instance (marker : String) (comment : ListedComment) : Decidable (comment.HasMarker marker) :=
  decidable_of_iff _ isMarked_iff

/-- The marked comments, in order. -/
def marked (marker : String) (comments : List ListedComment) : List ListedComment :=
  comments.filter fun comment => comment.HasMarker marker

theorem filter_isMarked (marker : String) (comments : List ListedComment) :
    comments.filter (·.isMarked marker) = marked marker comments := by
  refine List.filter_congr fun comment _ => ?_
  rw [Bool.eq_iff_iff, decide_eq_true_iff, isMarked_iff]

end ListedComment

/-! ## Listing -/

section Listing

variable {S : Type}

/-- A page and all pages after it are got one after the other, as each says where the next one is:
the comments on each of them, or why one could not be got. -/
inductive Leads (getPage : String → StateM S (Except String CommentPage)) :
    CommentPage → S → Except String (List (List ListedComment)) → S → Prop
  | last {comments : List ListedComment} {s : S} :
      Leads getPage ⟨comments, none⟩ s (.ok [comments]) s
  | broken {comments : List ListedComment} {url reason : String} {s s' : S} :
      (getPage url).run s = (.error reason, s') →
      Leads getPage ⟨comments, some url⟩ s (.error reason) s'
  | next {comments : List ListedComment} {url : String} {page : CommentPage}
      {pages : Except String (List (List ListedComment))} {s s' s'' : S} :
      (getPage url).run s = (.ok page, s') → Leads getPage page s' pages s'' →
      Leads getPage ⟨comments, some url⟩ s (pages.map (comments :: ·)) s''

/-- The library follows the links from a page to the next one until there is none, and puts the
comments on all pages together. -/
def CommentLibrary.FollowsLinks (library : CommentLibrary (StateM S))
    (getPage : CommentSession → String → StateM S (Except String CommentPage)) : Prop :=
  ∀ session page s pages s', Leads (getPage session) page s pages s' →
    (library.allPages session page).run s = (pages.map List.flatten, s')

namespace HostClient

variable {c : HostClient (StateM S)}
  {getPage : CommentSession → String → StateM S (Except String CommentPage)} {pr : PullRequest}
  {s s' : S}

/-- A session of the client begins. -/
structure Begins (c : HostClient (StateM S)) (pr : PullRequest) (s : S) (token : String) (s' : S) :
    Prop where
  isGiven : (c.token pr).run s = (.ok token, s')
  isSetUp : c.library.setUp ⟨c.apiUrl, token⟩ = .ok ()

/-- A session begins, and then the comments on the pull request are listed: those on each page, or
why a page could not be got. -/
inductive Lists (c : HostClient (StateM S))
    (getPage : CommentSession → String → StateM S (Except String CommentPage))
    (pr : PullRequest) (s : S) : Except String (List (List ListedComment)) → S → Prop
  | broken {token reason : String} {s' s'' : S} : c.Begins pr s token s' →
      (c.library.firstPage ⟨c.apiUrl, token⟩ pr.owner pr.repo pr.number 100).run s' =
        (.error reason, s'') →
      Lists c getPage pr s (.error reason) s''
  | pages {token : String} {page : CommentPage}
      {pages : Except String (List (List ListedComment))} {s' s'' s''' : S} :
      c.Begins pr s token s' →
      (c.library.firstPage ⟨c.apiUrl, token⟩ pr.owner pr.repo pr.number 100).run s' =
        (.ok page, s'') →
      Leads (getPage ⟨c.apiUrl, token⟩) page s'' pages s''' →
      Lists c getPage pr s pages s'''

/-! ## Calls -/

section Calls

variable {marker token : String} {record : List Deletion}

/-- Without a session nothing is deleted. -/
theorem deleteMarked_of_not_begins (h : ∀ token s', ¬ c.Begins pr s token s') :
    let run := (c.recording.deleteMarked pr marker).run (s, [])
    run.2.2 = [] ∧ ∃ e, run.1 = .error e := by
  intro run
  obtain ⟨answer, s', htoken⟩ : ∃ answer s', (c.token pr).run s = (answer, s') := ⟨_, _, rfl⟩
  have hrecording : (c.recording.token pr).run (s, []) = (answer, (s', [])) := by
    rw [recording_token]
    exact besideRecord_run htoken []
  cases answer with
  | error e =>
    have hrun : run = (.error e, (s', [])) := withToken_of_error hrecording
    rw [hrun]
    exact ⟨rfl, e, rfl⟩
  | ok token =>
    have hrun : run = (c.recording.inSession (c.recording.deleteMarkedIn pr marker) token).run
        (s', []) := withToken_of_token hrecording
    cases hsetUp : c.library.setUp ⟨c.apiUrl, token⟩ with
    | ok done => exact absurd ⟨htoken, hsetUp⟩ (h token s')
    | error fault =>
      have hfault : c.recording.library.setUp ⟨c.recording.apiUrl, token⟩ = .error fault := hsetUp
      rw [hrun, inSession, hfault]
      exact ⟨rfl, _, rfl⟩

theorem deleteMarked_of_begins (h : c.Begins pr s token s') :
    (c.recording.deleteMarked pr marker).run (s, []) =
      (c.recording.deleteMarkedIn pr marker ⟨c.apiUrl, token⟩).run (s', []) := by
  have hrecording : (c.recording.token pr).run (s, []) = (.ok token, (s', [])) := by
    rw [recording_token]
    exact besideRecord_run h.isGiven []
  have hsetUp : c.recording.library.setUp ⟨c.recording.apiUrl, token⟩ = .ok () := h.isSetUp
  rw [deleteMarked, withToken_of_token hrecording, inSession, hsetUp]
  rfl

/-- The listing, as the client gets it. -/
theorem Lists.listIn_run {pages : Except String (List (List ListedComment))}
    (hfollows : c.library.FollowsLinks getPage) (h : c.Lists getPage pr s pages s') :
    ∃ token s'', c.Begins pr s token s'' ∧
      (c.listIn pr ⟨c.apiUrl, token⟩).run s'' = (pages.map List.flatten, s') := by
  cases h with
  | broken hbegins hfirst =>
    refine ⟨_, _, hbegins, ?_⟩
    simp only [listIn, StateT.run_bind, hfirst]
    rfl
  | pages hbegins hfirst hleads =>
    refine ⟨_, _, hbegins, ?_⟩
    have hall := hfollows _ _ _ _ _ hleads
    simp only [listIn, StateT.run_bind, hfirst]
    exact hall

theorem deleteMarked_of_listed {comments : List ListedComment} (hbegins : c.Begins pr s token s')
    {s'' : S} (h : (c.listIn pr ⟨c.apiUrl, token⟩).run s' = (.ok comments, s'')) :
    (c.recording.deleteMarked pr marker).run (s, []) =
      (c.recording.deleteAll pr ⟨c.apiUrl, token⟩ 0 (ListedComment.marked marker comments)).run
        (s'', []) := by
  have hlist : (c.recording.listIn pr ⟨c.apiUrl, token⟩).run (s', []) =
      pure (.ok comments, (s'', [])) := by
    rw [recording_listIn]
    exact besideRecord_run h []
  rw [deleteMarked_of_begins hbegins]
  simp only [deleteMarkedIn, StateT.run_bind, hlist, pure_bind, ListedComment.filter_isMarked]

theorem deleteMarked_of_not_listed {reason : String} (hbegins : c.Begins pr s token s') {s'' : S}
    (h : (c.listIn pr ⟨c.apiUrl, token⟩).run s' = (.error reason, s'')) :
    (c.recording.deleteMarked pr marker).run (s, []) = (.error (listFailed reason), (s'', [])) := by
  have hlist : (c.recording.listIn pr ⟨c.apiUrl, token⟩).run (s', []) =
      pure (.error reason, (s'', [])) := by
    rw [recording_listIn]
    exact besideRecord_run h []
  rw [deleteMarked_of_begins hbegins]
  simp only [deleteMarkedIn, StateT.run_bind, hlist, pure_bind]
  rfl

end Calls

/-- Deleting the marked comments on a pull request, for every library that follows the links between
pages. If all pages can be listed, the marked comments on them are asked to be deleted in the order
of the listing, up to the first that cannot be deleted, and no other comment is; the outcome is the
number of marked comments if all have been deleted, and an error of the code host otherwise. If a
page cannot be got, or if no session begins, nothing is deleted and the call fails. The record of
the deletions changes nothing. -/
theorem deleteMarked_run (c : HostClient (StateM S))
    (getPage : CommentSession → String → StateM S (Except String CommentPage))
    (hfollows : c.library.FollowsLinks getPage) (pr : PullRequest) (marker : String) (s : S) :
    let run := (c.recording.deleteMarked pr marker).run (s, [])
    let deletions := run.2.2
    (c.deleteMarked pr marker).run s = (run.1, run.2.1) ∧
    (∀ pages s', c.Lists getPage pr s (.ok pages) s' →
      let marked := ListedComment.marked marker pages.flatten
      IsDeletion pr marked marked.length deletions run.1) ∧
    (∀ reason s', c.Lists getPage pr s (.error reason) s' →
      deletions = [] ∧ run.1 = .error (.host ("failed to list comments: " ++ reason))) ∧
    ((∀ token s', ¬ c.Begins pr s token s') → deletions = [] ∧ ∃ e, run.1 = .error e) := by
  intro run deletions
  refine ⟨mirrors_deleteMarked c pr marker s [], fun pages s' h => ?_, fun reason s' h => ?_,
    deleteMarked_of_not_begins⟩
  · -- The listing does not touch the record, so the loop over the marked comments starts it.
    intro marked
    obtain ⟨token, s'', hbegins, hlisted⟩ := h.listIn_run hfollows
    obtain ⟨deletions', hrecord, hdeletion⟩ :=
      deleteAll_run c pr ⟨c.apiUrl, token⟩ marked 0 s' []
    have hrun : run = (c.recording.deleteAll pr ⟨c.apiUrl, token⟩ 0 marked).run (s', []) :=
      deleteMarked_of_listed hbegins hlisted
    rw [← hrun, Nat.zero_add] at hdeletion
    rw [← hrun] at hrecord
    have hsame : deletions = deletions' := hrecord
    rw [hsame]
    exact hdeletion
  · obtain ⟨token, s'', hbegins, hlisted⟩ := h.listIn_run hfollows
    have hrun : run = (.error (listFailed reason), (s', [])) :=
      deleteMarked_of_not_listed hbegins hlisted
    have hdeletions : deletions = run.2.2 := rfl
    rw [hdeletions, hrun]
    exact ⟨rfl, rfl⟩

/-! ## Two pages -/

/-- The first of two pages of comments. -/
def firstOfTwo : CommentPage := ⟨[⟨1, some "x mark"⟩, ⟨2, none⟩], some "p2"⟩

/-- The second of them. -/
def secondOfTwo : CommentPage :=
  ⟨[⟨3, some "mark"⟩, ⟨4, some "plain"⟩, ⟨5, some "mark too"⟩], none⟩

/-- A library that lists the comments on these pages, and cannot delete comment 3. -/
def twoPages : CommentLibrary (StateM Unit) where
  setUp _ := .ok ()
  post _ _ _ _ _ := pure (.ok ())
  firstPage _ _ _ _ _ := pure (.ok firstOfTwo)
  allPages _ page :=
    pure (.ok (page.comments ++ page.next.elim [] fun _ => secondOfTwo.comments))
  delete _ _ _ id := pure (if id = 3 then .error "gone" else .ok ())

theorem followsLinks_twoPages : twoPages.FollowsLinks fun _ _ => pure (.ok secondOfTwo) := by
  intro session page s pages s' h
  cases h with
  | @last comments s =>
    have hflatten : comments ++ [] = [comments].flatten := by simp
    exact congrArg (fun listed => ((.ok listed, s) : Except String (List ListedComment) × Unit))
      hflatten
  | broken hpage => exact absurd (congrArg Prod.fst hpage) nofun
  | next hpage hleads =>
    -- The page that is got is the second one, and it is the last.
    obtain rfl := Except.ok.inj (congrArg Prod.fst hpage)
    cases hleads with
    | last => rfl

/-- A client of that library. -/
def twoPagesClient : HostClient (StateM Unit) :=
  ofUrl ⟨fun r => pure (.error (.unreachable r.url))⟩ twoPages "http://h" TokenIssuer.sample
    (pure 0)

theorem deleteMarked_run_of_two_pages :
    let pr : PullRequest := { owner := "o", repo := "r", number := 7, installationId := none }
    let getPage : CommentSession → String → StateM Unit (Except String CommentPage) :=
      fun _ _ => pure (.ok secondOfTwo)
    let deletions : List Deletion := [⟨"o", "r", 1, .ok ()⟩, ⟨"o", "r", 3, .error "gone"⟩]
    let outcome : Except Error Nat := .error (.host "failed to delete comment: gone")
    twoPagesClient.library.FollowsLinks getPage ∧
      twoPagesClient.Lists getPage pr () (.ok [firstOfTwo.comments, secondOfTwo.comments]) () ∧
      (twoPagesClient.recording.deleteMarked pr "mark").run ((), []) =
        (outcome, ((), deletions)) ∧
      IsDeletion pr [⟨1, some "x mark"⟩, ⟨3, some "mark"⟩, ⟨5, some "mark too"⟩] 3 deletions
        outcome := by
  intro pr getPage deletions outcome
  have hnow : twoPagesClient.now = pure 0 := rfl
  have hbegins : twoPagesClient.Begins pr () TokenIssuer.sampleToken () :=
    ⟨token_of_app hnow TokenIssuer.issue_sample rfl, rfl⟩
  have hlists : twoPagesClient.Lists getPage pr ()
      (.ok [firstOfTwo.comments, secondOfTwo.comments]) () :=
    .pages hbegins rfl (.next rfl .last)
  have hmarked : ListedComment.marked "mark" [firstOfTwo.comments, secondOfTwo.comments].flatten =
      [⟨1, some "x mark"⟩, ⟨3, some "mark"⟩, ⟨5, some "mark too"⟩] := by
    decide +kernel
  have hrun : (twoPagesClient.recording.deleteMarked pr "mark").run ((), []) =
      (outcome, ((), deletions)) := by
    have hlisted : (twoPagesClient.listIn pr ⟨twoPagesClient.apiUrl, TokenIssuer.sampleToken⟩).run
        () = (.ok [firstOfTwo.comments, secondOfTwo.comments].flatten, ()) := rfl
    rw [deleteMarked_of_listed hbegins hlisted, hmarked]
    rfl
  obtain ⟨-, hdeletion, -⟩ :=
    deleteMarked_run twoPagesClient getPage followsLinks_twoPages pr "mark" ()
  have hdeletion := hdeletion _ _ hlists
  rw [hmarked, hrun] at hdeletion
  exact ⟨followsLinks_twoPages, hlists, hrun, hdeletion⟩

end HostClient

end Listing

end ReviewBot
