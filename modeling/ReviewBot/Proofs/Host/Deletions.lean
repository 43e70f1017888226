import ReviewBot.Proofs.Host.Exchange

set_option autoImplicit false

/-!
# Deletions on record

A client can be made to keep a record of the deletions that its library is asked for, with the
answers (`HostClient.recording`). It does the same as without the record
(`HostClient.mirrors_deleteMarked`). Comments are deleted one after the other, up to the first that
cannot be (`HostClient.deleteAll_run`).
-/

namespace ReviewBot

/-! ## Records of deletions -/

/-- A deletion of a comment in a repository, with the answer of the code host. -/
structure Deletion where
  /-- Owner of the repository. -/
  owner : String
  /-- The repository. -/
  repo : String
  /-- Number of the comment. -/
  id : Nat
  /-- The answer. -/
  answer : Except String Unit

section Recording

variable {S R α β : Type}

/-- The computation beside a record that it does not touch. -/
def besideRecord (act : StateM S α) : StateM (S × R) α := fun s =>
  let result := act.run s.1
  (result.1, (result.2, s.2))

theorem besideRecord_run {act : StateM S α} {s s' : S} {a : α} (h : act.run s = (a, s'))
    (record : R) : (besideRecord act).run (s, record) = (a, (s', record)) := by
  show ((act.run s).1, ((act.run s).2, record)) = _
  rw [h]

theorem besideRecord_bind (act : StateM S α) (next : α → StateM S β) :
    (besideRecord (act >>= next) : StateM (S × R) β) =
      besideRecord act >>= fun a => besideRecord (next a) := rfl

/-- The computation with a record does the same as the one without. -/
def Mirrors (recorded : StateM (S × R) α) (act : StateM S α) : Prop :=
  ∀ s record, act.run s = ((recorded.run (s, record)).1, (recorded.run (s, record)).2.1)

theorem mirrors_besideRecord (act : StateM S α) :
    Mirrors (besideRecord act : StateM (S × R) α) act := fun _ _ => rfl

theorem Mirrors.bind {recorded : StateM (S × R) α} {act : StateM S α}
    {recordedNext : α → StateM (S × R) β} {next : α → StateM S β} (h : Mirrors recorded act)
    (hnext : ∀ a, Mirrors (recordedNext a) (next a)) :
    Mirrors (recorded >>= recordedNext) (act >>= next) := by
  intro s record
  have hrun : (act >>= next).run s = (next (act.run s).1).run (act.run s).2 := rfl
  rw [hrun, h s record]
  exact hnext _ _ (recorded.run (s, record)).2.2

/-- The library with a record of all deletions, in order. -/
def CommentLibrary.recording (library : CommentLibrary (StateM S)) :
    CommentLibrary (StateM (S × List Deletion)) where
  setUp := library.setUp
  post s owner repo number body := besideRecord (library.post s owner repo number body)
  firstPage s owner repo number perPage :=
    besideRecord (library.firstPage s owner repo number perPage)
  allPages s page := besideRecord (library.allPages s page)
  delete s owner repo id := fun before =>
    let result := (library.delete s owner repo id).run before.1
    (result.1, (result.2, before.2 ++ [⟨owner, repo, id, result.1⟩]))

/-- The client with a record of all deletions, in order. -/
def HostClient.recording (c : HostClient (StateM S)) :
    HostClient (StateM (S × List Deletion)) where
  network := ⟨fun r => besideRecord (c.network.send r)⟩
  library := c.library.recording
  apiUrl := c.apiUrl
  issuer := c.issuer
  now := besideRecord c.now

end Recording

namespace HostClient

variable {S : Type} {c : HostClient (StateM S)} {pr : PullRequest} {s s' : S}

/-! ## The client with its record -/

theorem recording_submit (c : HostClient (StateM S)) (url : String)
    (request : Url → HttpRequest) :
    c.recording.network.submit url request = besideRecord (c.network.submit url request) := by
  unfold Network.submit
  cases Url.read? url with
  | none => rfl
  | some u =>
    show Network.dispatch _ _ = besideRecord (Network.dispatch _ _)
    unfold Network.dispatch
    split
    · rfl
    · split
      · rfl
      · rfl

theorem recording_token (c : HostClient (StateM S)) (pr : PullRequest) :
    c.recording.token pr = besideRecord (c.token pr) := by
  have hexchange : ∀ installation appToken, c.recording.exchange installation appToken =
      besideRecord (c.exchange installation appToken) := by
    intro installation appToken
    unfold exchange
    rw [besideRecord_bind, ← recording_submit]
    refine congrArg _ (funext fun answer => ?_)
    cases answer with
    | ok response => rfl
    | error fault => rfl
  unfold token
  rw [besideRecord_bind]
  refine congrArg _ (funext fun now => ?_)
  have hissuer : c.recording.issuer = c.issuer := rfl
  rw [hissuer]
  cases c.issuer.issue now with
  | error e => rfl
  | ok appToken =>
    cases pr.installationId with
    | none => rfl
    | some installation => exact hexchange installation appToken

theorem recording_listIn (c : HostClient (StateM S)) (pr : PullRequest)
    (session : CommentSession) :
    c.recording.listIn pr session = besideRecord (c.listIn pr session) := by
  unfold listIn
  rw [besideRecord_bind]
  refine congrArg _ (funext fun first => ?_)
  cases first with
  | ok page => rfl
  | error reason => rfl

theorem recording_delete {session : CommentSession} {comment : ListedComment}
    {answer : Except String Unit}
    (h : (c.library.delete session pr.owner pr.repo comment.id).run s = (answer, s'))
    (record : List Deletion) :
    (c.recording.library.delete session pr.owner pr.repo comment.id).run (s, record) =
      pure (answer, (s', record ++ [⟨pr.owner, pr.repo, comment.id, answer⟩])) := by
  show (_, (_, record ++ [⟨pr.owner, pr.repo, comment.id, _⟩])) = _
  rw [h]
  rfl

/-- Of the marked comments of a pull request all up to the first that cannot be deleted are asked to
be deleted, one after the other. If all have been, the outcome is `count`, and otherwise it says
why the last one could not be. -/
structure IsDeletion (pr : PullRequest) (marked : List ListedComment) (count : Nat)
    (deletions : List Deletion) (outcome : Except Error Nat) : Prop where
  ids : deletions.map (·.id) <+: marked.map (·.id)
  place : ∀ d ∈ deletions, d.owner = pr.owner ∧ d.repo = pr.repo
  goesOn : ∀ d ∈ deletions.dropLast, d.answer = .ok ()
  done : (∀ d ∈ deletions, d.answer = .ok ()) →
    deletions.length = marked.length ∧ outcome = .ok count
  failed : ∀ d ∈ deletions, ∀ reason, d.answer = .error reason →
    outcome = .error (.host ("failed to delete comment: " ++ reason))

theorem isDeletion_nil (pr : PullRequest) (count : Nat) :
    IsDeletion pr [] count [] (.ok count) where
  ids := List.prefix_rfl
  place _ hd := absurd hd List.not_mem_nil
  goesOn _ hd := absurd hd List.not_mem_nil
  done _ := ⟨rfl, rfl⟩
  failed _ hd := absurd hd List.not_mem_nil

/-- The first comment cannot be deleted. -/
theorem isDeletion_of_error (pr : PullRequest) (comment : ListedComment)
    (rest : List ListedComment) (count : Nat) (reason : String) :
    IsDeletion pr (comment :: rest) count [⟨pr.owner, pr.repo, comment.id, .error reason⟩]
      (.error (deleteFailed reason)) where
  ids := List.prefix_cons_inj _ |>.2 List.nil_prefix
  place d hd := by
    rw [List.mem_singleton.1 hd]
    exact ⟨rfl, rfl⟩
  goesOn d hd := absurd hd List.not_mem_nil
  done h := absurd (h _ (List.mem_singleton.2 rfl)) nofun
  failed d hd reason' h := by
    rw [List.mem_singleton.1 hd] at h
    rw [← Except.error.inj h]
    rfl

/-- The first comment has been deleted, and it goes on with the others. -/
theorem IsDeletion.cons {comment : ListedComment} {rest : List ListedComment} {count : Nat}
    {deletions : List Deletion} {outcome : Except Error Nat}
    (h : IsDeletion pr rest count deletions outcome) :
    IsDeletion pr (comment :: rest) count
      (⟨pr.owner, pr.repo, comment.id, .ok ()⟩ :: deletions) outcome where
  ids := List.prefix_cons_inj _ |>.2 h.ids
  place d hd := by
    rcases List.mem_cons.1 hd with rfl | hd
    · exact ⟨rfl, rfl⟩
    · exact h.place d hd
  goesOn d hd := by
    cases deletions with
    | nil => exact absurd hd List.not_mem_nil
    | cons first later =>
      rcases List.mem_cons.1 hd with rfl | hd
      · rfl
      · exact h.goesOn d hd
  done hall := by
    obtain ⟨hlength, houtcome⟩ := h.done fun d hd => hall d (List.mem_cons_of_mem _ hd)
    exact ⟨congrArg (· + 1) hlength, houtcome⟩
  failed d hd reason hreason := by
    rcases List.mem_cons.1 hd with rfl | hd
    · exact absurd hreason nofun
    · exact h.failed d hd reason hreason

/-- Comments are deleted one after the other, up to the first that cannot be. -/
theorem deleteAll_run (c : HostClient (StateM S)) (pr : PullRequest) (session : CommentSession)
    (comments : List ListedComment) (deleted : Nat) (s : S) (record : List Deletion) :
    let run := (c.recording.deleteAll pr session deleted comments).run (s, record)
    ∃ deletions, run.2.2 = record ++ deletions ∧
      IsDeletion pr comments (deleted + comments.length) deletions run.1 := by
  induction comments generalizing deleted s record with
  | nil => exact ⟨[], (List.append_nil _).symm, isDeletion_nil pr deleted⟩
  | cons comment rest ih =>
    intro run
    have hrun : run =
        (c.recording.deleteAll pr session deleted (comment :: rest)).run (s, record) := rfl
    obtain ⟨answer, s', hanswer⟩ : ∃ answer s',
        (c.library.delete session pr.owner pr.repo comment.id).run s = (answer, s') :=
      ⟨_, _, rfl⟩
    have hdelete := recording_delete hanswer record
    -- A deleted comment moves on the count and the record; one that stays ends the run.
    cases answer with
    | error reason =>
      simp only [deleteAll, StateT.run_bind, hdelete, pure_bind] at hrun
      rw [hrun]
      exact ⟨_, rfl, isDeletion_of_error pr comment rest _ reason⟩
    | ok done =>
      simp only [deleteAll, StateT.run_bind, hdelete, pure_bind] at hrun
      rw [hrun]
      obtain ⟨later, hlater, hdeletion⟩ := ih (deleted + 1) s'
        (record ++ [⟨pr.owner, pr.repo, comment.id, .ok ()⟩])
      refine ⟨⟨pr.owner, pr.repo, comment.id, .ok ()⟩ :: later, ?_, ?_⟩
      · rw [hlater, List.append_assoc, List.singleton_append]
      · rw [List.length_cons, ← Nat.add_assoc, Nat.add_right_comm]
        exact hdeletion.cons

/-- The record changes nothing. -/
theorem mirrors_deleteMarked (c : HostClient (StateM S)) (pr : PullRequest) (marker : String) :
    Mirrors (c.recording.deleteMarked pr marker) (c.deleteMarked pr marker) := by
  -- Each part with a record mirrors the one without, from the loop outwards.
  have hdeleteAll : ∀ session comments deleted,
      Mirrors (c.recording.deleteAll pr session deleted comments)
        (c.deleteAll pr session deleted comments) := by
    intro session comments
    induction comments with
    | nil => exact fun _ _ _ => rfl
    | cons comment rest ih =>
      intro deleted
      have hdelete : Mirrors (c.recording.library.delete session pr.owner pr.repo comment.id)
          (c.library.delete session pr.owner pr.repo comment.id) := fun _ _ => rfl
      refine hdelete.bind fun answer => ?_
      cases answer with
      | ok done => exact ih (deleted + 1)
      | error reason => exact fun _ _ => rfl
  have hdeleteMarkedIn : ∀ session,
      Mirrors (c.recording.deleteMarkedIn pr marker session)
        (c.deleteMarkedIn pr marker session) := by
    intro session
    unfold deleteMarkedIn
    rw [recording_listIn]
    refine (mirrors_besideRecord _).bind fun listed => ?_
    cases listed with
    | ok comments => exact hdeleteAll session _ 0
    | error reason => exact fun _ _ => rfl
  unfold deleteMarked withToken
  rw [recording_token]
  refine (mirrors_besideRecord _).bind fun token => ?_
  cases token with
  | error e => exact fun _ _ => rfl
  | ok token =>
    show Mirrors (inSession c.recording _ token) (inSession c _ token)
    have hsetUp : c.recording.library.setUp = c.library.setUp := rfl
    have hroot : c.recording.apiUrl = c.apiUrl := rfl
    unfold inSession
    rw [hsetUp, hroot]
    cases c.library.setUp ⟨c.apiUrl, token⟩ with
    | ok done => exact hdeleteMarkedIn _
    | error fault => exact fun _ _ => rfl

end HostClient

end ReviewBot
