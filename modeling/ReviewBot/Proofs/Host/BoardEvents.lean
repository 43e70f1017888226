import ReviewBot.Proofs.Host.Calls
import ReviewBot.Proofs.Review.OneReview

set_option autoImplicit false

/-!
# What calls leave on a board

Where the host reports no error, the comments on a board are those that its calls leave in order
(`comments_call`). After calls of reviews, the reviews on a pull request are those that have been
posted since reviews were last deleted there (`reviewsOn_afterEvents`).
-/

namespace ReviewBot

namespace HostEvent

/-- The call is one of a review, and the host has reported no error. -/
inductive IsOfReview (pr : PullRequest) : HostEvent → Prop
  | fetched (diff : String) : IsOfReview pr (.fetched pr (.ok diff))
  | deleted (count : Nat) : IsOfReview pr (.deleted pr Markdown.marker (.ok count))
  | posted (findings : List Finding) :
      IsOfReview pr (.posted pr (Markdown.render findings) (.ok ()))

/-- The call deletes comments on a pull request. -/
def deletesOn (n : String) : HostEvent → Bool
  | deleted pr _ _ => pr.name = n
  | _ => false

/-- The comment that the call posts on a pull request. -/
def postOn? (n : String) : HostEvent → Option Comment
  | posted pr body _ => if pr.name = n then some ⟨n, body⟩ else none
  | _ => none

end HostEvent

namespace Board

/-- The board after a call in which the host has reported no error, but for the log. -/
def afterEvent (b : Board) : HostEvent → Board
  | .fetched _ _ => b
  | .deleted pr marker _ => b.deleteMarked pr.name marker
  | .posted pr body _ => b.post ⟨pr.name, body⟩

/-- The board after calls in which the host has reported no error, but for the log. -/
def afterEvents (b : Board) (events : List HostEvent) : Board := events.foldl afterEvent b

/-- The comments that calls leave do not depend on the log. -/
theorem comments_afterEvents {b b' : Board} (h : b.comments = b'.comments)
    (events : List HostEvent) :
    (b.afterEvents events).comments = (b'.afterEvents events).comments := by
  induction events generalizing b b' with
  | nil => exact h
  | cons event rest ih =>
    refine ih ?_
    cases event with
    | fetched pr answer => exact h
    | deleted pr marker answer => exact congrArg (List.filter _) h
    | posted pr body answer => exact congrArg (· ++ [_]) h

/-- A board whose script has no failures reports no error and is left as `afterEvent` says. -/
theorem comments_call (diff : String) (c : HostCall) (b : Board) :
    let answered := (({ diff := .ok diff } : BoardScript).host.call c).run b
    (HostEvent.ofCall c answered.1).Succeeds ∧
      answered.2.comments = (b.afterEvent (.ofCall c answered.1)).comments := by
  cases c with
  | fetch pr => exact ⟨⟨diff, rfl⟩, rfl⟩
  | delete pr marker => exact ⟨⟨_, rfl⟩, rfl⟩
  | post pr body => exact ⟨rfl, rfl⟩

variable {pr : PullRequest} {event : HostEvent} {n : String}

theorem otherComments_afterEvent (h : event.IsOfReview pr) (b : Board) :
    (b.afterEvent event).otherComments = b.otherComments := by
  cases h with
  | fetched diff => rfl
  | deleted count => exact b.otherComments_deleteMarked pr.name
  | posted findings => exact b.otherComments_post pr.name findings

theorem commentsOn_afterEvent (h : event.IsOfReview pr) (hdelete : event.deletesOn n = false)
    (hpost : event.postOn? n = none) (b : Board) :
    (b.afterEvent event).commentsOn n = b.commentsOn n := by
  cases h with
  | fetched diff => rfl
  | deleted count =>
    have hne : pr.name ≠ n := by simpa [HostEvent.deletesOn] using hdelete
    exact b.commentsOn_deleteMarked_of_ne hne _
  | posted findings =>
    have hne : pr.name ≠ n := by simpa [HostEvent.postOn?] using hpost
    exact b.commentsOn_post_of_ne hne

theorem reviewsOn_afterEvent (h : event.IsOfReview pr) (hdelete : event.deletesOn n = false)
    (b : Board) :
    (b.afterEvent event).reviewsOn n = b.reviewsOn n ++ (event.postOn? n).toList := by
  cases hpost : event.postOn? n with
  | none =>
    rw [reviewsOn, commentsOn_afterEvent h hdelete hpost]
    exact (List.append_nil _).symm
  | some c =>
    cases h with
    | fetched diff => simp [HostEvent.postOn?] at hpost
    | deleted count => simp [HostEvent.postOn?] at hpost
    | posted findings =>
      have hname : pr.name = n := by
        by_contra hne
        simp [HostEvent.postOn?, hne] at hpost
      have hc : c = ⟨n, Markdown.render findings⟩ := by
        simpa [HostEvent.postOn?, hname] using hpost.symm
      subst hname
      rw [hc]
      exact b.reviewsOn_post pr.name findings

/-! ## Several calls -/

variable {events : List HostEvent}

theorem afterEvents_append (b : Board) (front back : List HostEvent) :
    b.afterEvents (front ++ back) = (b.afterEvents front).afterEvents back :=
  List.foldl_append

theorem otherComments_afterEvents (h : ∀ event ∈ events, ∃ pr, event.IsOfReview pr) (b : Board) :
    (b.afterEvents events).otherComments = b.otherComments := by
  induction events generalizing b with
  | nil => rfl
  | cons event rest ih =>
    obtain ⟨pr, hevent⟩ := h event List.mem_cons_self
    exact (ih (fun event hmem => h event (List.mem_cons_of_mem _ hmem)) _).trans
      (otherComments_afterEvent hevent b)

/-- A pull request on which nothing is deleted and posted keeps its comments. -/
theorem commentsOn_afterEvents (h : ∀ event ∈ events, ∃ pr, event.IsOfReview pr)
    (hquiet : ∀ event ∈ events, event.deletesOn n = false ∧ event.postOn? n = none) (b : Board) :
    (b.afterEvents events).commentsOn n = b.commentsOn n := by
  induction events generalizing b with
  | nil => rfl
  | cons event rest ih =>
    obtain ⟨pr, hevent⟩ := h event List.mem_cons_self
    obtain ⟨hdelete, hpost⟩ := hquiet event List.mem_cons_self
    exact (ih (fun event hmem => h event (List.mem_cons_of_mem _ hmem))
      (fun event hmem => hquiet event (List.mem_cons_of_mem _ hmem)) _).trans
        (commentsOn_afterEvent hevent hdelete hpost b)

/-- While nothing is deleted on a pull request, its reviews are followed by those that are
posted. -/
theorem reviewsOn_afterEvents_of_kept (h : ∀ event ∈ events, ∃ pr, event.IsOfReview pr)
    (hkept : ∀ event ∈ events, event.deletesOn n = false) (b : Board) :
    (b.afterEvents events).reviewsOn n = b.reviewsOn n ++ events.filterMap (·.postOn? n) := by
  -- The board is general, since the rest of the calls begins with what the first one has left.
  induction events generalizing b with
  | nil => exact (List.append_nil _).symm
  | cons event rest ih =>
    obtain ⟨pr, hevent⟩ := h event List.mem_cons_self
    have hrest := ih (fun event hmem => h event (List.mem_cons_of_mem _ hmem))
      (fun event hmem => hkept event (List.mem_cons_of_mem _ hmem)) (b.afterEvent event)
    have hposts : (event :: rest).filterMap (·.postOn? n) =
        (event.postOn? n).toList ++ rest.filterMap (·.postOn? n) := by
      rw [List.filterMap_cons]
      cases event.postOn? n with
      | none => rfl
      | some c => rfl
    rw [hposts, ← List.append_assoc,
      ← reviewsOn_afterEvent hevent (hkept event List.mem_cons_self)]
    exact hrest

/-- The reviews on a pull request are those that have been posted since reviews were last deleted
there. -/
theorem reviewsOn_afterEvents {count : Nat} {front back : List HostEvent}
    (h : ∀ event ∈ back, ∃ pr, event.IsOfReview pr)
    (hlast : ∀ event ∈ back, event.deletesOn pr.name = false) (b : Board) :
    (b.afterEvents (front ++ .deleted pr Markdown.marker (.ok count) :: back)).reviewsOn pr.name =
      back.filterMap (·.postOn? pr.name) := by
  rw [afterEvents_append]
  refine (reviewsOn_afterEvents_of_kept h hlast _).trans ?_
  have hcleaned : ((b.afterEvents front).afterEvent
      (.deleted pr Markdown.marker (.ok count))).reviewsOn pr.name = [] :=
    reviewsOn_deleteMarked _ _
  rw [hcleaned, List.nil_append]

end Board

end ReviewBot
