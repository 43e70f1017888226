import ReviewBot.Http.Redirect

set_option autoImplicit false

/-!
# Requests and referrals

A server whose response may depend on all requests that it has been sent, and networks that deliver
requests to it: they follow a response that refers elsewhere, and give back the last one
(`Network.Delivers`). The network over a wire does (`Wire.delivers_network`). Where the server never
refers elsewhere, a network sends just the requests that it is given (`Network.Delivers.isDirect`).
-/

namespace ReviewBot

/-- The wire that keeps a record of the requests; the server responds as a function of all requests
up to the one it responds to. -/
def Wire.recording (respond : List HttpRequest → Option HttpResponse) :
    Wire (StateM (List HttpRequest)) where
  exchange r := fun sent => (respond (sent ++ [r]), sent ++ [r])

namespace Network

/-- Each of the requests `hops`, sent one after the other when `sent` have been, is sent because the
last response refers elsewhere. -/
inductive Follows (respond : List HttpRequest → Option HttpResponse) :
    (sent hops : List HttpRequest) → Prop
  | nil {sent : List HttpRequest} : Follows respond sent []
  | cons {sent hops : List HttpRequest} {hop : HttpRequest} {response : HttpResponse} :
      respond sent = some response → response.isRedirect = true →
      Follows respond (sent ++ [hop]) hops → Follows respond sent (hop :: hops)

/-- A request that is sent after the requests `before` is sent as it is, and responses that refer
elsewhere are followed; then `after` have been sent. The last response is given back. Only if there
is none, or if it refers elsewhere again, the request may fail. -/
def IsDelivery (respond : List HttpRequest → Option HttpResponse) (before : List HttpRequest)
    (r : HttpRequest) (outcome : Except HttpFault HttpResponse) (after : List HttpRequest) :
    Prop :=
  ∃ hops, after = before ++ r :: hops ∧ Follows respond (before ++ [r]) hops ∧
    (∀ response, outcome = .ok response → respond after = some response) ∧
    ∀ fault, outcome = .error fault →
      ∀ response, respond after = some response → response.isRedirect = true

/-- The network delivers requests to the server. -/
def Delivers (n : Network (StateM (List HttpRequest)))
    (respond : List HttpRequest → Option HttpResponse) : Prop :=
  ∀ r before,
    IsDelivery respond before r ((n.send r).run before).1 ((n.send r).run before).2

/-- The server never refers elsewhere. -/
def NeverRefers (respond : List HttpRequest → Option HttpResponse) : Prop :=
  ∀ sent response, respond sent = some response → response.isRedirect = false

/-- The network sends a request as it is and gives back the response, if there is one. -/
structure IsDirect (n : Network (StateM (List HttpRequest)))
    (respond : List HttpRequest → Option HttpResponse) : Prop where
  sent : ∀ r before, ((n.send r).run before).2 = before ++ [r]
  answer : ∀ r before, ((n.send r).run before).1.toOption = respond (before ++ [r])

variable {n : Network (StateM (List HttpRequest))}
  {respond : List HttpRequest → Option HttpResponse}

theorem Follows.eq_nil {sent hops : List HttpRequest} (h : Follows respond sent hops)
    (hdirect : NeverRefers respond) : hops = [] := by
  cases h with
  | nil => rfl
  | cons hresponse hredirect =>
    rw [hdirect _ _ hresponse] at hredirect
    exact Bool.noConfusion hredirect

theorem Delivers.isDirect (h : n.Delivers respond) (hdirect : NeverRefers respond) :
    n.IsDirect respond := by
  constructor
  · intro r before
    obtain ⟨hops, hsent, hfollows, -⟩ := h r before
    rw [hsent, hfollows.eq_nil hdirect]
  · intro r before
    obtain ⟨hops, hsent, hfollows, hok, hfault⟩ := h r before
    rw [hfollows.eq_nil hdirect] at hsent
    rw [hsent] at hok hfault
    cases hrun : ((n.send r).run before).1 with
    | ok response => exact (hok response hrun).symm
    | error fault =>
      cases hresponse : respond (before ++ [r]) with
      | none => rfl
      | some response =>
        have hredirect := hfault fault hrun response hresponse
        rw [hdirect _ _ hresponse] at hredirect
        exact Bool.noConfusion hredirect

/-- A delivery that ends with the response to the request itself. -/
theorem isDelivery_of_eq {before : List HttpRequest} {r : HttpRequest}
    {outcome : Except HttpFault HttpResponse} {after : List HttpRequest}
    (hsent : after = before ++ [r])
    (hok : ∀ response, outcome = .ok response → respond after = some response)
    (hfault : ∀ fault, outcome = .error fault →
      ∀ response, respond after = some response → response.isRedirect = true) :
    IsDelivery respond before r outcome after :=
  ⟨[], hsent, .nil, hok, hfault⟩

/-- A delivery that goes on from another place. -/
theorem IsDelivery.cons {before after : List HttpRequest} {r hop : HttpRequest}
    {outcome : Except HttpFault HttpResponse} {response : HttpResponse}
    (hresponse : respond (before ++ [r]) = some response) (hredirect : response.isRedirect = true)
    (h : IsDelivery respond (before ++ [r]) hop outcome after) :
    IsDelivery respond before r outcome after := by
  obtain ⟨hops, hsent, hfollows, hok, hfault⟩ := h
  refine ⟨hop :: hops, ?_, .cons hresponse hredirect hfollows, hok, hfault⟩
  rw [hsent, List.append_assoc, List.singleton_append]

end Network

namespace Wire

open Network (Follows)

variable {respond : List HttpRequest → Option HttpResponse} {r : HttpRequest}
  {before : List HttpRequest}

/-! ## The network over a wire -/

theorem exchange_run {answer : Option HttpResponse} (h : respond (before ++ [r]) = answer) :
    ((recording respond).exchange r).run before = pure (answer, before ++ [r]) :=
  congrArg (·, before ++ [r]) h

theorem isRedirect_of_place? {response : HttpResponse} {u v : Url}
    (h : response.place? u = some v) : response.isRedirect = true := by
  cases hredirect : response.isRedirect with
  | false =>
    rw [HttpResponse.place?, hredirect] at h
    exact absurd h (Option.some_ne_none v).symm
  | true => rfl

/-- Without a response a request fails. -/
theorem follow_of_none (h : respond (before ++ [r]) = none) (n : Nat) :
    ((recording respond).follow n r).run before = (.error (.unreachable r.url), before ++ [r]) := by
  cases n with
  | zero =>
    simp only [follow, StateT.run_bind, exchange_run h, pure_bind]
    rfl
  | succ n =>
    simp only [follow, StateT.run_bind, exchange_run h, pure_bind]
    rfl

/-- A response that refers nowhere is given back. -/
theorem follow_of_place?_eq_none {response : HttpResponse}
    (h : respond (before ++ [r]) = some response) (hplace : response.place? r.url = none)
    (n : Nat) :
    ((recording respond).follow n r).run before = (.ok response, before ++ [r]) := by
  cases n with
  | zero =>
    simp only [follow, StateT.run_bind, exchange_run h, pure_bind, hplace]
    rfl
  | succ n =>
    simp only [follow, StateT.run_bind, exchange_run h, pure_bind, hplace]
    rfl

/-- A response that refers elsewhere is followed, or the request fails. -/
theorem follow_of_place?_eq_some {response : HttpResponse} {u : Url}
    (h : respond (before ++ [r]) = some response) (hplace : response.place? r.url = some u)
    (n : Nat) :
    (∃ fault, ((recording respond).follow n r).run before = (.error fault, before ++ [r])) ∨
      ∃ k, n = k + 1 ∧ ((recording respond).follow n r).run before =
        ((recording respond).follow k (r.redirected response.status u)).run (before ++ [r]) := by
  cases n with
  | zero =>
    refine .inl ⟨.misled r.url, ?_⟩
    simp only [follow, StateT.run_bind, exchange_run h, pure_bind, hplace]
    rfl
  | succ n =>
    cases hhttp : u.isHttp with
    | false =>
      refine .inl ⟨.unsupported u, ?_⟩
      simp only [follow, StateT.run_bind, exchange_run h, pure_bind, hplace, hhttp]
      rfl
    | true =>
      refine .inr ⟨n, rfl, ?_⟩
      simp only [follow, StateT.run_bind, exchange_run h, pure_bind, hplace, hhttp]
      rfl

theorem isDelivery_follow (n : Nat) (r : HttpRequest) (before : List HttpRequest) :
    let run := ((recording respond).follow n r).run before
    Network.IsDelivery respond before r run.1 run.2 := by
  -- On how many responses may still be followed; each is followed from a longer record.
  induction n using Nat.strongRecOn generalizing r before with
  | _ n ih =>
    intro run
    cases hresponse : respond (before ++ [r]) with
    | none =>
      have hrun : run = (.error (.unreachable r.url), before ++ [r]) := follow_of_none hresponse n
      rw [hrun]
      refine Network.isDelivery_of_eq rfl (fun _ h => absurd h nofun) fun _ _ response h => ?_
      rw [hresponse] at h
      exact absurd h (Option.some_ne_none response).symm
    | some response =>
      cases hplace : response.place? r.url with
      | none =>
        have hrun : run = (.ok response, before ++ [r]) :=
          follow_of_place?_eq_none hresponse hplace n
        rw [hrun]
        refine Network.isDelivery_of_eq rfl (fun response' h => ?_) fun _ h => absurd h nofun
        rw [hresponse, Except.ok.inj h]
      | some u =>
        have hredirect := isRedirect_of_place? hplace
        rcases follow_of_place?_eq_some hresponse hplace n with ⟨fault, hrun⟩ | ⟨k, rfl, hrun⟩
        · have hrun : run = (.error fault, before ++ [r]) := hrun
          rw [hrun]
          refine Network.isDelivery_of_eq rfl (fun _ h => absurd h nofun) fun _ _ response' h => ?_
          rw [hresponse] at h
          rw [← Option.some.inj h]
          exact hredirect
        · have hrun : run = ((recording respond).follow k (r.redirected response.status u)).run
              (before ++ [r]) := hrun
          rw [hrun]
          exact (ih k (Nat.lt_succ_self k) _ _).cons hresponse hredirect

/-- The network over a wire delivers requests. -/
theorem delivers_network (respond : List HttpRequest → Option HttpResponse) :
    (recording respond).network.Delivers respond :=
  isDelivery_follow 10

end Wire

end ReviewBot
