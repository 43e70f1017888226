import ReviewBot.Proofs.Http.Delivery

set_option autoImplicit false

/-!
# Requests on record

What a computation sends is put together from what its parts send (`Network.Sends.bind`), and one
request is sent or it is not (`Network.submit_run`).
-/

namespace ReviewBot.Network

variable {α β : Type} {P : HttpRequest → Prop}

/-- All requests that the computation sends, whatever the record is before, have a property. -/
def Sends (P : HttpRequest → Prop) (act : StateM (List HttpRequest) α) : Prop :=
  ∀ before, ∃ sent, (act.run before).2 = before ++ sent ∧ ∀ r ∈ sent, P r

namespace Sends

theorem pure (a : α) : Sends P (Pure.pure a) := by
  intro before
  exact ⟨[], (List.append_nil _).symm, fun r hr => absurd hr List.not_mem_nil⟩

theorem bind {act : StateM (List HttpRequest) α} {next : α → StateM (List HttpRequest) β}
    (h : Sends P act) (hnext : ∀ a, Sends P (next a)) : Sends P (act >>= next) := by
  intro before
  obtain ⟨sent, hsent, hP⟩ := h before
  obtain ⟨later, hlater, hP'⟩ := hnext (act.run before).1 (before ++ sent)
  refine ⟨sent ++ later, ?_, ?_⟩
  · have hrun : ((act >>= next).run before).2 =
        ((next (act.run before).1).run (act.run before).2).2 := rfl
    rw [hrun, hsent, hlater, List.append_assoc]
  · intro r hr
    rcases List.mem_append.1 hr with hr | hr
    · exact hP r hr
    · exact hP' r hr

theorem mono {Q : HttpRequest → Prop} {act : StateM (List HttpRequest) α} (h : Sends P act)
    (hPQ : ∀ r, P r → Q r) : Sends Q act := by
  intro before
  obtain ⟨sent, hsent, hP⟩ := h before
  exact ⟨sent, hsent, fun r hr => hPQ r (hP r hr)⟩

end Sends

variable {n : Network (StateM (List HttpRequest))}
  {respond : List HttpRequest → Option HttpResponse}

/-- Of a submission either nothing is sent, because there is no such URL, a header may not be sent
or the URL is not one that requests are sent to, or the request is sent. -/
theorem submit_run (hn : n.IsDirect respond) (url : String) (request : Url → HttpRequest)
    (before : List HttpRequest) :
    let run := (n.submit url request).run before
    (∃ fault, run.1 = .error fault ∧ run.2 = before ∧
      ∀ u, Url.read? url = some u → (request u).authorization.all isHeaderValue = true →
        (request u).url.isHttp = false) ∨
    ∃ u, Url.read? url = some u ∧ run.2 = before ++ [request u] ∧
      run.1.toOption = respond (before ++ [request u]) := by
  cases hread : Url.read? url with
  | none =>
    have hsubmit : n.submit url request = pure (.error .malformed) := by simp [submit, hread]
    rw [hsubmit]
    exact .inl ⟨.malformed, rfl, rfl, fun u hu => absurd hu (Option.some_ne_none u).symm⟩
  | some u =>
    cases hheader : (request u).authorization.all isHeaderValue with
    | false =>
      have hsubmit : n.submit url request = pure (.error .malformed) := by
        simp [submit, hread, dispatch, hheader]
      rw [hsubmit]
      refine .inl ⟨.malformed, rfl, rfl, fun u' hu h => ?_⟩
      rw [← Option.some.inj hu, hheader] at h
      exact Bool.noConfusion h
    | true =>
      cases hhttp : (request u).url.isHttp with
      | false =>
        have hsubmit : n.submit url request = pure (.error (.unsupported (request u).url)) := by
          simp [submit, hread, dispatch, hheader, hhttp]
        rw [hsubmit]
        refine .inl ⟨.unsupported (request u).url, rfl, rfl, fun u' hu _ => ?_⟩
        rw [← Option.some.inj hu]
        exact hhttp
      | true =>
        have hsubmit : n.submit url request = n.send (request u) := by
          simp [submit, hread, dispatch, hheader, hhttp]
        rw [hsubmit]
        exact .inr ⟨u, rfl, hn.sent (request u) before, hn.answer (request u) before⟩

theorem Sends.submit (hn : n.IsDirect respond) {url : String} {request : Url → HttpRequest}
    (h : ∀ u, P (request u)) : Sends P (n.submit url request) := by
  intro before
  rcases submit_run hn url request before with ⟨fault, -, hsent, -⟩ | ⟨u, -, hsent, -⟩
  · exact ⟨[], by rw [hsent, List.append_nil], fun r hr => absurd hr List.not_mem_nil⟩
  · refine ⟨[request u], hsent, fun r hr => ?_⟩
    rw [List.mem_singleton.1 hr]
    exact h u

end ReviewBot.Network
