import ReviewBot.Host.Client
import ReviewBot.Proofs.Document.Fields
import ReviewBot.Proofs.Http.Recording

set_option autoImplicit false

/-!
# The exchange of tokens

A response gives a token if it is a success and its body is JSON with the token in it
(`HostClient.IsGiven`). An exchange sends one request (`HostClient.IsExchange`) and gives the token
of the response, or fails (`HostClient.exchange_run`).
-/

namespace ReviewBot.HostClient

/-! ## The token that is given -/

/-- The bytes are JSON that gives a token: under its key in an object, or as the one element of a
list. -/
def Gives (body : Bytes) (token : String) : Prop :=
  ∃ d, Document.ofJsonBytes? body = some d ∧
    ((∃ entries, d = .table entries ∧ (∀ e ∈ entries, e.1 ≠ none) ∧
        entries.filter (·.1 == some "token") = [(some "token", .text (some token))]) ∨
      d = .list [.text (some token)])

/-- A response has come that is a success and gives a token. -/
def IsGiven (answer : Option HttpResponse) (token : String) : Prop :=
  ∃ response body, answer = some response ∧ 200 ≤ response.status ∧ response.status < 300 ∧
    response.body = some body ∧ Gives body token

theorem tokenIn?_eq_some_iff {body : Bytes} {token : String} :
    tokenIn? body = some token ↔ Gives body token := by
  have hslot : tokenIn? body = some token ↔ ∃ d, Document.ofJsonBytes? body = some d ∧
      ∃ slot, d.slots? .refused ["token"] = some [slot] ∧
        slot.required? Document.string? = some token := by
    rw [tokenIn?]
    cases Document.ofJsonBytes? body with
    | none => simp
    | some d =>
      rcases hslots : d.slots? .refused ["token"] with _ | (_ | ⟨slot, _ | ⟨slot', rest⟩⟩)
      · simp [hslots]
      · simp [hslots]
      · simp [hslots]
      · simp [hslots]
  rw [hslot, Gives]
  refine exists_congr fun d => and_congr_right fun _ => ?_
  -- Only a table has a slot for the key, and a list is read as the slots in their order.
  cases d with
  | table entries =>
    have hread : ((Document.slotIn? entries "token").bind fun slot =>
        slot.required? Document.string?) = some token ↔ _ :=
      Document.required?_slotIn?_eq_some_iff
    simp only [Document.slots?_table_eq_some_iff, Option.bind_eq_some_iff,
      Document.string?_eq_some_iff, exists_eq_right] at hread ⊢
    simp [and_assoc, hread]
  | list items =>
    rcases items with _ | ⟨d, _ | ⟨d', rest⟩⟩
    · simp [Document.slots?, Document.slotsOfList, Slot.required?]
    · simp [Document.slots?, Document.slotsOfList, Slot.required?, Document.string?_eq_some_iff]
    · simp [Document.slots?]
  | _ => simp [Document.slots?]

theorem tokenOf_of_isGiven {response : HttpResponse} {token : String}
    (h : IsGiven (some response) token) : tokenOf response = .ok token := by
  obtain ⟨_, body, hresponse, hleast, hgreatest, hbody, hgives⟩ := h
  obtain rfl := Option.some.inj hresponse
  have hsuccess : response.isSuccess = true := by simp [HttpResponse.isSuccess, hleast, hgreatest]
  rw [tokenOf, if_pos hsuccess, hbody, Option.bind_some, tokenIn?_eq_some_iff.2 hgives]

/-- An exchange that gives no token is an error of the code host. -/
theorem tokenOf_of_not_isGiven {response : HttpResponse}
    (h : ∀ token, ¬ IsGiven (some response) token) :
    ∃ message, tokenOf response = .error (.host message) := by
  rw [tokenOf]
  split
  · rename_i hsuccess
    cases htoken : response.body.bind tokenIn? with
    | none => exact ⟨_, rfl⟩
    | some token =>
      obtain ⟨body, hbody, hread⟩ := Option.bind_eq_some_iff.1 htoken
      have hstatus : 200 ≤ response.status ∧ response.status < 300 := by
        simpa [HttpResponse.isSuccess] using hsuccess
      exact absurd ⟨response, body, rfl, hstatus.1, hstatus.2, hbody,
        tokenIn?_eq_some_iff.1 hread⟩ (h token)
  · exact ⟨_, rfl⟩

theorem isGiven_inj {answer : Option HttpResponse} {s t : String} (hs : IsGiven answer s)
    (ht : IsGiven answer t) : s = t := by
  have hsome : ∃ response, answer = some response := by
    obtain ⟨response, -, hresponse, -⟩ := hs
    exact ⟨response, hresponse⟩
  obtain ⟨response, rfl⟩ := hsome
  exact Except.ok.inj ((tokenOf_of_isGiven hs).symm.trans (tokenOf_of_isGiven ht))

/-! ## The exchange -/

section Exchange

variable {c : HostClient (StateM (List HttpRequest))}
  {respond : List HttpRequest → Option HttpResponse}

/-- The request that asks for a token of an installation and shows the token of the app. -/
structure IsExchange (root : String) (installation : Nat) (appToken : String) (r : HttpRequest) :
    Prop where
  method : r.method = "POST"
  url : Url.read? (root ++ "/app/installations/" ++ toString installation ++ "/access_tokens") =
    some r.url
  authorization : r.authorization = some ("Bearer " ++ appToken)
  userAgent : r.userAgent = some "lookout-review-bot"

theorem exchange_of_submit {installation : Nat} {appToken : String}
    {before after : List HttpRequest} {answer : Except HttpFault HttpResponse}
    (h : (c.network.submit (c.tokenUrl installation) (tokenRequest appToken)).run before =
      (answer, after)) :
    (c.exchange installation appToken).run before =
      (match answer with
        | .ok response => tokenOf response
        | .error fault =>
          .error (.host ("failed to request installation token: " ++ fault.text)), after) := by
  have hrun : (c.network.submit (c.tokenUrl installation) (tokenRequest appToken)).run before =
      pure (answer, after) := h
  cases answer with
  | ok response =>
    simp only [exchange, StateT.run_bind, hrun, pure_bind]
    rfl
  | error fault =>
    simp only [exchange, StateT.run_bind, hrun, pure_bind]
    rfl

theorem isExchange_tokenRequest {installation : Nat} {appToken : String} {u : Url}
    (h : Url.read? (c.tokenUrl installation) = some u) :
    IsExchange c.apiUrl installation appToken (tokenRequest appToken u) := ⟨rfl, h, rfl, rfl⟩

/-- An exchange sends its one request if its URL is one that requests are sent to, and gives the
token of the answer or fails. -/
theorem exchange_run (hn : c.network.IsDirect respond) (installation : Nat) {appToken : String}
    (happ : Network.isHeaderValue ("Bearer " ++ appToken) = true) (before : List HttpRequest) :
    let run := (c.exchange installation appToken).run before
    (∃ message, run.1 = .error (.host message) ∧ run.2 = before ∧
      ∀ u, Url.read? (c.tokenUrl installation) = some u → u.isHttp = false) ∨
    ∃ u, Url.read? (c.tokenUrl installation) = some u ∧
      run.2 = before ++ [tokenRequest appToken u] ∧
      (∀ token, IsGiven (respond (before ++ [tokenRequest appToken u])) token →
        run.1 = .ok token) ∧
      ((∀ token, ¬ IsGiven (respond (before ++ [tokenRequest appToken u])) token) →
        ∃ message, run.1 = .error (.host message)) := by
  intro run
  have hrun : run = (c.exchange installation appToken).run before := rfl
  rcases Network.submit_run hn (c.tokenUrl installation) (tokenRequest appToken) before with
    ⟨fault, hanswer, hsent, hurl⟩ | ⟨u, hread, hsent, hanswer⟩
  · rw [hrun, exchange_of_submit (Prod.ext hanswer hsent)]
    exact .inl ⟨_, rfl, rfl, fun u hu => hurl u hu happ⟩
  · refine .inr ⟨u, hread, ?_⟩
    rw [← hanswer]
    cases hrun' : ((c.network.submit (c.tokenUrl installation) (tokenRequest appToken)).run
        before).1 with
    | error fault =>
      rw [hrun, exchange_of_submit (Prod.ext hrun' hsent)]
      refine ⟨rfl, fun token hgiven => ?_, fun _ => ⟨_, rfl⟩⟩
      obtain ⟨response, -, hresponse, -⟩ := hgiven
      exact absurd hresponse (Option.some_ne_none response).symm
    | ok response =>
      rw [hrun, exchange_of_submit (Prod.ext hrun' hsent)]
      exact ⟨rfl, fun token => tokenOf_of_isGiven, tokenOf_of_not_isGiven⟩

theorem exchange_of_isGiven (hn : c.network.IsDirect respond) {installation : Nat}
    {appToken token : String} {u : Url} {before : List HttpRequest}
    (happ : Network.isHeaderValue ("Bearer " ++ appToken) = true)
    (hread : Url.read? (c.tokenUrl installation) = some u) (hhttp : u.isHttp = true)
    (hgiven : IsGiven (respond (before ++ [tokenRequest appToken u])) token) :
    (c.exchange installation appToken).run before =
      (.ok token, before ++ [tokenRequest appToken u]) := by
  rcases exchange_run hn installation happ before with
    ⟨message, -, -, hurl⟩ | ⟨u', hread', hsent, hok, -⟩
  · rw [hurl u hread] at hhttp
    exact Bool.noConfusion hhttp
  · obtain rfl := Option.some.inj (hread.symm.trans hread')
    exact Prod.ext (hok token hgiven) hsent

end Exchange

/-! ## The token of a call -/

section Token

variable {α S : Type} {c : HostClient (StateM S)} {pr : PullRequest}
  {call : String → StateM S (Except Error α)} {before after : S}

theorem withToken_of_token {token : String} (h : (c.token pr).run before = (.ok token, after)) :
    (c.withToken pr call).run before = (call token).run after := by
  simp [withToken, h]
  rfl

theorem withToken_of_error {e : Error} (h : (c.token pr).run before = (.error e, after)) :
    (c.withToken pr call).run before = (.error e, after) := by
  simp [withToken, h]
  rfl

variable {now : Int}

theorem token_of_issue_error (hnow : c.now = pure now) {e : Error}
    (h : c.issuer.issue now = .error e) : (c.token pr).run before = (.error e, before) := by
  simp [token, hnow, h]
  rfl

theorem token_of_app (hnow : c.now = pure now) {appToken : String}
    (h : c.issuer.issue now = .ok appToken) (hnone : pr.installationId = none) :
    (c.token pr).run before = (.ok appToken, before) := by
  simp [token, hnow, h, hnone]
  rfl

theorem token_of_installation (hnow : c.now = pure now) {appToken : String} {i : Nat}
    (h : c.issuer.issue now = .ok appToken) (hsome : pr.installationId = some i) :
    (c.token pr).run before = (c.exchange i appToken).run before := by
  simp [token, hnow, h, hsome]

end Token

end ReviewBot.HostClient
