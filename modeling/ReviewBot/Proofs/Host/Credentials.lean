import ReviewBot.Host.Rest
import ReviewBot.Proofs.Host.Calls
import ReviewBot.Proofs.Host.Exchange
import ReviewBot.Proofs.Token.Header

set_option autoImplicit false

/-!
# Tokens that are shown

Where no installation is known, every request of a call shows the token of the app. Where one is
known, only the first request does, which asks for a token of the installation, and all others show
the token that has been given. This holds for every server that does not refer elsewhere, and whose
responses may depend on all that it has been sent, for every network that delivers the requests, and
for every library for comments that shows the token it is set up with
(`HostClient.isDisciplined_call`).
-/

namespace ReviewBot

open Network (Sends)

/-! ## What the library sends -/

/-- A request that shows the token of a session and is not sent in the name of the client. -/
def CommentSession.IsOwn (s : CommentSession) (r : HttpRequest) : Prop :=
  r.authorization = some ("Bearer " ++ s.token) ∧ r.userAgent ≠ some "lookout-review-bot"

/-- With each request the library shows the token that it is set up with. -/
structure CommentLibrary.ShowsToken (lib : CommentLibrary (StateM (List HttpRequest))) : Prop where
  post : ∀ s owner repo number body, Sends s.IsOwn (lib.post s owner repo number body)
  firstPage : ∀ s owner repo number perPage,
    Sends s.IsOwn (lib.firstPage s owner repo number perPage)
  allPages : ∀ s page, Sends s.IsOwn (lib.allPages s page)
  delete : ∀ s owner repo id, Sends s.IsOwn (lib.delete s owner repo id)

namespace Rest

variable {network : Network (StateM (List HttpRequest))}
  {respond : List HttpRequest → Option HttpResponse} {s : CommentSession}

theorem isOwn_request (s : CommentSession) (method : String) (body : Option Json) (u : Url) :
    s.IsOwn (request method s.token body u) := by
  have hagent : some "octocrab" ≠ some "lookout-review-bot" := by decide
  exact ⟨rfl, hagent⟩

theorem sends_submit (hn : network.IsDirect respond) {P : HttpRequest → Prop} {url : String}
    {r : Url → HttpRequest} (h : ∀ u, P (r u)) (n : Nat) : Sends P (submit network url r n) := by
  induction n with
  | zero => exact Sends.submit hn h
  | succ n ih =>
    refine (Sends.submit hn h).bind fun answer => ?_
    cases answer with
    | error fault => exact ih
    | ok response =>
      dsimp only
      split
      · exact ih
      · exact .pure _

theorem sends_call (hn : network.IsDirect respond) (method url : String) (body : Option Json) :
    Sends s.IsOwn (call network s method url body) :=
  (sends_submit hn (isOwn_request s method body) 3).bind fun _ => .pure _

theorem sends_page (hn : network.IsDirect respond) (url : String) :
    Sends s.IsOwn (page network s url) :=
  (sends_call hn "GET" url none).bind fun _ => .pure _

theorem sends_pagesFrom (hn : network.IsDirect respond) (n : Nat) (page : CommentPage) :
    Sends s.IsOwn (pagesFrom network s n page) := by
  induction n generalizing page with
  | zero =>
    obtain ⟨comments, _ | url⟩ := page
    · exact .pure _
    · exact .pure _
  | succ n ih =>
    obtain ⟨comments, _ | url⟩ := page
    · exact .pure _
    · refine (sends_page hn url).bind fun answer => ?_
      cases answer with
      | error reason => exact .pure _
      | ok next => exact (ih next).bind fun _ => .pure _

/-- The library over a network that sends just the requests it is given shows its token. -/
theorem showsToken_library (hn : network.IsDirect respond) : (library network).ShowsToken where
  post _ _ _ _ _ := (sends_call hn "POST" _ _).bind fun _ => .pure _
  firstPage _ _ _ _ _ := sends_page hn _
  allPages _ page := sends_pagesFrom hn maxLong page
  delete _ _ _ _ := (sends_call hn "DELETE" _ _).bind fun _ => .pure _

end Rest

namespace HostClient

/-! ## Requests of a call -/

/-- The request asks for a token. -/
def AsksForToken (r : HttpRequest) : Prop :=
  r.method = "POST" ∧ r.userAgent = some "lookout-review-bot"

/-- The request shows a token and does not ask for another one. -/
def Shows (token : String) (r : HttpRequest) : Prop :=
  r.authorization = some ("Bearer " ++ token) ∧ ¬ AsksForToken r

theorem shows_of_isOwn {s : CommentSession} {r : HttpRequest} (h : s.IsOwn r) : Shows s.token r :=
  ⟨h.1, fun hasks => h.2 hasks.2⟩

theorem shows_diffRequest (token : String) (u : Url) : Shows token (diffRequest token u) := by
  have hmethod : "GET" ≠ "POST" := by decide
  exact ⟨rfl, fun hasks => hmethod hasks.1⟩

theorem bearer_inj {s t : String} : "Bearer " ++ s = "Bearer " ++ t ↔ s = t := by
  rw [← String.toList_inj, String.toList_append, String.toList_append, List.append_cancel_left_eq,
    String.toList_inj]

section Calls

variable {c : HostClient (StateM (List HttpRequest))}
  {respond : List HttpRequest → Option HttpResponse} {token : String}

theorem sends_fetchDiffWith (hn : c.network.IsDirect respond) (pr : PullRequest) :
    Sends (Shows token) (c.fetchDiffWith pr token) := by
  refine (Sends.submit hn (shows_diffRequest token)).bind fun answer => ?_
  cases answer with
  | error fault => exact .pure _
  | ok response => exact .pure _

theorem sends_inSession {α : Type} {P : HttpRequest → Prop}
    {call : CommentSession → StateM (List HttpRequest) (Except Error α)}
    (h : Sends P (call ⟨c.apiUrl, token⟩)) : Sends P (c.inSession call token) := by
  unfold inSession
  split
  · exact h
  · exact .pure _

variable {s : CommentSession}

theorem sends_postIn (hl : c.library.ShowsToken) (pr : PullRequest) (body : String) :
    Sends s.IsOwn (c.postIn pr body s) :=
  (hl.post s _ _ _ body).bind fun _ => .pure _

theorem sends_listIn (hl : c.library.ShowsToken) (pr : PullRequest) :
    Sends s.IsOwn (c.listIn pr s) := by
  refine (hl.firstPage s _ _ _ 100).bind fun first => ?_
  cases first with
  | error reason => exact .pure _
  | ok page => exact hl.allPages s page

theorem sends_deleteAll (hl : c.library.ShowsToken) (pr : PullRequest) (deleted : Nat)
    (comments : List ListedComment) : Sends s.IsOwn (c.deleteAll pr s deleted comments) := by
  induction comments generalizing deleted with
  | nil => exact .pure _
  | cons comment rest ih =>
    refine (hl.delete s _ _ comment.id).bind fun answer => ?_
    cases answer with
    | error reason => exact .pure _
    | ok done => exact ih (deleted + 1)

theorem sends_deleteMarkedIn (hl : c.library.ShowsToken) (pr : PullRequest) (marker : String) :
    Sends s.IsOwn (c.deleteMarkedIn pr marker s) := by
  refine (sends_listIn hl pr).bind fun listed => ?_
  cases listed with
  | error reason => exact .pure _
  | ok comments => exact sends_deleteAll hl pr 0 _

end Calls

/-- What a call does once it has a token. -/
def callWith {m : Type → Type} [Monad m] (c : HostClient m) :
    (call : HostCall) → String → m (Except Error call.Result)
  | .fetch pr => c.fetchDiffWith pr
  | .delete pr marker => c.inSession (c.deleteMarkedIn pr marker)
  | .post pr body => c.inSession (c.postIn pr body)

theorem call_host {m : Type → Type} [Monad m] (c : HostClient m) (call : HostCall) :
    c.host.call call = c.withToken call.pullRequest (c.callWith call) := by
  cases call with
  | fetch pr => rfl
  | delete pr marker => rfl
  | post pr body => rfl

section Exchange

variable {c : HostClient (StateM (List HttpRequest))}
  {respond : List HttpRequest → Option HttpResponse}

theorem sends_callWith (hn : c.network.IsDirect respond) (hl : c.library.ShowsToken)
    (call : HostCall) (token : String) : Sends (Shows token) (c.callWith call token) := by
  cases call with
  | fetch pr => exact sends_fetchDiffWith hn pr
  | delete pr marker =>
    exact sends_inSession ((sends_deleteMarkedIn hl pr marker).mono fun _ => shows_of_isOwn)
  | post pr body =>
    exact sends_inSession ((sends_postIn hl pr body).mono fun _ => shows_of_isOwn)

end Exchange

/-! ## Calls -/

/-- The requests `sent` after `before` begin with the one request for a token of an installation, if
there is a URL for it, and all others show the token that is given. If none is given, nothing more
is sent and the call fails. -/
def ExchangesFirst {α : Type} (respond : List HttpRequest → Option HttpResponse) (root : String)
    (installation : Nat) (appToken : String) (before sent : List HttpRequest)
    (outcome : Except Error α) : Prop :=
  (sent = [] ∧ (∃ message, outcome = .error (.host message)) ∧
    ∀ u, Url.read? (root ++ "/app/installations/" ++ toString installation ++ "/access_tokens") =
      some u → u.isHttp = false) ∨
  ∃ first later, sent = first :: later ∧ IsExchange root installation appToken first ∧
    let answer := respond (before ++ [first])
    (∀ token, IsGiven answer token → ∀ r ∈ later, Shows token r) ∧
    (∀ r ∈ later, r.authorization = some ("Bearer " ++ appToken) → IsGiven answer appToken) ∧
    ((∀ token, ¬ IsGiven answer token) →
      later = [] ∧ ∃ message, outcome = .error (.host message))

/-- What a call about a pull request may send after the requests `before`, and how it then ends.
Nothing is sent if the token of the app cannot be issued. -/
structure IsDisciplined {α : Type} (respond : List HttpRequest → Option HttpResponse)
    (root : String) (issued : Except Error String) (installation : Option Nat)
    (before sent : List HttpRequest) (outcome : Except Error α) : Prop where
  unissued : ∀ e, issued = .error e → sent = [] ∧ outcome = .error e
  ofApp : ∀ appToken, issued = .ok appToken → installation = none → ∀ r ∈ sent, Shows appToken r
  ofInstallation : ∀ appToken i, issued = .ok appToken → installation = some i →
    ExchangesFirst respond root i appToken before sent outcome

section Discipline

variable {α : Type} {respond : List HttpRequest → Option HttpResponse} {root appToken : String}
  {i : Nat} {before sent : List HttpRequest} {outcome : Except Error α}

theorem ExchangesFirst.isDisciplined
    (h : ExchangesFirst respond root i appToken before sent outcome) :
    IsDisciplined respond root (.ok appToken) (some i) before sent outcome where
  unissued e he := absurd he nofun
  ofApp _ _ hnone := absurd hnone nofun
  ofInstallation appToken' i' happ hi := by
    rw [← Except.ok.inj happ, ← Option.some.inj hi]
    exact h

/-- An exchange without a token ends the call. -/
theorem exchangesFirst_of_not_isGiven {first : HttpRequest} {message : String}
    (hfirst : IsExchange root i appToken first)
    (h : ∀ token, ¬ IsGiven (respond (before ++ [first])) token) :
    ExchangesFirst respond root i appToken before [first]
      (.error (.host message) : Except Error α) :=
  .inr ⟨first, [], rfl, hfirst, fun token hgiven => absurd hgiven (h token),
    fun _ hr => absurd hr List.not_mem_nil, fun _ => ⟨rfl, message, rfl⟩⟩

/-- After an exchange all requests show the token that is given. -/
theorem exchangesFirst_of_isGiven {first : HttpRequest} {later : List HttpRequest} {token : String}
    (hfirst : IsExchange root i appToken first)
    (hgiven : IsGiven (respond (before ++ [first])) token) (h : ∀ r ∈ later, Shows token r) :
    ExchangesFirst respond root i appToken before (first :: later) outcome := by
  refine .inr ⟨first, later, rfl, hfirst, ?_, ?_, fun hnone => absurd hgiven (hnone token)⟩
  · intro token' hgiven'
    rw [isGiven_inj hgiven' hgiven]
    exact h
  · intro r hr happ
    have hbearer : "Bearer " ++ token = "Bearer " ++ appToken :=
      Option.some.inj ((h r hr).1.symm.trans happ)
    rw [← bearer_inj.1 hbearer]
    exact hgiven

/-- A call for an installation begins with the exchange and goes on with the token that is given. -/
theorem exchangesFirst_withToken {c : HostClient (StateM (List HttpRequest))} {pr : PullRequest}
    {call : String → StateM (List HttpRequest) (Except Error α)}
    (hn : c.network.IsDirect respond) (hcall : ∀ token, Sends (Shows token) (call token))
    (happ : Network.isHeaderValue ("Bearer " ++ appToken) = true)
    (htoken : (c.token pr).run before = (c.exchange i appToken).run before) :
    let run := (c.withToken pr call).run before
    ∃ sent, run.2 = before ++ sent ∧
      ExchangesFirst respond c.apiUrl i appToken before sent run.1 := by
  intro run
  have hrun : run = (c.withToken pr call).run before := rfl
  rcases exchange_run hn i happ before with
    ⟨message, hfails, hsent, hurl⟩ | ⟨u, hread, hsent, hgiven, hnone⟩
  · -- There is no URL to ask at, so the record is as it was.
    rw [hrun, withToken_of_error (htoken.trans (Prod.ext hfails hsent))]
    exact ⟨[], (List.append_nil _).symm, .inl ⟨rfl, ⟨message, rfl⟩, hurl⟩⟩
  · have hfirst : IsExchange c.apiUrl i appToken (tokenRequest appToken u) :=
      isExchange_tokenRequest hread
    by_cases htoken' : ∃ token, IsGiven (respond (before ++ [tokenRequest appToken u])) token
    · -- The rest of the call runs on the record with the exchange, with the new token only.
      obtain ⟨token, htoken'⟩ := htoken'
      obtain ⟨later, hlater, hshows⟩ := hcall token (before ++ [tokenRequest appToken u])
      rw [hrun, withToken_of_token (htoken.trans (Prod.ext (hgiven token htoken') hsent))]
      refine ⟨tokenRequest appToken u :: later, ?_,
        exchangesFirst_of_isGiven hfirst htoken' hshows⟩
      rw [hlater, List.append_assoc, List.singleton_append]
    · have hnot := not_exists.1 htoken'
      obtain ⟨message, hfails⟩ := hnone hnot
      rw [hrun, withToken_of_error (htoken.trans (Prod.ext hfails hsent))]
      exact ⟨[tokenRequest appToken u], rfl, exchangesFirst_of_not_isGiven hfirst hnot⟩

end Discipline

/-- A code host that gives the token `t5` and lists no comments over two pages. -/
def emptyPages (sent : List HttpRequest) : Option HttpResponse :=
  match sent.length with
  | 1 => some ⟨201, [], some (Text.utf8 "\x7b\"token\":\"t5\"\x7d")⟩
  | 2 => some ⟨200, [("link", Text.utf8 "<http://h/2>; rel=\"next\"")], some (Text.utf8 "[]")⟩
  | _ => some ⟨200, [], some (Text.utf8 "[]")⟩

theorem neverRefers_emptyPages : Network.NeverRefers emptyPages := by
  intro sent response h
  unfold emptyPages at h
  split at h
  · rw [← Option.some.inj h]
    rfl
  · rw [← Option.some.inj h]
    rfl
  · rw [← Option.some.inj h]
    rfl

theorem isGiven_emptyPages (r : HttpRequest) : IsGiven (emptyPages [r]) "t5" := by
  have hread : tokenIn? (Text.utf8 "\x7b\"token\":\"t5\"\x7d") = some "t5" := by decide +kernel
  exact ⟨_, _, rfl, by decide, by decide, rfl, tokenIn?_eq_some_iff.1 hread⟩

theorem eq_ok_of_toOption {α : Type} {outcome : Except Error α} {a : α}
    (h : outcome.toOption = some a) : outcome = .ok a := by
  cases outcome with
  | error e => exact absurd h (Option.some_ne_none a).symm
  | ok a' => exact congrArg Except.ok (Option.some.inj h)

/-- A client of that code host. -/
def emptyPagesClient : HostClient (StateM (List HttpRequest)) :=
  let network := (Wire.recording emptyPages).network
  ofUrl network (Rest.library network) "http://h/" TokenIssuer.sample (pure 0)

/-- The request of that client for a token of installation 5. -/
def emptyPagesFirst : HttpRequest :=
  tokenRequest TokenIssuer.sampleToken
    ⟨"http", some "h", "/app/installations/5/access_tokens", none⟩

theorem exchange_emptyPages :
    (emptyPagesClient.exchange 5 TokenIssuer.sampleToken).run [] =
      (.ok "t5", [emptyPagesFirst]) := by
  have hn := (Wire.delivers_network emptyPages).isDirect neverRefers_emptyPages
  have happ : Network.isHeaderValue ("Bearer " ++ TokenIssuer.sampleToken) = true := by
    rw [Network.isHeaderValue_append, TokenIssuer.isHeaderValue_of_issue TokenIssuer.issue_sample]
    decide
  have hread : Url.read? (emptyPagesClient.tokenUrl 5) =
      some ⟨"http", some "h", "/app/installations/5/access_tokens", none⟩ := by decide +kernel
  exact exchange_of_isGiven hn happ hread (by decide) (isGiven_emptyPages _)

/-- Once that client has the token, it asks for both pages. -/
theorem deleteMarkedIn_emptyPages :
    let pr : PullRequest := { owner := "o", repo := "r", number := 7, installationId := some 5 }
    let delete := emptyPagesClient.inSession (emptyPagesClient.deleteMarkedIn pr "mark") "t5"
    ∃ later, delete.run [emptyPagesFirst] = (.ok 0, emptyPagesFirst :: later) ∧
      later.map (fun r => (r.method, r.url.text, r.authorization)) =
        [("GET", "http://h/repos/o/r/issues/7/comments?per_page=100", some "Bearer t5"),
         ("GET", "http://h/2", some "Bearer t5")] := by
  have hrun :
      let pr : PullRequest := { owner := "o", repo := "r", number := 7, installationId := some 5 }
      let delete := emptyPagesClient.inSession (emptyPagesClient.deleteMarkedIn pr "mark") "t5"
      let run := delete.run [emptyPagesFirst]
      (run.1.toOption, run.2.tail.map fun r => (r.method, r.url.text, r.authorization)) =
        (some 0,
          [("GET", "http://h/repos/o/r/issues/7/comments?per_page=100", some "Bearer t5"),
           ("GET", "http://h/2", some "Bearer t5")]) := by
    decide +kernel
  intro pr delete
  obtain ⟨hcount, hlater⟩ := Prod.ext_iff.1 hrun
  have hn := (Wire.delivers_network emptyPages).isDirect neverRefers_emptyPages
  have hsends : Sends (Shows "t5") delete :=
    sends_callWith (c := emptyPagesClient) hn (Rest.showsToken_library hn) (.delete pr "mark") "t5"
  obtain ⟨later, hsent, -⟩ := hsends [emptyPagesFirst]
  have htail : (delete.run [emptyPagesFirst]).2.tail = later := congrArg List.tail hsent
  refine ⟨later, Prod.ext (eq_ok_of_toOption hcount) hsent, ?_⟩
  rw [← htail]
  exact hlater

-- A code host that refers elsewhere is shown the token of the app twice.
example :
    let respond (sent : List HttpRequest) : Option HttpResponse :=
      if sent.length = 1 then some ⟨307, [("location", Text.utf8 "/moved")], some []⟩ else none
    let network := (Wire.recording respond).network
    let c := ofUrl network (Rest.library network) "http://h" TokenIssuer.sample (pure 0)
    ((c.exchange 5 "t").run []).2.map (fun r => (r.method, r.url.target, r.authorization)) =
      [("POST", "/app/installations/5/access_tokens", some "Bearer t"),
       ("POST", "/moved", some "Bearer t")] := by
  decide +kernel

end HostClient

end ReviewBot
