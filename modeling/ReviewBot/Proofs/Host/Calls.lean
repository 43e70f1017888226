import ReviewBot.Host.Basic

set_option autoImplicit false

/-!
# Calls on a host

The operations of a host are one function from calls to answers (`Host.call`), and any such function
makes a host (`Host.ofCalls`). So a host can be made to keep a record of what it is asked and of
what it answers (`Host.recording`), and a computation can be stopped at its calls.
-/

namespace ReviewBot

/-- A call on a host. -/
inductive HostCall where
  /-- The diff of a pull request is wanted. -/
  | fetch (pr : PullRequest)
  /-- The comments on a pull request that contain a marker are to be deleted. -/
  | delete (pr : PullRequest) (marker : String)
  /-- A comment is to be added to a pull request. -/
  | post (pr : PullRequest) (body : String)

/-- The pull request that a call is about. -/
def HostCall.pullRequest : HostCall → PullRequest
  | fetch pr => pr
  | delete pr _ => pr
  | post pr _ => pr

/-- What a call is answered with if it does not fail. -/
def HostCall.Result : HostCall → Type
  | fetch _ => String
  | delete _ _ => Nat
  | post _ _ => Unit

/-- A call with the answer to it. -/
inductive HostEvent where
  /-- The diff of a pull request was wanted. -/
  | fetched (pr : PullRequest) (answer : Except Error String)
  /-- Marked comments were to be deleted. -/
  | deleted (pr : PullRequest) (marker : String) (answer : Except Error Nat)
  /-- A comment was to be added. -/
  | posted (pr : PullRequest) (body : String) (answer : Except Error Unit)

namespace HostEvent

/-- A call and the answer to it. -/
def ofCall : (c : HostCall) → Except Error c.Result → HostEvent
  | .fetch pr, answer => fetched pr answer
  | .delete pr marker, answer => deleted pr marker answer
  | .post pr body, answer => posted pr body answer

/-- The call. -/
def call : HostEvent → HostCall
  | fetched pr _ => .fetch pr
  | deleted pr marker _ => .delete pr marker
  | posted pr body _ => .post pr body

/-- The host has reported no error. -/
def Succeeds : HostEvent → Prop
  | fetched _ answer => ∃ diff, answer = .ok diff
  | deleted _ _ answer => ∃ count, answer = .ok count
  | posted _ _ answer => answer = .ok ()

end HostEvent

namespace Host

variable {m : Type → Type} {S : Type}

/-- Makes a call. -/
def call (host : Host m) : (c : HostCall) → m (Except Error c.Result)
  | .fetch pr => host.fetchDiff pr
  | .delete pr marker => host.deleteMarked pr marker
  | .post pr body => host.postComment pr body

/-- The host that answers calls as a function says. -/
def ofCalls (answer : (c : HostCall) → m (Except Error c.Result)) : Host m where
  fetchDiff pr := answer (.fetch pr)
  postComment pr body := answer (.post pr body)
  deleteMarked pr marker := answer (.delete pr marker)

/-- The host with a record of all calls and answers, in order. -/
def recording (host : Host (StateM S)) : Host (StateM (S × List HostEvent)) :=
  ofCalls fun c => fun s =>
    let answered := (host.call c).run s.1
    (answered.1, (answered.2, s.2 ++ [.ofCall c answered.1]))

end Host

end ReviewBot
