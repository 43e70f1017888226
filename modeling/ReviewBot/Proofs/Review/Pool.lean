import ReviewBot.Proofs.Host.BoardEvents
import ReviewBot.Proofs.Review.Task
import ReviewBot.Proofs.Webhook.Gate

set_option autoImplicit false

/-!
# Reviews in progress

Every accepted delivery starts a review that nobody waits for, so deliveries and the calls of all
reviews reach the server and the board in any order. Whatever the order is, each call is one of the
review that has made it, in the order of that review, and the board is what the calls have left
(`Pool.IsSound.run`).
-/

namespace ReviewBot

/-- What a task has come to when it has gone on. -/
structure Turn (α : Type) where
  /-- The task. -/
  task : Task α
  /-- The board that it has left. -/
  board : Board
  /-- The call that it has made, if it has made one. -/
  events : List HostEvent

/-- A task goes on with the next answer. The host reports no error; if it is asked for a diff the
answer is `diff`, and if the model is asked its answer is `reply`. -/
def Task.advance {α : Type} (b : Board) (diff : String) (reply : Except Error String) :
    Task α → Turn α
  | .done a => ⟨.done a, b, []⟩
  | .ask _ next => ⟨next reply, b, []⟩
  | .call c next =>
    let answered := (({ diff := .ok diff } : BoardScript).host.call c).run b
    ⟨next answered.1, answered.2, [.ofCall c answered.1]⟩

theorem Task.path_advance {α : Type} (t : Task α) (b : Board) (diff : String)
    (reply : Except Error String) :
    Task.Path t (t.advance b diff reply).events (t.advance b diff reply).task := by
  cases t with
  | done a => exact .nil _
  | ask prompt next => exact .ask reply (.nil _)
  | call c next => exact .call _ (.nil _)

theorem Task.board_advance {α : Type} (t : Task α) (b : Board) (diff : String)
    (reply : Except Error String) :
    (∀ event ∈ (t.advance b diff reply).events, event.Succeeds) ∧
      (t.advance b diff reply).board.comments =
        (b.afterEvents (t.advance b diff reply).events).comments := by
  cases t with
  | done a => exact ⟨fun event h => absurd h List.not_mem_nil, rfl⟩
  | ask prompt next => exact ⟨fun event h => absurd h List.not_mem_nil, rfl⟩
  | call c next =>
    obtain ⟨hsucceeds, hboard⟩ := Board.comments_call diff c b
    refine ⟨fun event h => ?_, hboard⟩
    rw [List.mem_singleton.1 h]
    exact hsucceeds

/-- Something happens where reviews are run. -/
inductive Move where
  /-- A message of the code host arrives. -/
  | deliver (d : Delivery)
  /-- The task with a number goes on. -/
  | advance (task : Nat) (diff : String) (reply : Except Error String)

/-- The delivery that arrives. -/
def Move.delivery? : Move → Option Delivery
  | deliver d => some d
  | advance _ _ _ => none

/-- The server that starts a task for every pull request that is handed over. -/
def WebhookServer.spawning (v : Verifier) (r : Reviewer Task) :
    WebhookServer (StateM (List (Task Unit))) :=
  ⟨v, fun pr => modify (· ++ [r.process pr])⟩

/-- Reviews that have been started, and the board on which they are run. -/
structure Pool where
  /-- The tasks in the order in which they were started. -/
  tasks : List (Task Unit)
  /-- The board. -/
  board : Board
  /-- All calls in order, each with the number of the task that has made it. -/
  events : List (Nat × HostEvent)

namespace Pool

/-- A board on which no review has been started. -/
def start (b : Board) : Pool := ⟨[], b, []⟩

/-- A task takes its turn. -/
def take (pool : Pool) (i : Nat) (turn : Turn Unit) : Pool :=
  ⟨pool.tasks.set i turn.task, turn.board, pool.events ++ turn.events.map fun event => (i, event)⟩

/-- The pool after a move; a task that does not exist does not go on. -/
def move (v : Verifier) (r : Reviewer Task) (pool : Pool) : Move → Pool
  | .deliver d =>
    { pool with tasks := (((WebhookServer.spawning v r).deliver d).run pool.tasks).2 }
  | .advance i diff reply =>
    match pool.tasks[i]? with
    | some task => pool.take i (task.advance pool.board diff reply)
    | none => pool

/-- The pool after moves. -/
def run (v : Verifier) (r : Reviewer Task) (pool : Pool) (moves : List Move) : Pool :=
  moves.foldl (move v r) pool

/-- Of numbered calls, those of the task with a number. -/
def callsOf (i : Nat) (events : List (Nat × HostEvent)) : List HostEvent :=
  events.filterMap fun event => if event.1 = i then some event.2 else none

/-- The calls of a task, in order. -/
def eventsOf (pool : Pool) (i : Nat) : List HostEvent := callsOf i pool.events

theorem callsOf_append (i : Nat) (front back : List (Nat × HostEvent)) :
    callsOf i (front ++ back) = callsOf i front ++ callsOf i back :=
  List.filterMap_append

theorem mem_callsOf {i : Nat} {event : HostEvent} {events : List (Nat × HostEvent)} :
    event ∈ callsOf i events ↔ (i, event) ∈ events := by
  unfold callsOf
  rw [List.mem_filterMap]
  constructor
  · rintro ⟨⟨j, event'⟩, hmem, hevent⟩
    by_cases hj : j = i
    · rw [if_pos hj, Option.some.injEq] at hevent
      rwa [← hj, ← hevent]
    · rw [if_neg hj] at hevent
      exact absurd hevent nofun
  · intro hmem
    exact ⟨(i, event), hmem, if_pos rfl⟩

/-! ## What every run keeps -/

/-- Every call is one of the task that has made it, in its order, and the board is what the calls
have left of `b`. The tasks are the reviews of `prs`. -/
structure IsSound (r : Reviewer Task) (b : Board) (prs : List PullRequest) (pool : Pool) :
    Prop where
  length : pool.tasks.length = prs.length
  path : ∀ i pr task, prs[i]? = some pr → pool.tasks[i]? = some task →
    Task.Path (r.process pr) (pool.eventsOf i) task
  known : ∀ event ∈ pool.events, event.1 < prs.length
  succeeds : ∀ event ∈ pool.events, event.2.Succeeds
  board : pool.board.comments = (b.afterEvents (pool.events.map (·.2))).comments

theorem isSound_start (r : Reviewer Task) (b : Board) : IsSound r b [] (start b) where
  length := rfl
  path i pr task h := absurd h (by simp)
  known event h := absurd h List.not_mem_nil
  succeeds event h := absurd h List.not_mem_nil
  board := rfl

/-! ### Going on -/

section Take

variable {r : Reviewer Task} {b : Board} {prs : List PullRequest} {pool : Pool}

theorem eventsOf_take_self (pool : Pool) (i : Nat) (turn : Turn Unit) :
    (pool.take i turn).eventsOf i = pool.eventsOf i ++ turn.events := by
  refine (callsOf_append i _ _).trans (congrArg _ ?_)
  simp [callsOf, List.filterMap_map]

theorem eventsOf_take_of_ne (pool : Pool) {i j : Nat} (h : i ≠ j) (turn : Turn Unit) :
    (pool.take i turn).eventsOf j = pool.eventsOf j := by
  refine (callsOf_append j _ _).trans ?_
  simp [callsOf, List.filterMap_map, h, eventsOf]

/-- A task that goes on keeps to its calls, and the board is what they have left. -/
theorem IsSound.take (h : IsSound r b prs pool) {i : Nat} {task : Task Unit}
    (htask : pool.tasks[i]? = some task) (diff : String) (reply : Except Error String) :
    IsSound r b prs (pool.take i (task.advance pool.board diff reply)) := by
  obtain ⟨hi, -⟩ := List.getElem?_eq_some_iff.1 htask
  obtain ⟨hsucceeds, hboard⟩ := task.board_advance pool.board diff reply
  constructor
  case length => exact (List.length_set ..).trans h.length
  case path =>
    intro j pr later hpr hlater
    have hset : (pool.tasks.set i (task.advance pool.board diff reply).task)[j]? = some later :=
      hlater
    -- Only the task that goes on has made a call.
    by_cases hij : i = j
    · subst hij
      rw [List.getElem?_set_self hi] at hset
      rw [eventsOf_take_self, ← Option.some.inj hset]
      exact (h.path i pr task hpr htask).trans (task.path_advance pool.board diff reply)
    · rw [List.getElem?_set_ne hij] at hset
      rw [eventsOf_take_of_ne pool hij]
      exact h.path j pr later hpr hset
  case known =>
    intro event hevent
    rcases List.mem_append.1 hevent with hevent | hevent
    · exact h.known event hevent
    · obtain ⟨event, -, rfl⟩ := List.mem_map.1 hevent
      exact h.length ▸ hi
  case succeeds =>
    intro event hevent
    rcases List.mem_append.1 hevent with hevent | hevent
    · exact h.succeeds event hevent
    · obtain ⟨event, hmem, rfl⟩ := List.mem_map.1 hevent
      exact hsucceeds event hmem
  case board =>
    have hevents : ((pool.take i (task.advance pool.board diff reply)).events.map (·.2)) =
        pool.events.map (·.2) ++ (task.advance pool.board diff reply).events := by
      show (pool.events ++ _).map (·.2) = _
      rw [List.map_append, List.map_map]
      exact congrArg _ (List.map_id _)
    rw [hevents, Board.afterEvents_append]
    exact hboard.trans (Board.comments_afterEvents h.board _)

/-- A task that is started makes no call yet. -/
theorem IsSound.spawn (h : IsSound r b prs pool) (pr : PullRequest) :
    IsSound r b (prs ++ [pr]) { pool with tasks := pool.tasks ++ [r.process pr] } where
  length := by simp [h.length]
  path := by
    intro i pr' task hpr htask
    -- A task is one of those before, or it is the new one, which has made no call.
    by_cases hi : i < prs.length
    · rw [List.getElem?_append_left hi] at hpr
      rw [List.getElem?_append_left (h.length.symm ▸ hi)] at htask
      exact h.path i pr' task hpr htask
    · have hnew : i = prs.length := by
        have hlt := (List.getElem?_eq_some_iff.1 hpr).1
        rw [List.length_append, List.length_singleton] at hlt
        omega
      have hnone : pool.eventsOf i = [] := by
        refine List.filterMap_eq_nil_iff.2 fun event hevent => ?_
        have hknown := h.known event hevent
        rw [if_neg (by omega)]
      subst hnew
      have hpr' : pr = pr' := by simpa using hpr
      have htask' : r.process pr = task := by
        rw [← h.length] at htask
        simpa using htask
      have hstart : Task.Path (r.process pr) (pool.eventsOf prs.length) (r.process pr) := by
        rw [hnone]
        exact .nil _
      rw [← hpr', ← htask']
      exact hstart
  known := by
    intro event hevent
    rw [List.length_append]
    exact Nat.lt_add_right _ (h.known event hevent)
  succeeds := h.succeeds
  board := h.board

end Take

/-! ### Runs -/

variable {v : Verifier} {r : Reviewer Task} {b : Board} {prs : List PullRequest} {pool : Pool}

theorem tasks_deliver (v : Verifier) (r : Reviewer Task) (d : Delivery)
    (tasks : List (Task Unit)) :
    (((WebhookServer.spawning v r).deliver d).run tasks).2 =
      tasks ++ (v.judge d).pullRequest?.toList.map r.process := by
  have hverdict : (WebhookServer.spawning v r).verifier.judge d = v.judge d := rfl
  rw [WebhookServer.deliver_eq, hverdict]
  cases (v.judge d).pullRequest? with
  | none => exact (List.append_nil _).symm
  | some pr => rfl

/-- The pull requests that moves have handed over for review. -/
def reviewed (v : Verifier) (moves : List Move) : List PullRequest :=
  v.pullRequestsOf (moves.filterMap Move.delivery?)

theorem IsSound.move (h : IsSound r b prs pool) (next : Move) :
    IsSound r b (prs ++ reviewed v [next]) (pool.move v r next) := by
  cases next with
  | deliver d =>
    have hmove : pool.move v r (.deliver d) =
        { pool with tasks := pool.tasks ++ (v.judge d).pullRequest?.toList.map r.process } :=
      congrArg (fun tasks => ({ pool with tasks := tasks } : Pool)) (tasks_deliver v r d pool.tasks)
    have hreviewed : reviewed v [.deliver d] = (v.judge d).pullRequest?.toList :=
      (v.pullRequestsOf_cons d []).trans (List.append_nil _)
    rw [hmove, hreviewed]
    cases (v.judge d).pullRequest? with
    | none =>
      rw [Option.toList_none, List.map_nil, List.append_nil, List.append_nil]
      exact h
    | some pr => exact h.spawn pr
  | advance i diff reply =>
    have hreviewed : reviewed v [.advance i diff reply] = [] := rfl
    rw [hreviewed, List.append_nil, Pool.move]
    cases htask : pool.tasks[i]? with
    | none => exact h
    | some task => exact h.take htask diff reply

theorem reviewed_cons (v : Verifier) (next : Move) (moves : List Move) :
    reviewed v (next :: moves) = reviewed v [next] ++ reviewed v moves := by
  unfold reviewed Verifier.pullRequestsOf
  rw [← List.filterMap_append, ← List.filterMap_append, List.singleton_append]

/-- Whatever happens in whichever order, every call is one of the task that has made it. -/
theorem IsSound.run (h : IsSound r b prs pool) (moves : List Move) :
    IsSound r b (prs ++ reviewed v moves) (pool.run v r moves) := by
  induction moves generalizing prs pool with
  | nil =>
    rw [show reviewed v [] = [] from rfl, List.append_nil]
    exact h
  | cons next rest ih =>
    rw [reviewed_cons, ← List.append_assoc]
    exact ih (h.move next)

end Pool

end ReviewBot
