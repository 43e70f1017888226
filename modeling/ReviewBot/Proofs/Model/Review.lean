import ReviewBot.Model.Basic
import ReviewBot.Proofs.Text.Lines
import ReviewBot.Proofs.Text.Trim

set_option autoImplicit false

/-!
# What a model finds

Whatever a model answers and whatever state it keeps, each of its findings is in an answer about one
of the chunks (`mem_review_run`) and tells one line of that answer (`feed_not_mem_message`). A model
that keeps a state is asked about every chunk in turn (`review_run_snd`). One that depends on the
prompt alone says the same of a chunk whatever the other chunks are (`review_eq_flatMap`). In any
monad a review asks about the chunks one after the other and passes over those for which there is
only an error (`review_eq_map_answers`), as if the reply had been empty (`review_withEmptyReplies`).
-/

namespace ReviewBot.Model

theorem mem_remarks {chunk : Chunk} {reply : String} {f : Finding} (h : f ∈ remarks chunk reply) :
    ∃ (k : RemarkClass) (line : List Char), f = k.finding chunk line := by
  obtain ⟨line, -, hline⟩ := List.mem_filterMap.1 h
  obtain ⟨k, -, rfl⟩ := Option.map_eq_some_iff.1 hline
  exact ⟨k, line, rfl⟩

theorem mem_findingsOf {chunk : Chunk} {answer : Except Error String} {f : Finding}
    (h : f ∈ findingsOf chunk answer) :
    ∃ (k : RemarkClass) (line : List Char), f = k.finding chunk line := by
  cases answer with
  | error e => exact absurd h List.not_mem_nil
  | ok reply => exact mem_remarks h

/-- A finding in an answer tells one line of it. -/
theorem feed_not_mem_message {chunk : Chunk} {answer : Except Error String} {f : Finding}
    (h : f ∈ findingsOf chunk answer) : '\n' ∉ f.message.toList := by
  cases answer with
  | error e => exact absurd h List.not_mem_nil
  | ok reply =>
    obtain ⟨line, hline, hremark⟩ := List.mem_filterMap.1 h
    obtain ⟨k, -, rfl⟩ := Option.map_eq_some_iff.1 hremark
    show '\n' ∉ (String.ofList (Text.trim line)).toList
    rw [String.toList_ofList]
    exact fun hfeed => Text.not_mem_of_mem_pieces hline ((Text.trim_isInfix line).subset hfeed)

/-- A model that depends on the prompt alone is asked about each chunk for itself. -/
theorem review_eq_flatMap (model : Model Id) (pr : PullRequest) (chunks : List Chunk) :
    (model.review pr chunks).run =
      chunks.flatMap fun chunk => findingsOf chunk (model.reply (prompt pr chunk)).run := by
  induction chunks with
  | nil => rfl
  | cons chunk rest ih =>
    rw [List.flatMap_cons, ← ih]
    rfl

/-- Every finding of a model is in an answer about a chunk. -/
theorem mem_review_run {σ : Type} {model : Model (StateM σ)} {pr : PullRequest}
    {chunks : List Chunk} {s : σ} {f : Finding} (h : f ∈ ((model.review pr chunks).run s).1) :
    ∃ chunk ∈ chunks, ∃ answer, f ∈ findingsOf chunk answer := by
  induction chunks generalizing s with
  | nil => exact absurd h List.not_mem_nil
  | cons chunk rest ih =>
    have hrun : ((model.review pr (chunk :: rest)).run s).1 =
        findingsOf chunk ((model.reply (prompt pr chunk)).run s).1 ++
          ((model.review pr rest).run ((model.reply (prompt pr chunk)).run s).2).1 := rfl
    rw [hrun, List.mem_append] at h
    rcases h with h | h
    · exact ⟨chunk, List.mem_cons_self, _, h⟩
    · obtain ⟨chunk', hmem, hanswer⟩ := ih h
      exact ⟨chunk', List.mem_cons_of_mem _ hmem, hanswer⟩

/-- A review leaves the model as it is when it has been asked about every chunk in turn. -/
theorem review_run_snd {σ : Type} (model : Model (StateM σ)) (pr : PullRequest)
    (chunks : List Chunk) (s : σ) :
    ((model.review pr chunks).run s).2 =
      chunks.foldl (fun s chunk => ((model.reply (prompt pr chunk)).run s).2) s := by
  induction chunks generalizing s with
  | nil => rfl
  | cons chunk rest ih => exact ih ((model.reply (prompt pr chunk)).run s).2

/-! ## Errors -/

section Answers

variable {m : Type → Type} [Monad m]

/-- The answers about the chunks, each asked for in turn. -/
def answers (model : Model m) (pr : PullRequest) (chunks : List Chunk) :
    m (List (Except Error String)) :=
  chunks.mapM fun chunk => model.reply (prompt pr chunk)

/-- What the answers about the chunks say, in order of the chunks; errors are passed over. -/
def foundIn (chunks : List Chunk) (answers : List (Except Error String)) : List Finding :=
  ((chunks.zip answers).filterMap fun asked => asked.2.toOption.map (remarks asked.1)).flatten

/-- The model with an empty reply in place of every error. -/
def withEmptyReplies (model : Model m) : Model m :=
  ⟨model.name, fun prompt => (fun answer => .ok (answer.toOption.getD "")) <$> model.reply prompt⟩

theorem foundIn_cons (chunk : Chunk) (chunks : List Chunk) (answer : Except Error String)
    (answers : List (Except Error String)) :
    foundIn (chunk :: chunks) (answer :: answers) =
      findingsOf chunk answer ++ foundIn chunks answers := by
  unfold foundIn
  rw [List.zip_cons_cons, List.filterMap_cons]
  cases answer with
  | error e => rfl
  | ok reply => exact List.flatten_cons

theorem remarks_empty (chunk : Chunk) : remarks chunk "" = [] := rfl

theorem findingsOf_getD (chunk : Chunk) (answer : Except Error String) :
    findingsOf chunk (.ok (answer.toOption.getD "")) = findingsOf chunk answer := by
  cases answer with
  | error e => exact remarks_empty chunk
  | ok reply => rfl

theorem answers_nil (model : Model m) (pr : PullRequest) : model.answers pr [] = pure [] :=
  List.mapM_nil

variable [LawfulMonad m]

theorem answers_cons (model : Model m) (pr : PullRequest) (chunk : Chunk) (rest : List Chunk) :
    model.answers pr (chunk :: rest) =
      (do
        let answer ← model.reply (prompt pr chunk)
        let later ← model.answers pr rest
        pure (answer :: later)) :=
  List.mapM_cons

/-- A review is made of the answers about all chunks. -/
theorem review_eq_map_answers (model : Model m) (pr : PullRequest) (chunks : List Chunk) :
    model.review pr chunks = foundIn chunks <$> model.answers pr chunks := by
  induction chunks with
  | nil =>
    rw [review, answers_nil, map_pure]
    rfl
  | cons chunk rest ih =>
    rw [review, ih, answers_cons]
    simp only [map_bind, map_pure, bind_map_left, foundIn_cons]

/-- An error means as much as an empty reply. -/
theorem review_withEmptyReplies (model : Model m) (pr : PullRequest) (chunks : List Chunk) :
    model.withEmptyReplies.review pr chunks = model.review pr chunks := by
  induction chunks with
  | nil => rfl
  | cons chunk rest ih =>
    rw [review, review, ih]
    simp only [withEmptyReplies, bind_map_left, findingsOf_getD]

end Answers

end ReviewBot.Model
