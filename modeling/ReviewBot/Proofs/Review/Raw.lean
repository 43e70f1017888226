import ReviewBot.Proofs.Finding.Grade
import ReviewBot.Proofs.Model.Review
import ReviewBot.Proofs.Rule.BuiltIn
import ReviewBot.Settings.Pipeline

set_option autoImplicit false

/-!
# Findings before merging

Within the size limit a review merges what the rules and the model have found (`analyze_run`). With
the built-in rules all of it has a grade of the table, whatever the model answers
(`graded_rawFindings`).
-/

namespace ReviewBot.Pipeline

variable {σ : Type}

/-- What the rules and the model find in a run that begins in the state `s`. -/
def rawFindings (p : Pipeline (StateM σ)) (pr : PullRequest) (diff : String) (s : σ) :
    List Finding :=
  p.heuristicFindings (p.chunksOf diff) ++ ((p.modelFindings pr (p.chunksOf diff)).run s).1

/-- A diff within the size limit yields the report on what the rules and the model have found. -/
theorem analyze_run_report {p : Pipeline (StateM σ)} {diff : String}
    (h : p.limits.isExceededBy diff = false) (pr : PullRequest) (s : σ) :
    ((p.analyze pr diff).run s).1 =
      some (p.report (p.chunksOf diff) (p.heuristicFindings (p.chunksOf diff))
        ((p.modelFindings pr (p.chunksOf diff)).run s).1) := by
  rw [analyze, h]
  rfl

/-- A diff within the size limit yields a report on the merged findings. -/
theorem analyze_run {p : Pipeline (StateM σ)} {diff : String}
    (h : p.limits.isExceededBy diff = false) (pr : PullRequest) (s : σ) :
    ∃ report : Report, ((p.analyze pr diff).run s).1 = some report ∧
      report.findings = Finding.mergeAndRank (p.rawFindings pr diff s) :=
  ⟨_, analyze_run_report h pr s, rfl⟩

section Rules

variable {m : Type → Type} {settings : Settings} {model : Option (Model m)}

theorem heuristicFindings_builtIn (chunks : List Chunk) :
    (settings.pipeline .builtIn model).heuristicFindings chunks =
      if settings.app.heuristicsEnabled then
        chunks.flatMap fun chunk => chunk.secretFindings ++ chunk.memberAccessFindings
      else [] := by
  unfold heuristicFindings Settings.pipeline
  cases settings.app.heuristicsEnabled with
  | false => rfl
  | true => exact RuleSet.review_builtIn chunks

/-- What the built-in rules find in a chunk is a credential or an access in one of its lines. -/
theorem exists_chunk_of_heuristicFindings {chunks : List Chunk} {f : Finding}
    (h : f ∈ (settings.pipeline .builtIn model).heuristicFindings chunks) :
    ∃ chunk ∈ chunks, (∃ kind : SecretKind, f = kind.finding chunk) ∨
      ∃ index < chunk.addedLines.length, f = MemberAccess.finding chunk index := by
  rw [heuristicFindings_builtIn] at h
  split at h
  · obtain ⟨chunk, hchunk, hf⟩ := List.mem_flatMap.1 h
    refine ⟨chunk, hchunk, ?_⟩
    rcases List.mem_append.1 hf with hf | hf
    · obtain ⟨line, -, kind, -, rfl⟩ := mem_secretFindings.1 hf
      exact Or.inl ⟨kind, rfl⟩
    · exact Or.inr (mem_memberAccessFindings hf)
  · exact absurd h List.not_mem_nil

theorem grade_mem_of_heuristicFindings {chunks : List Chunk} {f : Finding}
    (h : f ∈ (settings.pipeline .builtIn model).heuristicFindings chunks) :
    f.grade ∈ Grade.all := by
  obtain ⟨chunk, -, ⟨kind, rfl⟩ | ⟨index, -, rfl⟩⟩ := exists_chunk_of_heuristicFindings h
  · rw [Finding.grade_secret]
    decide
  · rw [Finding.grade_memberAccess]
    decide

end Rules

variable {settings : Settings} {model : Option (Model (StateM σ))}

theorem exists_answer_of_modelFindings {p : Pipeline (StateM σ)} {pr : PullRequest}
    {chunks : List Chunk} {s : σ} {f : Finding} (h : f ∈ ((p.modelFindings pr chunks).run s).1) :
    ∃ chunk ∈ chunks, ∃ answer, f ∈ Model.findingsOf chunk answer := by
  unfold modelFindings at h
  cases hmodel : p.model with
  | none =>
    rw [hmodel] at h
    exact absurd h List.not_mem_nil
  | some model =>
    rw [hmodel] at h
    exact Model.mem_review_run h

theorem exists_remark_of_modelFindings {p : Pipeline (StateM σ)} {pr : PullRequest}
    {chunks : List Chunk} {s : σ} {f : Finding} (h : f ∈ ((p.modelFindings pr chunks).run s).1) :
    ∃ chunk ∈ chunks, ∃ (k : Model.RemarkClass) (line : List Char), f = k.finding chunk line := by
  obtain ⟨chunk, hchunk, answer, hf⟩ := exists_answer_of_modelFindings h
  exact ⟨chunk, hchunk, Model.mem_findingsOf hf⟩

/-- What the built-in rules and any model find in chunks has a grade of the table. -/
theorem graded_found (pr : PullRequest) (chunks : List Chunk) (s : σ) :
    Finding.Graded ((settings.pipeline .builtIn model).heuristicFindings chunks ++
      (((settings.pipeline .builtIn model).modelFindings pr chunks).run s).1) := by
  intro f hf
  rcases List.mem_append.1 hf with hf | hf
  · exact grade_mem_of_heuristicFindings hf
  · obtain ⟨chunk, -, k, line, rfl⟩ := exists_remark_of_modelFindings hf
    rw [Finding.grade_remark]
    cases k <;> decide

/-- What the built-in rules and any model find in a diff has a grade of the table. -/
theorem graded_rawFindings (pr : PullRequest) (diff : String) (s : σ) :
    Finding.Graded ((settings.pipeline .builtIn model).rawFindings pr diff s) :=
  graded_found pr _ s

end ReviewBot.Pipeline
