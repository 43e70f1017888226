import ReviewBot.Proofs.Model.Review
import ReviewBot.Proofs.Rule.Priority

set_option autoImplicit false

/-!
# Failures do not spread

A rule that fails on a chunk and a model that has no answer about one take away their own findings
there and nothing else. So the findings of a rule set and of a model are put together from the parts
that have not failed, in an order that is known beforehand (`review_passes_over_failures`).
-/

namespace ReviewBot

/-- The rules find, chunk by chunk, what those of them find that do not fail on the chunk, by
falling priority and in order of registration; rules that fail on every chunk may be left out, and
another registration of the same checks only reorders the findings of each chunk. The model finds
what its answers about the chunks say, in order of the chunks, and its errors count as empty
replies. -/
theorem review_passes_over_failures {m : Type → Type} [Monad m] [LawfulMonad m]
    (rules : List Rule) (chunks : List Chunk) (pr : PullRequest) (model : Model m) :
    ((RuleSet.ofList rules).review chunks =
        chunks.flatMap (Rule.foundBy (Rule.byPriority rules)) ∧
      (∀ keep : Rule → Bool,
        (∀ rule ∈ rules, keep rule = false →
          ∀ chunk ∈ chunks, (rule.inspect chunk).found? = none) →
        (RuleSet.ofList (rules.filter keep)).review chunks =
          (RuleSet.ofList rules).review chunks) ∧
      ∀ rules' : List Rule, (rules'.map (·.inspect)).Perm (rules.map (·.inspect)) →
        (RuleSet.ofList rules').review chunks =
            chunks.flatMap (Rule.foundBy (Rule.byPriority rules')) ∧
          ∀ chunk, (Rule.foundBy (Rule.byPriority rules') chunk).Perm
            (Rule.foundBy (Rule.byPriority rules) chunk)) ∧
      model.review pr chunks = Model.foundIn chunks <$> model.answers pr chunks ∧
      model.withEmptyReplies.review pr chunks = model.review pr chunks := by
  have hreview : ∀ registered : List Rule, (RuleSet.ofList registered).review chunks =
      chunks.flatMap (Rule.foundBy (Rule.byPriority registered)) := by
    intro registered
    exact List.flatMap_congr fun chunk _ => RuleSet.inspect_ofList registered chunk
  refine ⟨⟨hreview rules, ?_, ?_⟩, model.review_eq_map_answers pr chunks,
    model.review_withEmptyReplies pr chunks⟩
  · intro keep hfail
    exact RuleSet.review_ofList_filter hfail
  · intro rules' hchecks
    refine ⟨hreview rules', ?_⟩
    intro chunk
    rw [← RuleSet.inspect_ofList, ← RuleSet.inspect_ofList]
    exact RuleSet.inspect_ofList_perm hchecks chunk

/-- A rule that breaks down everywhere, one that fails on the first of two chunks, and a model that
has no answer about it. -/
theorem review_passes_over_failures_of_broken_rule :
    let a : Chunk := { (default : Chunk) with filePath := "a.py" }
    let b : Chunk := { (default : Chunk) with filePath := "b.py" }
    let note (name : String) (chunk : Chunk) : Finding :=
      { filePath := chunk.filePath, lineNumber := 1, severity := .low, category := name,
        message := name, source := .heuristic }
    let broken : Rule := ⟨"broken", 9, fun _ => .crashed⟩
    let picky : Rule := ⟨"picky", 1, fun chunk =>
      if chunk.filePath = "a.py" then .failed (.llm "no") else .found [note "picky" chunk]⟩
    let plain : Rule := ⟨"plain", 1, fun chunk => .found [note "plain" chunk]⟩
    let urgent : Rule := ⟨"urgent", 5, plain.inspect⟩
    let model : Model (StateM Nat) :=
      ⟨"m", fun _ n => (if n = 0 then .error (.llm "late") else .ok "a bug", n + 1)⟩
    let chunks := [a, b]
    (RuleSet.ofList [broken, picky, plain]).review chunks =
        [note "plain" a, note "picky" b, note "plain" b] ∧
      (∀ rule ∈ [broken, picky, plain], (rule.name != "broken") = false →
        ∀ chunk ∈ chunks, (rule.inspect chunk).found? = none) ∧
      (RuleSet.ofList [picky, plain]).review chunks =
        (RuleSet.ofList [broken, picky, plain]).review chunks ∧
      ([picky, urgent, broken].map (·.inspect)).Perm ([broken, picky, plain].map (·.inspect)) ∧
      (RuleSet.ofList [picky, urgent, broken]).review chunks =
        [note "plain" a, note "plain" b, note "picky" b] ∧
      (((model.review {} chunks).run 0).1.map (·.filePath)) = ["b.py"] ∧
      model.withEmptyReplies.review {} chunks = model.review {} chunks := by
  intro a b note broken picky plain urgent model chunks
  have hfail : ∀ rule ∈ [broken, picky, plain], (rule.name != "broken") = false →
      ∀ chunk ∈ chunks, (rule.inspect chunk).found? = none := by
    decide
  have hchecks : ([picky, urgent, broken].map (·.inspect)).Perm
      ([broken, picky, plain].map (·.inspect)) := by
    show ([picky.inspect, plain.inspect] ++ [broken.inspect]).Perm
      ([broken.inspect] ++ [picky.inspect, plain.inspect])
    exact List.perm_append_comm
  obtain ⟨⟨hreview, hleft, horder⟩, -, hempty⟩ :=
    review_passes_over_failures [broken, picky, plain] chunks {} model
  obtain ⟨hother, -⟩ := horder [picky, urgent, broken] hchecks
  refine ⟨hreview.trans (by decide), hfail, ?_, hchecks, hother.trans (by decide),
    by decide +kernel, hempty⟩
  exact hleft (fun rule => rule.name != "broken") hfail

end ReviewBot
