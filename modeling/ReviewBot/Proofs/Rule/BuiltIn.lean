import Mathlib.Data.List.Basic
import ReviewBot.Rule.BuiltIn

set_option autoImplicit false

/-!
# What the built-in rules find

The credentials of a chunk are reported before its unguarded member accesses, whatever the order in
which the rules are registered (`review_builtIn`).
-/

namespace ReviewBot

/-- The reports of credentials in a chunk, line by line. -/
def Chunk.secretFindings (chunk : Chunk) : List Finding :=
  chunk.addedLines.flatMap fun line =>
    (SecretKind.all.filter (·.occursIn line)).map (·.finding chunk)

/-- The reports of unguarded member accesses in a chunk, line by line. -/
def Chunk.memberAccessFindings (chunk : Chunk) : List Finding :=
  (chunk.addedLines.zipIdx.filter fun line => MemberAccess.isUnguarded line.1).map
    fun line => MemberAccess.finding chunk line.2

namespace RuleSet

theorem rules_builtIn : builtIn.rules = [Rule.secrets, Rule.memberAccess] := by
  have h : ¬ Rule.secrets.priority ≤ Rule.memberAccess.priority := by decide
  simp [builtIn, ofList, List.mergeSort, List.MergeSort.Internal.splitInTwo, h]

theorem inspect_builtIn (chunk : Chunk) :
    builtIn.inspect chunk = chunk.secretFindings ++ chunk.memberAccessFindings := by
  rw [inspect, rules_builtIn, List.flatMap_cons, List.flatMap_cons, List.flatMap_nil,
    List.append_nil]
  rfl

/-- The reports of the built-in rules on all chunks. -/
theorem review_builtIn (chunks : List Chunk) :
    builtIn.review chunks =
      chunks.flatMap fun chunk => chunk.secretFindings ++ chunk.memberAccessFindings := by
  rw [review, funext inspect_builtIn]

end RuleSet

theorem mem_secretFindings {chunk : Chunk} {f : Finding} :
    f ∈ chunk.secretFindings ↔
      ∃ line ∈ chunk.addedLines, ∃ kind : SecretKind,
        kind.occursIn line = true ∧ f = kind.finding chunk := by
  have hall : ∀ kind : SecretKind, kind ∈ SecretKind.all := by
    intro kind
    cases kind <;> decide
  simp only [Chunk.secretFindings, List.mem_flatMap, List.mem_map, List.mem_filter, hall,
    true_and, eq_comm]

theorem mem_memberAccessFindings {chunk : Chunk} {f : Finding}
    (h : f ∈ chunk.memberAccessFindings) :
    ∃ index < chunk.addedLines.length, f = MemberAccess.finding chunk index := by
  obtain ⟨line, hline, rfl⟩ := List.mem_map.1 h
  have hindex := (List.mem_zipIdx' (List.mem_filter.1 hline).1).1
  exact ⟨line.2, hindex, rfl⟩

end ReviewBot
