import ReviewBot.Model.Remark
import ReviewBot.Proofs.Finding.Key
import ReviewBot.Proofs.Finding.Merge
import ReviewBot.Rule.BuiltIn

set_option autoImplicit false

/-!
# Grades

Severity, category, confidence and precedence of a finding depend only on the rule or the class that
has made it. In the table of these grades a greater confidence never goes with a smaller severity or
precedence of the same category (`Grade.mono`), so that the champion of a place, which is chosen by
confidence alone, covers all findings there (`Finding.Graded.exists_covers`).
-/

namespace ReviewBot

/-- What a finding says apart from its place and its words. -/
structure Grade where
  severity : Severity
  category : String
  confidence : Binary64
  precedence : Nat
  deriving DecidableEq

/-- The grade of a finding. -/
def Finding.grade (f : Finding) : Grade :=
  ⟨f.severity, f.category, f.confidence, f.precedence⟩

namespace Grade

/-- The grade of credentials. -/
def secret : Grade := (SecretKind.awsKey.finding default).grade

/-- The grade of unguarded member accesses. -/
def memberAccess : Grade := (MemberAccess.finding default 0).grade

/-- The grade of the remarks of a model in a class. -/
def remark (k : Model.RemarkClass) : Grade := (k.finding default []).grade

/-- The grades of the built-in rules and of models. -/
def all : List Grade := secret :: memberAccess :: Model.RemarkClass.all.map remark

theorem colon_not_mem {a : Grade} (h : a ∈ all) : ':' ∉ a.category.toList := by
  have table : ∀ a ∈ all, ':' ∉ a.category.toList := by decide
  exact table a h

theorem defined {a : Grade} (h : a ∈ all) : a.confidence.isNaN = false := by
  have table : ∀ a ∈ all, a.confidence.isNaN = false := by decide
  exact table a h

/-- Inside a category severity and precedence do not fall when the confidence grows. -/
theorem mono {a b : Grade} (ha : a ∈ all) (hb : b ∈ all) (hcategory : a.category = b.category)
    (h : a.confidence.AtMost b.confidence) :
    a.severity.rank ≤ b.severity.rank ∧ a.precedence ≤ b.precedence := by
  -- Only remarks share a category; for them the classes are ordered alike in all three respects.
  have table : ∀ a ∈ all, ∀ b ∈ all, a.category = b.category →
      a.confidence.AtMost b.confidence →
        a.severity.rank ≤ b.severity.rank ∧ a.precedence ≤ b.precedence := by decide
  exact table a ha b hb hcategory h

end Grade

namespace Finding

theorem grade_secret (kind : SecretKind) (chunk : Chunk) :
    (kind.finding chunk).grade = .secret := rfl

theorem grade_memberAccess (chunk : Chunk) (index : Nat) :
    (MemberAccess.finding chunk index).grade = .memberAccess := rfl

theorem grade_remark (k : Model.RemarkClass) (chunk : Chunk) (line : List Char) :
    (k.finding chunk line).grade = .remark k := rfl

/-- `g` is as severe, as certain and as urgent as `f` or more so. -/
structure Covers (g f : Finding) : Prop where
  rank_le : f.severity.rank ≤ g.severity.rank
  confidence_atMost : f.confidence.AtMost g.confidence
  precedence_le : f.precedence ≤ g.precedence

/-- All findings have a grade of the table. -/
def Graded (findings : List Finding) : Prop := ∀ f ∈ findings, f.grade ∈ Grade.all

theorem Graded.key_eq_iff {findings : List Finding} (h : Graded findings) {f g : Finding}
    (hf : f ∈ findings) (hg : g ∈ findings) : f.key = g.key ↔ f.SamePlace g :=
  Finding.key_eq_iff (Grade.colon_not_mem (h f hf)) (Grade.colon_not_mem (h g hg))

/-- At each place where something is found merging keeps one finding: the champion of the place. -/
theorem Graded.filter_samePlace_mergeAndRank {findings : List Finding} (h : Graded findings)
    {f : Finding} (hf : f ∈ findings) :
    (mergeAndRank findings).filter (fun g => f.SamePlace g) =
      (champion (findings.filter fun g => f.SamePlace g)).toList := by
  have hplace : ∀ g ∈ findings, decide (g.key = f.key) = decide (f.SamePlace g) := by
    intro g hg
    rw [decide_eq_decide, ← h.key_eq_iff hf hg, eq_comm]
  have hraw : findings.filter (fun g => f.SamePlace g) = withKey f.key findings :=
    (List.filter_congr hplace).symm
  have hmerged : (mergeAndRank findings).filter (fun g => f.SamePlace g) =
      withKey f.key (mergeAndRank findings) :=
    (List.filter_congr fun g hg => hplace g (mem_of_mem_mergeAndRank hg)).symm
  rw [hraw, hmerged, withKey_mergeAndRank]

theorem Graded.placedAt_mergeAndRank {findings : List Finding} (h : Graded findings) {f : Finding}
    (hf : f ∈ findings) :
    placedAt f.filePath f.lineNumber f.category (mergeAndRank findings) =
      (champion (placedAt f.filePath f.lineNumber f.category findings)).toList := by
  rw [← filter_samePlace, ← filter_samePlace]
  exact h.filter_samePlace_mergeAndRank hf

/-- Every finding is covered by the only one that merging keeps at its place. -/
theorem Graded.exists_covers {findings : List Finding} (h : Graded findings) {f : Finding}
    (hf : f ∈ findings) :
    ∃ g, (mergeAndRank findings).filter (fun g => f.SamePlace g) = [g] ∧ g.Covers f := by
  have hplace : f ∈ findings.filter fun g => f.SamePlace g :=
    List.mem_filter.2 ⟨hf, by simp [SamePlace]⟩
  obtain ⟨g, hg⟩ := champion_isSome_of_mem hplace
  have hmem := List.mem_filter.1 (champion_mem hg)
  have hsame : f.SamePlace g := by simpa using hmem.2
  have hconfidence : f.confidence.AtMost g.confidence :=
    champion_atMost (fun f' hf' => Grade.defined (h f' (List.mem_filter.1 hf').1)) hg f hplace
  obtain ⟨hrank, hprecedence⟩ := Grade.mono (h f hf) (h g hmem.1) hsame.2.2 hconfidence
  refine ⟨g, ?_, hrank, hconfidence, hprecedence⟩
  rw [h.filter_samePlace_mergeAndRank hf, hg]
  rfl

/-- Some finding reaches a threshold before merging if one does so after it. -/
theorem Graded.exists_meets_iff {findings : List Finding} (h : Graded findings)
    (threshold : Severity) :
    (∃ g ∈ mergeAndRank findings, g.severity.meets threshold = true) ↔
      ∃ f ∈ findings, f.severity.meets threshold = true := by
  constructor
  · rintro ⟨g, hg, hmeets⟩
    exact ⟨g, mem_of_mem_mergeAndRank hg, hmeets⟩
  · rintro ⟨f, hf, hmeets⟩
    obtain ⟨g, hplace, hcovers⟩ := h.exists_covers hf
    have hg : g ∈ (mergeAndRank findings).filter (fun g => f.SamePlace g) := by
      rw [hplace]
      exact List.mem_singleton_self g
    have hf' : threshold.rank ≤ f.severity.rank := by simpa [Severity.meets] using hmeets
    refine ⟨g, (List.mem_filter.1 hg).1, ?_⟩
    simpa [Severity.meets] using Nat.le_trans hf' hcovers.rank_le

end Finding

end ReviewBot
