import ReviewBot.Proofs.Finding.Merge

set_option autoImplicit false

/-!
# What merging yields

Merging keeps, for each key that occurs, the first of the most certain findings with that key
(`IsFirstBest`), and it presents what is kept in falling order of precedence, severity and
confidence (`RanksAtLeast`). Both are put together in `mergeAndRank_keeps_first_best`.
-/

namespace ReviewBot.Finding

/-- Of the findings with its key, `g` is the first one than which none is more certain. -/
structure IsFirstBest (g : Finding) (findings : List Finding) : Prop where
  atMost : ∀ f ∈ findings, f.key = g.key → f.confidence.AtMost g.confidence
  less_before : ∃ earlier later, findings = earlier ++ g :: later ∧
    ∀ f ∈ earlier, f.key = g.key → f.confidence.less g.confidence = true

/-- `f` has the rank of `g` or a greater one: the precedence decides, then the severity, then the
confidence. -/
def RanksAtLeast (f g : Finding) : Prop :=
  g.precedence < f.precedence ∨
    g.precedence = f.precedence ∧
      (g.severity.rank < f.severity.rank ∨
        g.severity.rank = f.severity.rank ∧ g.confidence.AtMost f.confidence)

/-! ## The finding of a key -/

/-- The champion of the findings with a key is the first of the most certain ones among all. -/
theorem isFirstBest_of_champion {findings : List Finding} {k : String} {g : Finding}
    (hdefined : ∀ f ∈ findings, f.confidence.isNaN = false)
    (h : champion (withKey k findings) = some g) : g.IsFirstBest findings := by
  have hdefined' : ∀ f ∈ withKey k findings, f.confidence.isNaN = false :=
    fun f hf => hdefined f (List.mem_filter.1 hf).1
  have hkey : g.key = k := by simpa using (List.mem_filter.1 (champion_mem h)).2
  subst hkey
  constructor
  · intro f hf hfkey
    exact champion_atMost hdefined' h f (List.mem_filter.2 ⟨hf, by simpa using hfkey⟩)
  · obtain ⟨earlier, later, hsplit, hless⟩ := exists_less_before_champion hdefined' h
    -- The findings with other keys are put back between those that have the key.
    obtain ⟨front, back, rfl, hfront, hback⟩ := List.filter_eq_append_iff.1 hsplit
    obtain ⟨between, rest, rfl, hbetween, -, -⟩ := List.filter_eq_cons_iff.1 hback
    refine ⟨front ++ between, rest, by rw [List.append_assoc], ?_⟩
    intro f hf hfkey
    rcases List.mem_append.1 hf with hf | hf
    · refine hless f ?_
      rw [← hfront]
      exact List.mem_filter.2 ⟨hf, by simpa using hfkey⟩
    · exact absurd (by simpa using hfkey) (hbetween f hf)

/-! ## The ranking -/

theorem ranksBefore_iff {f g : Finding} :
    f.ranksBefore g = true ↔
      g.precedence < f.precedence ∨
        g.precedence = f.precedence ∧
          (g.severity.rank < f.severity.rank ∨
            g.severity.rank = f.severity.rank ∧ g.confidence.rank ≤ f.confidence.rank) := by
  unfold ranksBefore
  split
  · rw [decide_eq_true_eq]
    omega
  · split
    · rw [decide_eq_true_eq]
      omega
    · rw [decide_eq_true_eq]
      omega

theorem ranksBefore_trans {f g h : Finding} (hfg : f.ranksBefore g = true)
    (hgh : g.ranksBefore h = true) : f.ranksBefore h = true := by
  rw [ranksBefore_iff] at hfg hgh ⊢
  omega

theorem ranksBefore_total (f g : Finding) : (f.ranksBefore g || g.ranksBefore f) = true := by
  rw [Bool.or_eq_true, ranksBefore_iff, ranksBefore_iff]
  omega

/-- What is kept is sorted. -/
theorem pairwise_ranksBefore_mergeAndRank (findings : List Finding) :
    (mergeAndRank findings).Pairwise fun f g => f.ranksBefore g = true := by
  unfold mergeAndRank
  apply List.pairwise_mergeSort
  · intro f g h hfg hgh
    exact ranksBefore_trans hfg hgh
  · intro f g
    exact ranksBefore_total f g

theorem ranksAtLeast_of_ranksBefore {f g : Finding} (hf : f.confidence.isNaN = false)
    (hg : g.confidence.isNaN = false) (h : f.ranksBefore g = true) : f.RanksAtLeast g := by
  rcases ranksBefore_iff.1 h with h | ⟨hprecedence, h | ⟨hseverity, hrank⟩⟩
  · exact Or.inl h
  · exact Or.inr ⟨hprecedence, Or.inl h⟩
  · have hatMost : g.confidence.AtMost f.confidence :=
      ⟨hg, hf, Binary64.level_le_of_rank_le hrank⟩
    exact Or.inr ⟨hprecedence, Or.inr ⟨hseverity, hatMost⟩⟩

/-! ## Merging -/

/-- Merging keeps exactly one finding for each key that occurs, the first of the most certain ones
with that key, and presents the kept ones from great rank to small. -/
theorem mergeAndRank_keeps_first_best (findings : List Finding)
    (hdefined : ∀ f ∈ findings, f.confidence.isNaN = false) :
    (∀ f ∈ findings, ∃ g, withKey f.key (mergeAndRank findings) = [g] ∧ g.IsFirstBest findings) ∧
      (∀ g ∈ mergeAndRank findings, ∃ f ∈ findings, f.key = g.key) ∧
      (mergeAndRank findings).Pairwise RanksAtLeast := by
  refine ⟨?_, ?_, ?_⟩
  · intro f hf
    have hmem : f ∈ withKey f.key findings := List.mem_filter.2 ⟨hf, by simp⟩
    obtain ⟨g, hg⟩ := champion_isSome_of_mem hmem
    refine ⟨g, ?_, isFirstBest_of_champion hdefined hg⟩
    rw [withKey_mergeAndRank, hg]
    rfl
  · intro g hg
    exact ⟨g, mem_of_mem_mergeAndRank hg, rfl⟩
  · refine (pairwise_ranksBefore_mergeAndRank findings).imp_of_mem ?_
    intro f g hf hg hbefore
    exact ranksAtLeast_of_ranksBefore (hdefined f (mem_of_mem_mergeAndRank hf))
      (hdefined g (mem_of_mem_mergeAndRank hg)) hbefore

/-- Of four findings with one key the two in the middle are equally certain, and the first of them
is kept. -/
theorem mergeAndRank_keeps_first_best_of_tie :
    let remark (confidence : Binary64) (message : String) : Finding :=
      { filePath := "a:1", lineNumber := 2, severity := .low, category := "T", message := message,
        source := .llm, confidence := confidence }
    let findings := [remark .zero "a", remark .one "b", remark .one "c", remark .zero "d"]
    (∀ f ∈ findings, f.confidence.isNaN = false) ∧
      (mergeAndRank findings).Pairwise RanksAtLeast ∧
      ∃ g, withKey "a:1:2:T" (mergeAndRank findings) = [g] ∧ g.IsFirstBest findings ∧
        g.message = "b" := by
  intro remark findings
  have hdefined : ∀ f ∈ findings, f.confidence.isNaN = false := by decide
  have hfirst : champion (withKey "a:1:2:T" findings) = some (remark .one "b") := by decide
  obtain ⟨hkept, -, hranked⟩ := mergeAndRank_keeps_first_best findings hdefined
  obtain ⟨g, hg, hbest⟩ := hkept (remark .zero "a") List.mem_cons_self
  have hkey : (remark .zero "a").key = "a:1:2:T" := by decide
  rw [hkey] at hg
  refine ⟨hdefined, hranked, g, hg, hbest, ?_⟩
  rw [withKey_mergeAndRank, hfirst] at hg
  rw [← List.singleton_inj.1 hg]

end ReviewBot.Finding
