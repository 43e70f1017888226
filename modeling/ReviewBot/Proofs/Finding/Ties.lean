import Mathlib.Data.List.Basic
import ReviewBot.Proofs.Finding.Ranking
import ReviewBot.Proofs.Order.Stability

set_option autoImplicit false

/-!
# Ties and repeated merging

A finding that is kept stands in the place of the first finding with its key, even if that one has
given way to it. The ranking moves findings past each other only if their ranks differ. So findings
of equal rank are presented in the order in which their keys first occur, which is not always the
order of the findings themselves (`mergeAndRank_breaks_ties_by_key`). What has been merged once has
no repeated keys and is ranked already, so merging it again changes nothing
(`mergeAndRank_mergeAndRank`).
-/

namespace ReviewBot.Finding

/-- The position of the first finding with a key. -/
def keyPosition (findings : List Finding) (k : String) : Nat := (findings.map key).idxOf k

/-- The two findings are equal in precedence, severity and confidence. -/
structure IsTiedWith (f g : Finding) : Prop where
  precedence_eq : f.precedence = g.precedence
  severity_eq : f.severity = g.severity
  confidence_le : f.confidence.AtMost g.confidence
  confidence_ge : g.confidence.AtMost f.confidence

/-! ## The places of the keys -/

theorem keyPosition_cons_of_ne {f : Finding} {k : String} (h : f.key ≠ k)
    (rest : List Finding) : keyPosition (f :: rest) k = keyPosition rest k + 1 :=
  List.idxOf_cons_ne _ h

theorem keyPosition_concat_of_mem {findings : List Finding} {k : String}
    (h : k ∈ findings.map key) (f : Finding) :
    keyPosition (findings ++ [f]) k = keyPosition findings k := by
  rw [keyPosition, List.map_append, List.idxOf_append_of_mem h]
  rfl

theorem keyPosition_concat_self {findings : List Finding} {f : Finding}
    (h : f.key ∉ findings.map key) :
    keyPosition (findings ++ [f]) f.key = findings.length := by
  rw [keyPosition, List.map_append, List.idxOf_append_of_notMem h, List.map_singleton,
    List.idxOf_cons_self, List.length_map, Nat.add_zero]

theorem keyPosition_lt_length {findings : List Finding} {k : String}
    (h : k ∈ findings.map key) : keyPosition findings k < findings.length := by
  rw [← List.length_map key]
  exact List.idxOf_lt_length_iff.2 h

/-- A finding does not stand before the first one with its key. -/
theorem keyPosition_le_idxOf {findings : List Finding} {f : Finding} (h : f ∈ findings) :
    keyPosition findings f.key ≤ findings.idxOf f := by
  induction findings with
  | nil => exact absurd h List.not_mem_nil
  | cons g rest ih =>
    by_cases hg : g = f
    · subst hg
      simp [keyPosition]
    · have hrest : f ∈ rest := List.mem_of_ne_of_mem (Ne.symm hg) h
      rw [List.idxOf_cons_ne rest hg]
      by_cases hkey : g.key = f.key
      · simp [keyPosition, hkey]
      · rw [keyPosition_cons_of_ne hkey]
        exact Nat.succ_le_succ (ih hrest)

/-- The first finding with a key. -/
theorem exists_idxOf_le_keyPosition {findings : List Finding} {k : String}
    (h : k ∈ findings.map key) :
    ∃ f ∈ findings, f.key = k ∧ findings.idxOf f ≤ keyPosition findings k := by
  induction findings with
  | nil => exact absurd h List.not_mem_nil
  | cons g rest ih =>
    by_cases hg : g.key = k
    · refine ⟨g, List.mem_cons_self, hg, ?_⟩
      rw [List.idxOf_cons_self]
      exact Nat.zero_le _
    · have hrest : k ∈ rest.map key := List.mem_of_ne_of_mem (Ne.symm hg) h
      obtain ⟨f, hf, hkey, hle⟩ := ih hrest
      have hne : g ≠ f := by
        rintro rfl
        exact hg hkey
      refine ⟨f, List.mem_cons_of_mem _ hf, hkey, ?_⟩
      rw [List.idxOf_cons_ne rest hne, keyPosition_cons_of_ne hg]
      exact Nat.succ_le_succ hle

/-! ## The keys of what is kept -/

/-- A finding with a new key is put at the end. -/
theorem absorb_of_not_mem {f : Finding} {kept : List Finding} (h : f.key ∉ kept.map key) :
    f.absorb kept = kept ++ [f] := by
  induction kept with
  | nil => rfl
  | cons g rest ih =>
    rw [List.map_cons, List.mem_cons, not_or] at h
    rw [absorb, if_neg (Ne.symm h.1), ih h.2]
    rfl

/-- A finding with a known key takes the place of that key or leaves it as it is. -/
theorem map_key_absorb_of_mem {f : Finding} {kept : List Finding} (h : f.key ∈ kept.map key) :
    (f.absorb kept).map key = kept.map key := by
  induction kept with
  | nil => exact absurd h List.not_mem_nil
  | cons g rest ih =>
    by_cases hg : g.key = f.key
    · rw [absorb, if_pos hg, List.map_cons, List.map_cons]
      exact congrArg (· :: rest.map key) (key_prefer hg)
    · have hrest : f.key ∈ rest.map key := List.mem_of_ne_of_mem (Ne.symm hg) h
      rw [absorb, if_neg hg, List.map_cons, List.map_cons, ih hrest]

theorem mem_map_key_distinct {findings : List Finding} {k : String} :
    k ∈ (distinct findings).map key ↔ k ∈ findings.map key := by
  induction findings using List.reverseRecOn with
  | nil => rfl
  | append_singleton findings f ih =>
    rw [distinct_concat]
    by_cases h : f.key ∈ (distinct findings).map key
    · rw [map_key_absorb_of_mem h, ih]
      simp only [List.map_append, List.map_cons, List.map_nil, List.mem_append,
        List.mem_singleton]
      constructor
      · exact Or.inl
      · rintro (hk | rfl)
        · exact hk
        · exact ih.1 h
    · rw [absorb_of_not_mem h, List.map_append, List.map_append, List.mem_append, List.mem_append,
        ih]

/-- The keys of what is kept are the keys of all findings without the later of equal ones. -/
theorem map_key_distinct (findings : List Finding) :
    (distinct findings).map key = (findings.map key).eraseDups := by
  induction findings using List.reverseRecOn with
  | nil => rfl
  | append_singleton findings f ih =>
    rw [distinct_concat, List.map_append, List.map_singleton, List.eraseDups_append, ← ih]
    by_cases h : f.key ∈ findings.map key
    · have hold : [f.key].removeAll (findings.map key) = [] := by
        simpa [List.removeAll] using h
      rw [map_key_absorb_of_mem (mem_map_key_distinct.2 h), hold, List.eraseDups_nil,
        List.append_nil]
    · have hnew : [f.key].removeAll (findings.map key) = [f.key] := by
        simpa [List.removeAll] using h
      rw [absorb_of_not_mem fun hmem => h (mem_map_key_distinct.1 hmem), hnew, List.map_append]
      rfl

/-- Before the ranking each kept finding stands where its key first occurs. -/
theorem pairwise_keyPosition_distinct (findings : List Finding) :
    (distinct findings).Pairwise fun f g =>
      keyPosition findings f.key < keyPosition findings g.key := by
  -- Only the keys count, and a finding that is absorbed changes none of those that are there.
  have hkeys : ((distinct findings).map key).Pairwise fun k l =>
      keyPosition findings k < keyPosition findings l := by
    induction findings using List.reverseRecOn with
    | nil => exact List.Pairwise.nil
    | append_singleton findings f ih =>
      have hbefore : ((distinct findings).map key).Pairwise fun k l =>
          keyPosition (findings ++ [f]) k < keyPosition (findings ++ [f]) l := by
        refine ih.imp_of_mem ?_
        intro k l hk hl hlt
        rwa [keyPosition_concat_of_mem (mem_map_key_distinct.1 hk),
          keyPosition_concat_of_mem (mem_map_key_distinct.1 hl)]
      rw [distinct_concat]
      by_cases h : f.key ∈ (distinct findings).map key
      · rwa [map_key_absorb_of_mem h]
      · rw [absorb_of_not_mem h, List.map_append, List.pairwise_append]
        refine ⟨hbefore, List.pairwise_singleton _ _, ?_⟩
        intro k hk l hl
        have hl' : l = f.key := List.mem_singleton.1 hl
        subst hl'
        have hknown : k ∈ findings.map key := mem_map_key_distinct.1 hk
        rw [keyPosition_concat_of_mem hknown,
          keyPosition_concat_self fun hmem => h (mem_map_key_distinct.2 hmem)]
        exact keyPosition_lt_length hknown
  rwa [List.pairwise_map] at hkeys

theorem nodup_map_key_distinct (findings : List Finding) :
    ((distinct findings).map key).Nodup := by
  rw [List.Nodup, List.pairwise_map]
  refine (pairwise_keyPosition_distinct findings).imp ?_
  intro f g hlt e
  rw [e] at hlt
  exact Nat.lt_irrefl _ hlt

/-! ## Ties -/

/-- Where the ranking sees no difference, the keys are in order of their first occurrence. -/
theorem pairwise_keyPosition_mergeAndRank (findings : List Finding) :
    (mergeAndRank findings).Pairwise fun f g =>
      g.ranksBefore f = true → keyPosition findings f.key < keyPosition findings g.key := by
  unfold mergeAndRank
  apply pairwise_mergeSort_of_tied
  · intro f g h hfg hgh
    exact ranksBefore_trans hfg hgh
  · intro f g
    exact ranksBefore_total f g
  · exact pairwise_keyPosition_distinct findings

/-- A kept finding stands before all that come after its key, unless it has replaced a less certain
finding there. -/
theorem idxOf_lt_or_exists_replaced {findings : List Finding} {f g : Finding}
    (hdefined : ∀ f ∈ findings, f.confidence.isNaN = false) (hf : f ∈ mergeAndRank findings)
    (hg : g ∈ findings) (h : keyPosition findings f.key < keyPosition findings g.key) :
    findings.idxOf f < findings.idxOf g ∨
      ∃ old ∈ findings, old.key = f.key ∧ old.confidence.less f.confidence = true ∧
        findings.idxOf old < findings.idxOf g := by
  have hmem : f.key ∈ findings.map key := List.mem_map_of_mem (mem_of_mem_mergeAndRank hf)
  obtain ⟨first, hfirst, hkey, hle⟩ := exists_idxOf_le_keyPosition hmem
  have hbefore : findings.idxOf first < findings.idxOf g :=
    Nat.lt_of_le_of_lt hle (Nat.lt_of_lt_of_le h (keyPosition_le_idxOf hg))
  obtain ⟨earlier, later, hsplit, hless⟩ :=
    (isFirstBest_of_champion hdefined (mem_mergeAndRank_iff.1 hf)).less_before
  by_cases hearlier : first ∈ earlier
  · exact Or.inr ⟨first, hfirst, hkey, hless first hearlier hkey, hbefore⟩
  · -- Then the first finding with the key is not before `f`.
    have hself : f ∉ earlier := by
      intro hmem
      have hloop := hless f hmem rfl
      rw [Binary64.not_less_self] at hloop
      exact Bool.noConfusion hloop
    have hle' : findings.idxOf f ≤ findings.idxOf first := by
      rw [hsplit, List.idxOf_append_of_notMem hself, List.idxOf_append_of_notMem hearlier,
        List.idxOf_cons_self]
      exact Nat.add_le_add_left (Nat.zero_le _) _
    exact Or.inl (Nat.lt_of_le_of_lt hle' hbefore)

/-- Two findings of equal rank are presented in the order in which their keys first occur; only
positive zero goes before negative zero. So they are presented in their own order, unless the first
one has replaced a less certain finding that stands before the second one. -/
theorem mergeAndRank_breaks_ties_by_key (findings : List Finding)
    (hdefined : ∀ f ∈ findings, f.confidence.isNaN = false) :
    (mergeAndRank findings).Pairwise fun f g => f.IsTiedWith g →
      f.confidence = .zero ∧ g.confidence = .negativeZero ∨
        f.confidence = g.confidence ∧
          keyPosition findings f.key < keyPosition findings g.key ∧
          (findings.idxOf f < findings.idxOf g ∨
            ∃ old ∈ findings, old.key = f.key ∧ old.confidence.less f.confidence = true ∧
              findings.idxOf old < findings.idxOf g) := by
  have hboth := (pairwise_ranksBefore_mergeAndRank findings).and
    (pairwise_keyPosition_mergeAndRank findings)
  refine hboth.imp_of_mem ?_
  intro f g hf hg ⟨hfg, hkeys⟩ htied
  have hlevel : f.confidence.level = g.confidence.level :=
    Int.le_antisymm htied.confidence_le.level_le htied.confidence_ge.level_le
  have hrank : g.confidence.rank ≤ f.confidence.rank := by
    have hprecedence := htied.precedence_eq
    have hseverity : f.severity.rank = g.severity.rank := by rw [htied.severity_eq]
    rw [ranksBefore_iff] at hfg
    omega
  rcases Binary64.eq_or_zeros_of_level_eq hlevel hrank with heq | hzeros
  · have hgf : g.ranksBefore f = true :=
      ranksBefore_iff.2 (Or.inr ⟨htied.precedence_eq,
        Or.inr ⟨by rw [htied.severity_eq], Int.le_of_eq (by rw [heq])⟩⟩)
    have hlt := hkeys hgf
    exact Or.inr ⟨heq, hlt,
      idxOf_lt_or_exists_replaced hdefined hf (mem_of_mem_mergeAndRank hg) hlt⟩
  · exact Or.inl hzeros

/-- A finding that has replaced a less certain one is presented before the finding between them. -/
theorem mergeAndRank_breaks_ties_by_key_of_replaced :
    let remark (path : String) (confidence : Binary64) : Finding :=
      { filePath := path, lineNumber := 1, severity := .low, category := "T", message := "m",
        source := .llm, confidence := confidence }
    let findings := [remark "a" .zero, remark "b" .one, remark "a" .one, remark "c" .one]
    (∀ f ∈ findings, f.confidence.isNaN = false) ∧
      mergeAndRank findings = [remark "a" .one, remark "b" .one, remark "c" .one] ∧
      ∃ old ∈ findings, old.key = (remark "a" .one).key ∧
        findings.idxOf old < findings.idxOf (remark "b" .one) := by
  intro remark findings
  have hdefined : ∀ f ∈ findings, f.confidence.isNaN = false := by decide
  have hdistinct : distinct findings = [remark "a" .one, remark "b" .one, remark "c" .one] := by
    decide
  have hmerged : mergeAndRank findings = [remark "a" .one, remark "b" .one, remark "c" .one] := by
    rw [mergeAndRank, hdistinct]
    exact List.mergeSort_of_pairwise (by decide)
  have hties := mergeAndRank_breaks_ties_by_key findings hdefined
  rw [hmerged] at hties
  have htied : (remark "a" .one).IsTiedWith (remark "b" .one) :=
    ⟨rfl, rfl, Binary64.AtMost.refl (by decide), Binary64.AtMost.refl (by decide)⟩
  refine ⟨hdefined, hmerged, ?_⟩
  rcases (List.pairwise_cons.1 hties).1 (remark "b" .one) List.mem_cons_self htied with
    hzeros | ⟨-, -, hbefore | ⟨old, hold, hkey, -, hlt⟩⟩
  · exact absurd hzeros.1 (by decide)
  · exact absurd hbefore (by decide)
  · exact ⟨old, hold, hkey, hlt⟩

/-- Of two equally certain findings the later one is presented first, because it has replaced a
finding that stands before the earlier one. -/
theorem later_finding_presented_first :
    let remark (id path : String) (confidence : Binary64) : Finding :=
      { id := id, filePath := path, lineNumber := 1, severity := .low, category := "X",
        message := id, source := .heuristic, confidence := confidence, precedence := 100 }
    let half : Binary64 := ⟨0x3FE0000000000000⟩ -- 0.5
    let high : Binary64 := ⟨0x3FECCCCCCCCCCCCD⟩ -- 0.9
    let findings := [remark "1" "a.rs" half, remark "2" "b.rs" high, remark "3" "a.rs" high]
    (∀ f ∈ findings, f.confidence.isNaN = false) ∧
      ¬ (mergeAndRank findings).Pairwise fun f g =>
        f.IsTiedWith g → findings.idxOf f < findings.idxOf g := by
  intro remark half high findings
  have hdistinct : distinct findings = [remark "3" "a.rs" high, remark "2" "b.rs" high] := by
    decide
  have hmerged : mergeAndRank findings = [remark "3" "a.rs" high, remark "2" "b.rs" high] := by
    rw [mergeAndRank, hdistinct]
    exact List.mergeSort_of_pairwise (by decide)
  have htied : (remark "3" "a.rs" high).IsTiedWith (remark "2" "b.rs" high) :=
    ⟨rfl, rfl, Binary64.AtMost.refl (by decide), Binary64.AtMost.refl (by decide)⟩
  refine ⟨by decide, ?_⟩
  intro horder
  rw [hmerged] at horder
  have hlt := (List.pairwise_cons.1 horder).1 (remark "2" "b.rs" high) List.mem_cons_self htied
  exact absurd hlt (by decide)

/-! ## Merging again -/

/-- Without repeated keys nothing is dropped. -/
theorem distinct_eq_self {findings : List Finding} (h : (findings.map key).Nodup) :
    distinct findings = findings := by
  induction findings using List.reverseRecOn with
  | nil => rfl
  | append_singleton findings f ih =>
    rw [List.map_append, List.nodup_append] at h
    obtain ⟨hnodup, -, hdisjoint⟩ := h
    have hnew : f.key ∉ findings.map key := by
      intro hmem
      exact hdisjoint f.key hmem f.key (List.mem_singleton_self _) rfl
    rw [distinct_concat, ih hnodup, absorb_of_not_mem hnew]

/-- Merging what has been merged changes nothing. -/
theorem mergeAndRank_mergeAndRank (findings : List Finding) :
    mergeAndRank (mergeAndRank findings) = mergeAndRank findings := by
  have hnodup : ((mergeAndRank findings).map key).Nodup :=
    ((mergeAndRank_perm findings).map key).nodup_iff.2 (nodup_map_key_distinct findings)
  calc mergeAndRank (mergeAndRank findings)
      = (distinct (mergeAndRank findings)).mergeSort ranksBefore := rfl
    _ = (mergeAndRank findings).mergeSort ranksBefore := by rw [distinct_eq_self hnodup]
    _ = mergeAndRank findings :=
        List.mergeSort_of_pairwise (pairwise_ranksBefore_mergeAndRank findings)

end ReviewBot.Finding
