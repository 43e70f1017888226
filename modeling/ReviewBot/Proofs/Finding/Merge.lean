import Mathlib.Data.List.Induction
import ReviewBot.Merge
import ReviewBot.Proofs.Numeric.Binary64

set_option autoImplicit false

/-!
# What merging keeps

Of the findings with one key exactly one is kept: the champion of these findings, which is found by
going through them in order and changing over only to a greater confidence
(`withKey_mergeAndRank`). Findings with other keys have no influence on it.
-/

namespace ReviewBot.Finding

/-- The finding that is kept when `g` comes after `f`. -/
def prefer (f g : Finding) : Finding := if f.confidence.less g.confidence then g else f

/-- The finding that is kept of findings with the same key. -/
def champion : List Finding → Option Finding
  | [] => none
  | f :: rest => some (rest.foldl prefer f)

/-- The findings with a key, in order. -/
def withKey (k : String) (findings : List Finding) : List Finding :=
  findings.filter (·.key = k)

theorem prefer_eq_or (f g : Finding) : prefer f g = f ∨ prefer f g = g := by
  unfold prefer
  split
  · exact Or.inr rfl
  · exact Or.inl rfl

theorem key_prefer {f g : Finding} (h : f.key = g.key) : (prefer f g).key = f.key := by
  rcases prefer_eq_or f g with e | e
  · rw [e]
  · rw [e, h]

/-! ## The champion -/

theorem champion_concat (findings : List Finding) (f : Finding) :
    champion (findings ++ [f]) =
      some (match champion findings with
        | none => f
        | some g => prefer g f) := by
  cases findings with
  | nil => rfl
  | cons g rest => simp [champion, List.foldl_append]

theorem foldl_prefer_mem (findings : List Finding) (f : Finding) :
    findings.foldl prefer f ∈ f :: findings := by
  induction findings generalizing f with
  | nil => exact List.mem_cons_self
  | cons g rest ih =>
    have h := ih (prefer f g)
    rw [List.foldl_cons]
    rcases List.mem_cons.1 h with e | hrest
    · rw [e]
      rcases prefer_eq_or f g with e' | e' <;> simp [e']
    · exact List.mem_cons_of_mem _ (List.mem_cons_of_mem _ hrest)

theorem champion_mem {findings : List Finding} {g : Finding} (h : champion findings = some g) :
    g ∈ findings := by
  cases findings with
  | nil => simp [champion] at h
  | cons f rest =>
    rw [champion, Option.some.injEq] at h
    exact h ▸ foldl_prefer_mem rest f

theorem champion_isSome_of_mem {findings : List Finding} {f : Finding} (h : f ∈ findings) :
    ∃ g, champion findings = some g := by
  cases findings with
  | nil => exact absurd h List.not_mem_nil
  | cons f' rest => exact ⟨_, rfl⟩

theorem foldl_prefer_atMost {findings : List Finding} {f : Finding}
    (hdefined : ∀ g ∈ f :: findings, g.confidence.isNaN = false) :
    ∀ g ∈ f :: findings, g.confidence.AtMost (findings.foldl prefer f).confidence := by
  induction findings generalizing f with
  | nil =>
    intro g hg
    have e : g = f := by simpa using hg
    subst e
    exact Binary64.AtMost.refl (hdefined g hg)
  | cons f' rest ih =>
    have hf : f.confidence.isNaN = false := hdefined f List.mem_cons_self
    have hf' : f'.confidence.isNaN = false :=
      hdefined f' (List.mem_cons_of_mem _ List.mem_cons_self)
    -- Each of the two is at most as certain as the preferred one, from which the fold goes on.
    have hboth : f.confidence.AtMost (prefer f f').confidence ∧
        f'.confidence.AtMost (prefer f f').confidence := by
      unfold prefer
      split
      · rename_i h
        exact ⟨Binary64.atMost_of_less h, Binary64.AtMost.refl hf'⟩
      · rename_i h
        exact ⟨Binary64.AtMost.refl hf,
          Binary64.atMost_of_not_less hf hf' (Bool.eq_false_iff.2 h)⟩
    have hlater := ih (f := prefer f f') (by
      intro g hg
      rcases List.mem_cons.1 hg with rfl | hg
      · exact hboth.1.defined_right
      · exact hdefined g (List.mem_cons_of_mem _ (List.mem_cons_of_mem _ hg)))
    have hbest := hlater (prefer f f') List.mem_cons_self
    intro g hg
    rw [List.foldl_cons]
    rcases List.mem_cons.1 hg with rfl | hg
    · exact hboth.1.trans hbest
    · rcases List.mem_cons.1 hg with rfl | hg
      · exact hboth.2.trans hbest
      · exact hlater g (List.mem_cons_of_mem _ hg)

/-- No finding is more certain than the champion. -/
theorem champion_atMost {findings : List Finding} {g : Finding}
    (hdefined : ∀ f ∈ findings, f.confidence.isNaN = false)
    (h : champion findings = some g) : ∀ f ∈ findings, f.confidence.AtMost g.confidence := by
  cases findings with
  | nil => simp [champion] at h
  | cons f rest =>
    rw [champion, Option.some.injEq] at h
    subst h
    exact foldl_prefer_atMost hdefined

/-- All findings before the champion are less certain. -/
theorem exists_less_before_champion {findings : List Finding} {g : Finding}
    (hdefined : ∀ f ∈ findings, f.confidence.isNaN = false)
    (h : champion findings = some g) :
    ∃ earlier later, findings = earlier ++ g :: later ∧
      ∀ f ∈ earlier, f.confidence.less g.confidence = true := by
  -- From the end, since the last finding is the last one to challenge the champion.
  induction findings using List.reverseRecOn generalizing g with
  | nil => simp [champion] at h
  | append_singleton findings f ih =>
    have hbefore : ∀ f ∈ findings, f.confidence.isNaN = false :=
      fun f' hf' => hdefined f' (List.mem_append_left _ hf')
    rw [champion_concat, Option.some.injEq] at h
    cases hc : champion findings with
    | none =>
      rw [hc] at h
      have hnil : findings = [] := by
        cases findings with
        | nil => rfl
        | cons f' rest => simp [champion] at hc
      subst hnil h
      exact ⟨[], [], rfl, fun f' hf' => absurd hf' List.not_mem_nil⟩
    | some g' =>
      rw [hc] at h
      by_cases hless : g'.confidence.less f.confidence = true
      · have hg : f = g := by
          rw [← h]
          simp [prefer, hless]
        subst hg
        refine ⟨findings, [], rfl, ?_⟩
        intro f' hf'
        exact (champion_atMost hbefore hc f' hf').less_of_less hless
      · have hg : g' = g := by
          rw [← h]
          simp [prefer, hless]
        subst hg
        obtain ⟨earlier, later, hsplit, hearlier⟩ := ih hbefore hc
        exact ⟨earlier, later ++ [f], by rw [hsplit, List.append_assoc, List.cons_append],
          hearlier⟩

/-- Of equally certain findings the first is the champion. -/
theorem champion_of_same_confidence {c : Binary64} {findings : List Finding}
    (h : ∀ f ∈ findings, f.confidence = c) : champion findings = findings.head? := by
  cases findings with
  | nil => rfl
  | cons f rest =>
    have hf : f.confidence = c := h f List.mem_cons_self
    have hrest : ∀ g ∈ rest, g.confidence = c := fun g hg => h g (List.mem_cons_of_mem _ hg)
    have hfold : rest.foldl prefer f = f := by
      clear h
      induction rest with
      | nil => rfl
      | cons g rest ih =>
        have hg : g.confidence = c := hrest g List.mem_cons_self
        have hkeep : prefer f g = f := by
          rw [prefer, hf, hg, Binary64.not_less_self]
          rfl
        rw [List.foldl_cons, hkeep]
        exact ih fun g' hg' => hrest g' (List.mem_cons_of_mem _ hg')
    rw [champion, hfold]
    rfl

/-! ## Absorbing one finding after the other -/

theorem withKey_absorb_of_ne {f : Finding} {k : String} (h : f.key ≠ k) (kept : List Finding) :
    withKey k (f.absorb kept) = withKey k kept := by
  induction kept with
  | nil => simp [absorb, withKey, h]
  | cons g rest ih =>
    by_cases hg : g.key = f.key
    · have hk : g.key ≠ k := fun e => h (hg ▸ e)
      -- Whether the head gives way or stays, its key is not `k`.
      have hp : (if g.confidence.less f.confidence then f else g).key ≠ k := by
        split
        · exact h
        · exact hk
      rw [absorb, if_pos hg]
      unfold withKey
      rw [List.filter_cons_of_neg (by simpa using hp), List.filter_cons_of_neg (by simpa using hk)]
    · rw [absorb, if_neg hg]
      unfold withKey at ih ⊢
      rw [List.filter_cons, List.filter_cons, ih]

theorem withKey_absorb_of_nil {f : Finding} {kept : List Finding}
    (h : withKey f.key kept = []) : withKey f.key (f.absorb kept) = [f] := by
  induction kept with
  | nil => simp [absorb, withKey]
  | cons g rest ih =>
    by_cases hg : g.key = f.key
    · simp [withKey, hg] at h
    · have hrest : withKey f.key rest = [] := by simpa [withKey, hg] using h
      rw [absorb, if_neg hg]
      have hlater := ih hrest
      unfold withKey at hlater ⊢
      rw [List.filter_cons_of_neg (by simpa using hg), hlater]

theorem withKey_absorb_of_singleton {f g : Finding} {kept : List Finding}
    (h : withKey f.key kept = [g]) : withKey f.key (f.absorb kept) = [prefer g f] := by
  induction kept with
  | nil => simp [withKey] at h
  | cons g' rest ih =>
    by_cases hg : g'.key = f.key
    · have hrest : g' = g ∧ withKey f.key rest = [] := by simpa [withKey, hg] using h
      obtain ⟨rfl, hnil⟩ := hrest
      have hkey : (prefer g' f).key = f.key := (key_prefer hg).trans hg
      rw [absorb, if_pos hg]
      unfold withKey at hnil ⊢
      show (prefer g' f :: rest).filter (·.key = f.key) = [prefer g' f]
      rw [List.filter_cons_of_pos (by simpa using hkey), hnil]
    · have hrest : withKey f.key rest = [g] := by simpa [withKey, hg] using h
      rw [absorb, if_neg hg]
      have hlater := ih hrest
      unfold withKey at hlater ⊢
      rw [List.filter_cons_of_neg (by simpa using hg), hlater]

theorem distinct_concat (findings : List Finding) (f : Finding) :
    distinct (findings ++ [f]) = f.absorb (distinct findings) := by
  simp [distinct]

theorem withKey_concat (k : String) (findings : List Finding) (f : Finding) :
    withKey k (findings ++ [f]) =
      if f.key = k then withKey k findings ++ [f] else withKey k findings := by
  by_cases h : f.key = k <;> simp [withKey, h]

/-- For every key, what is kept is the champion of the findings with that key. -/
theorem withKey_distinct (k : String) (findings : List Finding) :
    withKey k (distinct findings) = (champion (withKey k findings)).toList := by
  -- From the end, since the last finding is absorbed last.
  induction findings using List.reverseRecOn with
  | nil => rfl
  | append_singleton findings f ih =>
    rw [distinct_concat, withKey_concat]
    by_cases h : f.key = k
    · subst h
      rw [if_pos rfl, champion_concat]
      cases hc : champion (withKey f.key findings) with
      | none =>
        rw [hc] at ih
        exact withKey_absorb_of_nil ih
      | some g =>
        rw [hc] at ih
        exact withKey_absorb_of_singleton ih
    · rw [if_neg h, withKey_absorb_of_ne h, ih]

theorem mergeAndRank_perm (findings : List Finding) :
    (mergeAndRank findings).Perm (distinct findings) :=
  List.mergeSort_perm _ _

/-- Of the findings with one key, merging keeps exactly the champion. -/
theorem withKey_mergeAndRank (k : String) (findings : List Finding) :
    withKey k (mergeAndRank findings) = (champion (withKey k findings)).toList := by
  have hperm : (withKey k (mergeAndRank findings)).Perm (withKey k (distinct findings)) :=
    (mergeAndRank_perm findings).filter _
  rw [withKey_distinct] at hperm
  -- At most one finding has the key, and such a list cannot be reordered.
  cases hc : champion (withKey k findings) with
  | none =>
    rw [hc] at hperm
    exact hperm.eq_nil
  | some g =>
    rw [hc] at hperm
    exact List.perm_singleton.1 hperm

/-- A finding is kept if it is the champion of its key. -/
theorem mem_mergeAndRank_iff {findings : List Finding} {g : Finding} :
    g ∈ mergeAndRank findings ↔ champion (withKey g.key findings) = some g := by
  have hmem : g ∈ withKey g.key (mergeAndRank findings) ↔ g ∈ mergeAndRank findings := by
    simp [withKey]
  rw [← hmem, withKey_mergeAndRank, Option.mem_toList]

theorem mem_of_mem_mergeAndRank {findings : List Finding} {g : Finding}
    (h : g ∈ mergeAndRank findings) : g ∈ findings :=
  (List.mem_filter.1 (champion_mem (mem_mergeAndRank_iff.1 h))).1

end ReviewBot.Finding
