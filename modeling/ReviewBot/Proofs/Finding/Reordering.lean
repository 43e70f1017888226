import ReviewBot.Proofs.Finding.Ranking

set_option autoImplicit false

/-!
# Merging reordered findings

Merging treats each key for itself. So it keeps the same findings of two lists that agree on the
findings with each key, in whatever way these are mixed (`mergeAndRank_perm_of_withKey`), and it
then presents findings of the same standing at each position (`map_standing_mergeAndRank`).
-/

namespace ReviewBot

/-- What the members of a list yield does not depend on their order if any two of them may change
places. -/
theorem flatMap_eq_of_perm {α β : Type} {f : α → List β} {l l' : List α} (h : l.Perm l')
    (hcomm : ∀ x ∈ l, ∀ y ∈ l, f x ++ f y = f y ++ f x) : l.flatMap f = l'.flatMap f := by
  rw [List.flatMap_eq_foldl, List.flatMap_eq_foldl]
  refine h.foldl_eq' ?_ []
  intro x hx y hy z
  rw [List.append_assoc, List.append_assoc, hcomm x hx y hy]

theorem Severity.eq_of_rank_eq {s t : Severity} (h : s.rank = t.rank) : s = t := by
  cases s <;> cases t <;> first | rfl | exact absurd h (by decide)

namespace Finding

/-- What decides the place of a finding in the ranking: precedence, severity and confidence. -/
def standing (f : Finding) : Nat × Severity × Binary64 := (f.precedence, f.severity, f.confidence)

/-- The order of the ranking on what decides it. -/
def StandsBefore (a b : Nat × Severity × Binary64) : Prop :=
  b.1 < a.1 ∨ b.1 = a.1 ∧
    (b.2.1.rank < a.2.1.rank ∨ b.2.1.rank = a.2.1.rank ∧ b.2.2.rank ≤ a.2.2.rank)

theorem standsBefore_of_ranksBefore {f g : Finding} (h : f.ranksBefore g = true) :
    StandsBefore f.standing g.standing :=
  ranksBefore_iff.1 h

theorem eq_of_standsBefore {a b : Nat × Severity × Binary64} (hab : StandsBefore a b)
    (hba : StandsBefore b a) : a = b := by
  unfold StandsBefore at hab hba
  have hprecedence : a.1 = b.1 := by omega
  have hseverity : a.2.1.rank = b.2.1.rank := by omega
  have hconfidence : a.2.2.rank = b.2.2.rank := by omega
  exact Prod.ext hprecedence
    (Prod.ext (Severity.eq_of_rank_eq hseverity) (Binary64.eq_of_rank_eq hconfidence))

/-- Where the same findings are kept, findings of the same standing are at each position. -/
theorem map_standing_mergeAndRank {xs ys : List Finding}
    (h : (mergeAndRank xs).Perm (mergeAndRank ys)) :
    (mergeAndRank xs).map standing = (mergeAndRank ys).map standing := by
  have hsorted : ∀ zs, ((mergeAndRank zs).map standing).Pairwise StandsBefore := by
    intro zs
    rw [List.pairwise_map]
    exact (pairwise_ranksBefore_mergeAndRank zs).imp standsBefore_of_ranksBefore
  exact List.Perm.eq_of_pairwise (fun _ _ _ _ => eq_of_standsBefore) (hsorted xs) (hsorted ys)
    (h.map standing)

/-- The findings that are kept depend only on the findings with each key. -/
theorem mergeAndRank_perm_of_withKey {xs ys : List Finding}
    (h : ∀ k, withKey k xs = withKey k ys) : (mergeAndRank xs).Perm (mergeAndRank ys) := by
  rw [List.perm_iff_count]
  intro f
  have hcount : ∀ zs : List Finding, (mergeAndRank zs).count f =
      (champion (withKey f.key zs)).toList.count f := by
    intro zs
    rw [← withKey_mergeAndRank, withKey, List.count_filter (by simp)]
  rw [hcount, hcount, h]

end Finding

end ReviewBot
