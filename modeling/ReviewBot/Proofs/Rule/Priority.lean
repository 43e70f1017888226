import Mathlib.Data.List.Basic
import ReviewBot.Proofs.Order.Stability
import ReviewBot.Rule.Basic

set_option autoImplicit false

/-!
# Rules in order of priority

A rule set runs its rules by falling priority, those of equal priority in the order in which they
are registered (`rules_ofList`). In a chunk it finds what those of the rules find that do not fail
there (`inspect_ofList`). So a rule that fails on every chunk may as well not be registered
(`review_ofList_filter`), and the priorities decide about nothing but the order of the findings in a
chunk (`inspect_ofList_perm`).
-/

namespace ReviewBot

/-- The findings of an outcome, unless it is a failure. -/
def RuleOutcome.found? : RuleOutcome → Option (List Finding)
  | found findings => some findings
  | failed _ => none
  | crashed => none

namespace Rule

/-- The rules of priority `p` or less by falling priority, rules of equal priority in order. -/
def downFrom (rules : List Rule) : Nat → List Rule
  | 0 => rules.filter (·.priority = 0)
  | p + 1 => rules.filter (·.priority = p + 1) ++ downFrom rules p

/-- The greatest priority of the rules. -/
def greatestPriority (rules : List Rule) : Nat := (rules.map (·.priority)).foldr max 0

/-- All rules by falling priority, rules of equal priority in order. -/
def byPriority (rules : List Rule) : List Rule := downFrom rules (greatestPriority rules)

/-- What the rules find in a chunk one after the other; those that fail there are passed over. -/
def foundBy (rules : List Rule) (chunk : Chunk) : List Finding :=
  (rules.filterMap fun rule => (rule.inspect chunk).found?).flatten

/-! ## The order of the rules -/

theorem priority_le_greatestPriority {rules : List Rule} {rule : Rule} (h : rule ∈ rules) :
    rule.priority ≤ greatestPriority rules := by
  induction rules with
  | nil => exact absurd h List.not_mem_nil
  | cons first rest ih =>
    rcases List.mem_cons.1 h with rfl | h
    · exact Nat.le_max_left _ _
    · exact Nat.le_trans (ih h) (Nat.le_max_right _ _)

theorem mem_of_mem_downFrom {rules : List Rule} {p : Nat} {rule : Rule}
    (h : rule ∈ downFrom rules p) : rule ∈ rules := by
  induction p with
  | zero => exact (List.mem_filter.1 h).1
  | succ p ih =>
    rcases List.mem_append.1 h with h | h
    · exact (List.mem_filter.1 h).1
    · exact ih h

theorem filter_priority_eq_nil {rules : List Rule} {p : Nat}
    (h : ∀ rule ∈ rules, rule.priority < p) : rules.filter (·.priority = p) = [] := by
  rw [List.filter_eq_nil_iff]
  intro rule hrule heq
  exact Nat.ne_of_lt (h rule hrule) (of_decide_eq_true heq)

theorem filter_priority_cons_of_ne {first : Rule} {p : Nat} (h : first.priority ≠ p)
    (rest : List Rule) :
    (first :: rest).filter (·.priority = p) = rest.filter (·.priority = p) :=
  List.filter_cons_of_neg (by simpa using h)

theorem downFrom_cons_of_lt {first : Rule} {p : Nat} (h : p < first.priority) (rest : List Rule) :
    downFrom (first :: rest) p = downFrom rest p := by
  induction p with
  | zero => exact filter_priority_cons_of_ne (Nat.ne_of_gt h) rest
  | succ p ih =>
    rw [downFrom, downFrom, filter_priority_cons_of_ne (Nat.ne_of_gt h),
      ih (Nat.lt_of_succ_lt h)]

/-- A rule than which none is greater goes first. -/
theorem downFrom_cons_of_greatest {first : Rule} {rest : List Rule} {p : Nat}
    (hfirst : first.priority ≤ p) (hrest : ∀ rule ∈ rest, rule.priority ≤ first.priority) :
    downFrom (first :: rest) p = first :: downFrom rest p := by
  induction p with
  | zero => exact List.filter_cons_of_pos (by simpa using hfirst)
  | succ p ih =>
    by_cases h : first.priority = p + 1
    · rw [downFrom, downFrom, List.filter_cons_of_pos (by simpa using h),
        downFrom_cons_of_lt (by omega), List.cons_append]
    · have hlt : first.priority < p + 1 := Nat.lt_of_le_of_ne hfirst h
      have hlater : ∀ rule ∈ rest, rule.priority < p + 1 :=
        fun rule hrule => Nat.lt_of_le_of_lt (hrest rule hrule) hlt
      rw [downFrom, downFrom, filter_priority_eq_nil hlater,
        filter_priority_eq_nil (List.forall_mem_cons.2 ⟨hlt, hlater⟩), List.nil_append,
        List.nil_append, ih (Nat.le_of_lt_succ hlt)]

/-- Rules of falling priority are in order already. -/
theorem downFrom_eq_self {rules : List Rule} {p : Nat}
    (hfalling : rules.Pairwise fun a b => b.priority ≤ a.priority)
    (hle : ∀ rule ∈ rules, rule.priority ≤ p) : downFrom rules p = rules := by
  induction rules with
  | nil =>
    clear hle
    induction p with
    | zero => rfl
    | succ p ih => exact ih
  | cons first rest ih =>
    obtain ⟨hfirst, hrest⟩ := List.pairwise_cons.1 hfalling
    rw [downFrom_cons_of_greatest (hle first List.mem_cons_self) hfirst,
      ih hrest fun rule hrule => hle rule (List.mem_cons_of_mem _ hrule)]

/-- Only the order inside the priorities counts. -/
theorem downFrom_congr {rules rules' : List Rule}
    (h : ∀ p, rules.filter (·.priority = p) = rules'.filter (·.priority = p)) (p : Nat) :
    downFrom rules p = downFrom rules' p := by
  induction p with
  | zero => exact h 0
  | succ p ih => rw [downFrom, downFrom, h, ih]

theorem downFrom_filter (keep : Rule → Bool) (rules : List Rule) (p : Nat) :
    downFrom (rules.filter keep) p = (downFrom rules p).filter keep := by
  have hfilter : ∀ q, (rules.filter keep).filter (·.priority = q) =
      (rules.filter (·.priority = q)).filter keep := by
    intro q
    rw [List.filter_filter, List.filter_filter]
    exact congrArg (rules.filter ·) (funext fun rule => Bool.and_comm _ _)
  induction p with
  | zero => exact hfilter 0
  | succ p ih => rw [downFrom, downFrom, List.filter_append, hfilter, ih]

/-! ## What rules find -/

theorem foundBy_eq_flatMap (rules : List Rule) (chunk : Chunk) :
    foundBy rules chunk = rules.flatMap fun rule => (rule.inspect chunk).findings := by
  induction rules with
  | nil => rfl
  | cons rule rest ih =>
    rw [List.flatMap_cons, ← ih]
    unfold foundBy
    rw [List.filterMap_cons]
    cases rule.inspect chunk with
    | found findings => exact List.flatten_cons
    | failed e => rfl
    | crashed => rfl

/-- Rules that fail in the chunk make no difference there. -/
theorem foundBy_filter {rules : List Rule} {keep : Rule → Bool} {chunk : Chunk}
    (h : ∀ rule ∈ rules, keep rule = false → (rule.inspect chunk).found? = none) :
    foundBy (rules.filter keep) chunk = foundBy rules chunk := by
  unfold foundBy
  rw [List.filterMap_filter]
  refine congrArg List.flatten (List.filterMap_congr ?_)
  intro rule hrule
  cases hkeep : keep rule with
  | true => rfl
  | false => exact (h rule hrule hkeep).symm

end Rule

namespace RuleSet

/-! ## Rule sets -/

theorem priority_trans (a b c : Rule) (hab : decide (b.priority ≤ a.priority) = true)
    (hbc : decide (c.priority ≤ b.priority) = true) : decide (c.priority ≤ a.priority) = true := by
  rw [decide_eq_true_eq] at hab hbc ⊢
  exact Nat.le_trans hbc hab

theorem priority_total (a b : Rule) :
    (decide (b.priority ≤ a.priority) || decide (a.priority ≤ b.priority)) = true := by
  rw [Bool.or_eq_true, decide_eq_true_eq, decide_eq_true_eq]
  exact Nat.le_total _ _

theorem filter_rules_ofList (rules : List Rule) (p : Nat) :
    (ofList rules).rules.filter (·.priority = p) = rules.filter (·.priority = p) := by
  refine filter_mergeSort priority_trans priority_total ?_ rules
  intro a b ha hb
  rw [decide_eq_true_eq] at ha hb ⊢
  exact Nat.le_of_eq (hb.trans ha.symm)

theorem pairwise_priority_ofList (rules : List Rule) :
    (ofList rules).rules.Pairwise fun a b => b.priority ≤ a.priority :=
  (List.pairwise_mergeSort priority_trans priority_total rules).imp of_decide_eq_true

theorem rules_ofList_perm (rules : List Rule) : (ofList rules).rules.Perm rules :=
  List.mergeSort_perm _ _

/-- A rule set runs its rules by falling priority, those of equal priority in order. -/
theorem rules_ofList {rules : List Rule} {p : Nat} (h : ∀ rule ∈ rules, rule.priority ≤ p) :
    (ofList rules).rules = Rule.downFrom rules p := by
  have hle : ∀ rule ∈ (ofList rules).rules, rule.priority ≤ p :=
    fun rule hrule => h rule ((rules_ofList_perm rules).mem_iff.1 hrule)
  calc (ofList rules).rules
      = Rule.downFrom (ofList rules).rules p :=
        (Rule.downFrom_eq_self (pairwise_priority_ofList rules) hle).symm
    _ = Rule.downFrom rules p := Rule.downFrom_congr (filter_rules_ofList rules) p

theorem inspect_eq_foundBy (s : RuleSet) (chunk : Chunk) :
    s.inspect chunk = Rule.foundBy s.rules chunk :=
  (Rule.foundBy_eq_flatMap s.rules chunk).symm

/-- What a rule set finds in a chunk. -/
theorem inspect_ofList (rules : List Rule) (chunk : Chunk) :
    (ofList rules).inspect chunk = Rule.foundBy (Rule.byPriority rules) chunk := by
  rw [inspect_eq_foundBy, rules_ofList fun rule => Rule.priority_le_greatestPriority]
  rfl

/-- Rules that fail on every chunk make no difference. -/
theorem review_ofList_filter {rules : List Rule} {chunks : List Chunk} {keep : Rule → Bool}
    (h : ∀ rule ∈ rules, keep rule = false →
      ∀ chunk ∈ chunks, (rule.inspect chunk).found? = none) :
    (ofList (rules.filter keep)).review chunks = (ofList rules).review chunks := by
  have hle : ∀ rule ∈ rules, rule.priority ≤ Rule.greatestPriority rules :=
    fun rule => Rule.priority_le_greatestPriority
  unfold review
  refine List.flatMap_congr ?_
  intro chunk hchunk
  rw [inspect_eq_foundBy, inspect_eq_foundBy, rules_ofList hle,
    rules_ofList fun rule hrule => hle rule (List.mem_filter.1 hrule).1, Rule.downFrom_filter]
  refine Rule.foundBy_filter ?_
  intro rule hrule hkeep
  exact h rule (Rule.mem_of_mem_downFrom hrule) hkeep chunk hchunk

/-- The same checks in another order or with other priorities find the same in a chunk, up to
order. -/
theorem inspect_ofList_perm {rules rules' : List Rule}
    (h : (rules'.map (·.inspect)).Perm (rules.map (·.inspect))) (chunk : Chunk) :
    ((ofList rules').inspect chunk).Perm ((ofList rules).inspect chunk) := by
  have hchecks : ∀ s : RuleSet, s.inspect chunk =
      (s.rules.map (·.inspect)).flatMap fun check => (check chunk).findings := by
    intro s
    rw [List.flatMap_map]
    rfl
  have hsame : ((ofList rules').rules.map (·.inspect)).Perm
      ((ofList rules).rules.map (·.inspect)) :=
    (((rules_ofList_perm rules').map _).trans h).trans ((rules_ofList_perm rules).map _).symm
  rw [hchecks, hchecks]
  exact hsame.flatMap_right _

end RuleSet

end ReviewBot
