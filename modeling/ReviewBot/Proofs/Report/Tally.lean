import ReviewBot.Proofs.Numeric.Unsigned
import ReviewBot.Proofs.Text.Lines
import ReviewBot.Proofs.Text.Search
import ReviewBot.Report.Markdown

set_option autoImplicit false

/-!
# The tally of a comment

The tally of some findings names the severities of which there are any, each with its number
(`tallyCounts_tally`). The numbers add up to the number of findings (`foldr_tallyCounts`).
-/

namespace ReviewBot.Markdown

/-- How many findings there are of a severity. -/
def total (findings : List Finding) (s : Severity) : Nat := findings.countP (·.severity = s)

/-- The severities of which there are findings. -/
def present (findings : List Finding) : List Severity :=
  Severity.all.filter fun s => total findings s ≠ 0

/-- What a tally begins with. -/
def front (findings : List Finding) : List Char :=
  "**".toList ++ Nat.toDigits 10 findings.length ++
    (if findings.length = 1 then " finding" else " findings").toList ++ "**".toList

/-- What a tally says of a severity. -/
def part (findings : List Finding) (s : Severity) : String :=
  toString (total findings s) ++ " " ++ s.smallLabel

/-- The numbers after the colon of a tally, one for each part. -/
def tallyCounts (line : String) : List Nat :=
  match Text.splitChar? ':' line.toList with
  | some parts =>
    (Text.pieces ',' parts.2).map fun part => Numeric.ofDigits (part.filter (·.isDigit))
  | none => []

theorem filterMap_count? (findings : List Finding) (severities : List Severity) :
    severities.filterMap (count? findings) =
      (severities.filter fun s => total findings s ≠ 0).map (part findings) := by
  induction severities with
  | nil => rfl
  | cons s rest ih =>
    by_cases h : findings.countP (·.severity = s) = 0
    · have hnone : count? findings s = none := if_pos h
      rw [List.filterMap_cons_none hnone, List.filter_cons_of_neg (by simpa [total] using h), ih]
    · have hsome : count? findings s = some (part findings s) := if_neg h
      rw [List.filterMap_cons_some hsome, List.filter_cons_of_pos (by simpa [total] using h),
        List.map_cons, ih]

theorem toList_tally (findings : List Finding) :
    (tally findings).toList =
      front findings ++ ':' :: ([' '] ++ [',', ' '].intercalate
        ((present findings).map fun s => (part findings s).toList)) := by
  rw [tally, filterMap_count?]
  simp [front, present, String.toList_intercalate, Function.comp_def]

/-! ## Characters -/

theorem not_mem_front {c : Char} (hdigit : c.isDigit = false) (hword : c ∉ "** findings".toList)
    (findings : List Finding) : c ∉ front findings := by
  have hdigits : c ∉ Nat.toDigits 10 findings.length := Numeric.not_mem_toDigits hdigit _
  simp only [String.reduceToList, List.mem_cons, List.not_mem_nil, or_false, not_or] at hword
  rw [front]
  split
  · simp [hdigits, hword]
  · simp [hdigits, hword]

theorem isLower_of_mem_smallLabel {s : Severity} {c : Char} (hc : c ∈ s.smallLabel.toList) :
    c.isLower = true ∧ c.isDigit = false := by
  have hall : (s.smallLabel.toList.all fun c => c.isLower && !c.isDigit) = true := by
    cases s <;> decide
  have hletter := List.all_eq_true.1 hall c hc
  rwa [Bool.and_eq_true, Bool.not_eq_true'] at hletter

theorem not_mem_part {c : Char} (hdigit : c.isDigit = false) (hlower : c.isLower = false)
    (hblank : c ≠ ' ') (findings : List Finding) (s : Severity) :
    c ∉ (part findings s).toList := by
  have hlabel : c ∉ s.smallLabel.toList := by
    intro hc
    rw [(isLower_of_mem_smallLabel hc).1] at hlower
    cases hlower
  simp [part, Numeric.not_mem_toDigits hdigit, hblank, hlabel]

theorem feed_not_mem_tally (findings : List Finding) : '\n' ∉ (tally findings).toList := by
  have hfront : '\n' ∉ front findings := not_mem_front (by decide) (by decide) findings
  have hparts : ∀ row ∈ (present findings).map fun s => (part findings s).toList, '\n' ∉ row := by
    intro row hrow
    obtain ⟨s, -, rfl⟩ := List.mem_map.1 hrow
    exact not_mem_part (by decide) (by decide) (by decide) findings s
  have hjoined : '\n' ∉ [',', ' '].intercalate
      ((present findings).map fun s => (part findings s).toList) :=
    Text.not_mem_intercalate (by decide) hparts
  rw [toList_tally]
  simp [hfront, hjoined]

/-! ## Numbers -/

/-- The digits in a part are those of its number. -/
theorem ofDigits_part (findings : List Finding) (s : Severity) :
    Numeric.ofDigits ((part findings s).toList.filter (·.isDigit)) = total findings s := by
  have hpart : (part findings s).toList =
      Nat.toDigits 10 (total findings s) ++ ' ' :: s.smallLabel.toList := by
    simp [part]
  have hdigits : (Nat.toDigits 10 (total findings s)).filter (·.isDigit) =
      Nat.toDigits 10 (total findings s) :=
    List.filter_eq_self.2 fun _ hc => Numeric.isDigit_of_mem_toDigits hc
  have hlabel : s.smallLabel.toList.filter (·.isDigit) = [] := by
    rw [List.filter_eq_nil_iff]
    intro c hc
    simp [(isLower_of_mem_smallLabel hc).2]
  have hblank : ¬ ' '.isDigit = true := by decide
  rw [hpart, List.filter_append, hdigits, List.filter_cons_of_neg hblank, hlabel, List.append_nil,
    Numeric.ofDigits_toDigits]

theorem present_ne_nil {findings : List Finding} (hne : findings ≠ []) :
    present findings ≠ [] := by
  obtain ⟨f, hf⟩ := List.exists_mem_of_ne_nil findings hne
  have hall : f.severity ∈ Severity.all := by
    cases f.severity <;> decide
  have htotal : total findings f.severity ≠ 0 := by
    intro hzero
    exact List.countP_eq_zero.1 hzero f hf (by simp)
  exact List.ne_nil_of_mem (List.mem_filter.2 ⟨hall, by simpa using htotal⟩)

/-- The numbers of a tally are those of the severities of which there are findings. -/
theorem tallyCounts_tally {findings : List Finding} (hne : findings ≠ []) :
    tallyCounts (tally findings) = (present findings).map (total findings) := by
  have hfront : ':' ∉ front findings := not_mem_front (by decide) (by decide) findings
  have hparts : ∀ row ∈ (present findings).map fun s => (part findings s).toList, ',' ∉ row := by
    intro row hrow
    obtain ⟨s, -, rfl⟩ := List.mem_map.1 hrow
    exact not_mem_part (by decide) (by decide) (by decide) findings s
  have hnone : (present findings).map (fun s => (part findings s).toList) ≠ [] := by
    simpa using present_ne_nil hne
  have hgap : ',' ∉ [' '] := by decide
  rw [tallyCounts, toList_tally, Text.splitChar?_append hfront]
  dsimp only
  rw [Text.pieces_intercalate hgap hnone hparts, List.map_map, List.map_map]
  refine List.map_congr_left fun s _ => ?_
  -- Each part stands after a blank, which is no digit.
  have hblank : ¬ ' '.isDigit = true := by decide
  show Numeric.ofDigits ((' ' :: (part findings s).toList).filter (·.isDigit)) = _
  rw [List.filter_cons_of_neg hblank, ofDigits_part]

theorem foldr_filter_ne_zero (g : Severity → Nat) (severities : List Severity) :
    ((severities.filter fun s => g s ≠ 0).map g).foldr (· + ·) 0 =
      (severities.map g).foldr (· + ·) 0 := by
  induction severities with
  | nil => rfl
  | cons s rest ih =>
    by_cases h : g s = 0
    · rw [List.filter_cons_of_neg (by simpa using h), ih, List.map_cons, List.foldr_cons, h,
        Nat.zero_add]
    · rw [List.filter_cons_of_pos (by simpa using h), List.map_cons, List.map_cons,
        List.foldr_cons, List.foldr_cons, ih]

/-- Every finding is counted for one severity. -/
theorem foldr_total (findings : List Finding) :
    (Severity.all.map (total findings)).foldr (· + ·) 0 = findings.length := by
  induction findings with
  | nil => rfl
  | cons f rest ih =>
    have hcons : ∀ s, total (f :: rest) s = total rest s + if f.severity = s then 1 else 0 := by
      intro s
      simp [total, List.countP_cons]
    simp only [Severity.all, List.map_cons, List.map_nil, List.foldr_cons, List.foldr_nil, hcons,
      List.length_cons] at ih ⊢
    -- The new finding raises one of the five numbers.
    cases f.severity <;> simp only [reduceCtorEq, if_true, if_false] <;> omega

theorem foldr_tallyCounts {findings : List Finding} (hne : findings ≠ []) :
    (tallyCounts (tally findings)).foldr (· + ·) 0 = findings.length := by
  rw [tallyCounts_tally hne, present, foldr_filter_ne_zero, foldr_total]

end ReviewBot.Markdown
