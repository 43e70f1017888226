import ReviewBot.Proofs.Finding.Key
import ReviewBot.Proofs.Finding.Merge

set_option autoImplicit false

/-!
# Findings with one key

The key of a finding is one text, and it can be read in more than one way when a category holds a
colon. Two findings have the same key exactly if they are about the same place and of the same
kind, or if one of the keys runs into the other: its category goes on with the path, the line and
the category of the other finding (`key_eq_iff_samePlace_or`). Merging keeps a finding for every
key, so it keeps one for every place as long as no key runs into another
(`mergeAndRank_keeps_place`).
-/

namespace ReviewBot.Finding

/-- The key of `f` runs into that of `g`: the path of `g` begins with the path and the line of `f`,
and the category of `f` contains the rest of that path and then the line and the category of `g`.
-/
def RunsInto (f g : Finding) : Prop :=
  ∃ middle : String,
    g.filePath ++ ":" = f.filePath ++ ":" ++ toString f.lineNumber ++ ":" ++ middle ∧
      f.category = middle ++ toString g.lineNumber ++ ":" ++ g.category

variable {f g : Finding}

/-- Where the text before one category is longer than the other one, it is so by a part of a path
and by its line. -/
theorem exists_middle {more : List Char} (hne : more ≠ [])
    (h : g.placeText = f.placeText ++ more) :
    ∃ middle, g.filePath.toList ++ [':'] = f.placeText ++ middle ∧
      more = middle ++ Nat.toDigits 10 g.lineNumber ++ [':'] := by
  -- Both sides end with a colon, so the longer part does.
  obtain ⟨part, c, rfl⟩ : ∃ part c, more = part ++ [c] :=
    ⟨_, _, (List.dropLast_append_getLast hne).symm⟩
  have hends : (g.filePath.toList ++ [':'] ++ Nat.toDigits 10 g.lineNumber) ++ [':'] =
      (f.placeText ++ part) ++ [c] := by
    rw [List.append_assoc f.placeText, ← h, placeText]
    simp
  obtain ⟨hbody, hc⟩ := List.append_inj' hends rfl
  obtain rfl : ':' = c := List.singleton_inj.1 hc
  rcases List.append_eq_append_iff.1 hbody with ⟨rest, hplace, hdigits⟩ | ⟨middle, hpath, hpart⟩
  · -- The line of `g` holds no colon, so the text before the category of `f` ends before it.
    cases hrest : rest.getLast? with
    | none =>
      obtain rfl : rest = [] := List.getLast?_eq_none_iff.1 hrest
      refine ⟨[], ?_, ?_⟩
      · rw [hplace]
        simp
      · rw [hdigits]
        simp
    | some d =>
      have hd : d = ':' := by
        have hlast := congrArg List.getLast? hplace
        rw [List.getLast?_append, hrest, placeText, List.getLast?_concat] at hlast
        exact (Option.some.inj hlast).symm
      have hmem : ':' ∈ Nat.toDigits 10 g.lineNumber := by
        rw [hdigits, ← hd]
        exact List.mem_append_left _ (List.mem_of_getLast? hrest)
      exact absurd hmem (Numeric.not_mem_toDigits (by decide) _)
  · exact ⟨middle, hpath, by rw [hpart]⟩

theorem runsInto_iff : f.RunsInto g ↔
    ∃ middle, g.filePath.toList ++ [':'] = f.placeText ++ middle ∧
      f.category.toList = middle ++ Nat.toDigits 10 g.lineNumber ++ ':' :: g.category.toList := by
  constructor
  · rintro ⟨middle, hpath, hcategory⟩
    refine ⟨middle.toList, ?_, ?_⟩
    · simpa [placeText] using congrArg String.toList hpath
    · simpa using congrArg String.toList hcategory
  · rintro ⟨middle, hpath, hcategory⟩
    refine ⟨String.ofList middle, String.toList_inj.1 ?_, String.toList_inj.1 ?_⟩
    · simpa [placeText] using hpath
    · simpa using hcategory

/-- A key runs into another one only by a colon in its category. -/
theorem RunsInto.colon_mem (h : f.RunsInto g) : ':' ∈ f.category.toList := by
  obtain ⟨middle, -, hcategory⟩ := runsInto_iff.1 h
  rw [hcategory]
  simp

theorem RunsInto.key_eq (h : f.RunsInto g) : f.key = g.key := by
  obtain ⟨middle, hpath, hcategory⟩ := runsInto_iff.1 h
  apply String.toList_inj.1
  calc f.key.toList
      = (f.placeText ++ middle) ++ (Nat.toDigits 10 g.lineNumber ++ ':' :: g.category.toList) := by
        rw [toList_key_eq_append, hcategory, List.append_assoc, List.append_assoc]
    _ = (g.filePath.toList ++ [':']) ++
          (Nat.toDigits 10 g.lineNumber ++ ':' :: g.category.toList) := by rw [hpath]
    _ = g.key.toList := by
        rw [toList_key]
        simp

/-- A key whose category reaches further back than the other one is at the same place or runs into
the other key. -/
theorem samePlace_or_runsInto {more : List Char} (hplace : g.placeText = f.placeText ++ more)
    (hcategory : f.category.toList = more ++ g.category.toList) :
    f.SamePlace g ∨ f.RunsInto g := by
  by_cases hne : more = []
  · subst hne
    rw [List.append_nil] at hplace
    obtain ⟨hpath, hline⟩ := eq_of_placeText_eq hplace
    exact Or.inl ⟨hpath.symm, hline.symm, String.toList_inj.1 hcategory⟩
  · obtain ⟨middle, hpath, hmore⟩ := exists_middle hne hplace
    refine Or.inr (runsInto_iff.2 ⟨middle, hpath, ?_⟩)
    rw [hcategory, hmore]
    simp

/-- The findings that have the same key. -/
theorem key_eq_iff_samePlace_or :
    f.key = g.key ↔ f.SamePlace g ∨ f.RunsInto g ∨ g.RunsInto f := by
  constructor
  · intro h
    have hlist := congrArg String.toList h
    rw [toList_key_eq_append, toList_key_eq_append] at hlist
    rcases List.append_eq_append_iff.1 hlist with
      ⟨more, hplace, hcategory⟩ | ⟨more, hplace, hcategory⟩
    · rcases samePlace_or_runsInto hplace hcategory with hsame | hruns
      · exact Or.inl hsame
      · exact Or.inr (Or.inl hruns)
    · rcases samePlace_or_runsInto hplace hcategory with ⟨hpath, hline, hcat⟩ | hruns
      · exact Or.inl ⟨hpath.symm, hline.symm, hcat.symm⟩
      · exact Or.inr (Or.inr hruns)
  · rintro (hsame | hruns | hruns)
    · exact hsame.key_eq
    · exact hruns.key_eq
    · exact hruns.key_eq.symm

/-- Two findings have the same key exactly if they are about the same place and of the same kind or
one key runs into the other, for which its category needs a colon. For every finding merging keeps
one with its key, and this is about the same place and of the same kind unless a key runs into
another. -/
theorem mergeAndRank_keeps_place (findings : List Finding) :
    (∀ f g : Finding, f.key = g.key ↔ f.SamePlace g ∨ f.RunsInto g ∨ g.RunsInto f) ∧
      (∀ f g : Finding, f.RunsInto g → ':' ∈ f.category.toList) ∧
      ∀ f ∈ findings, ∃ g ∈ mergeAndRank findings, g.key = f.key ∧
        ((∀ h ∈ findings, ¬ f.RunsInto h ∧ ¬ h.RunsInto f) → g.SamePlace f) := by
  refine ⟨fun f g => key_eq_iff_samePlace_or, fun f g h => h.colon_mem, ?_⟩
  intro f hf
  have hmem : f ∈ withKey f.key findings := List.mem_filter.2 ⟨hf, by simp⟩
  obtain ⟨g, hchampion⟩ := champion_isSome_of_mem hmem
  obtain ⟨hg, hkey⟩ := List.mem_filter.1 (champion_mem hchampion)
  have hkey' : g.key = f.key := of_decide_eq_true hkey
  refine ⟨g, mem_mergeAndRank_iff.2 (by rw [hkey', hchampion]), hkey', ?_⟩
  intro hapart
  rcases key_eq_iff_samePlace_or.1 hkey' with hsame | hruns | hruns
  · exact hsame
  · exact absurd hruns (hapart g hg).2
  · exact absurd hruns (hapart g hg).1

/-- A finding in the file `path` that says nothing but where it is and of what kind. -/
def bare (path : String) (line : Nat) (category : String) : Finding :=
  { filePath := path, lineNumber := line, severity := .low, category := category, message := "",
    source := .heuristic }

/-- Beside two findings with one key, a third one is kept for its own place. -/
theorem mergeAndRank_keeps_place_of_third :
    let findings := [bare "a" 1 "2:X", bare "a:1" 2 "X", bare "a" 2 "X"]
    (bare "a" 1 "2:X").key = (bare "a:1" 2 "X").key ∧
      (∀ h ∈ findings, ¬ (bare "a" 2 "X").RunsInto h ∧ ¬ h.RunsInto (bare "a" 2 "X")) ∧
      ∃ g ∈ mergeAndRank findings, g.SamePlace (bare "a" 2 "X") := by
  intro findings
  have hapart : ∀ h ∈ findings,
      ¬ (bare "a" 2 "X").RunsInto h ∧ ¬ h.RunsInto (bare "a" 2 "X") := by
    intro h hh
    have hcolon : ':' ∉ (bare "a" 2 "X").category.toList := by decide
    refine ⟨fun hruns => hcolon hruns.colon_mem, fun hruns => ?_⟩
    simp only [findings, List.mem_cons, List.not_mem_nil, or_false] at hh
    rcases hh with rfl | rfl | rfl
    · exact absurd hruns.key_eq (by decide)
    · exact absurd hruns.key_eq (by decide)
    · exact hcolon hruns.colon_mem
  obtain ⟨hkeys, -, hkept⟩ := mergeAndRank_keeps_place findings
  obtain ⟨g, hg, -, hsame⟩ := hkept (bare "a" 2 "X") (by simp [findings])
  refine ⟨(hkeys _ _).2 (Or.inr (Or.inl ?_)), hapart, g, hg, hsame hapart⟩
  exact ⟨"", by decide, by decide⟩

/-- Of two findings in different files with one key only the first is kept. -/
theorem finding_lost_to_other_file :
    let findings := [bare "a" 1 "2:X", bare "a:1" 2 "X"]
    (bare "a" 1 "2:X").key = (bare "a:1" 2 "X").key ∧
      bare "a:1" 2 "X" ∈ findings ∧
      ¬ ∃ g ∈ mergeAndRank findings, g.SamePlace (bare "a:1" 2 "X") := by
  intro findings
  have hmerged : mergeAndRank findings = [bare "a" 1 "2:X"] := by
    have hdistinct : distinct findings = [bare "a" 1 "2:X"] := by decide
    rw [mergeAndRank, hdistinct, List.mergeSort_singleton]
  refine ⟨by decide, List.mem_cons_of_mem _ (List.mem_singleton_self _), ?_⟩
  rw [hmerged]
  decide

end ReviewBot.Finding
