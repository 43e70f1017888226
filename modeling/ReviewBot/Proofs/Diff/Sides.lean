import ReviewBot.Diff.Parser
import ReviewBot.Proofs.Text.Trim

set_option autoImplicit false

/-!
# Sides of a file

What a `---` or `+++` line says after its marker is a path with trimmings: quotes around the path,
blanks around the quotes and a remark after a tab (`IsSideOf`). Every text is such a side of just
the path that reading looks at (`exists_isSideOf`), and a path is read from all of its sides alike
if nothing would be trimmed from the path itself (`IsSideOf.sidePath?_eq`).
-/

namespace ReviewBot.Diff

/-- The text is empty or a remark after a tab. -/
def IsRemark (s : List Char) : Prop := s = [] ∨ ∃ text, s = '\t' :: text

/-- The tail of a side line that gives a path. -/
inductive IsSideOf (path : List Char) : List Char → Prop
  | intro {before quoted remark : List Char} :
      Text.Surrounds (· == '"') quoted path → Text.Surrounds Text.isBlank before quoted →
      '\t' ∉ before → IsRemark remark → IsSideOf path (before ++ remark)

/-- The character is neither a blank nor a quote. -/
def IsUntrimmed (c : Char) : Prop := Text.isBlank c = false ∧ c ≠ '"'

/-- The characters of markers are not trimmed. -/
theorem isUntrimmed_of_mem {c : Char} (hc : c ∈ ['a', 'b', '/']) : IsUntrimmed c := by
  simp only [List.mem_cons, List.not_mem_nil, or_false] at hc
  rcases hc with rfl | rfl | rfl
  · exact ⟨by decide, by decide⟩
  · exact ⟨by decide, by decide⟩
  · exact ⟨by decide, by decide⟩

/-- Nothing would be trimmed from the path. -/
structure HasPlainEnds (path : List Char) : Prop where
  ne_nil : path ≠ []
  first : ∀ c, path.head? = some c → IsUntrimmed c
  last : ∀ c, path.getLast? = some c → IsUntrimmed c

namespace HasPlainEnds

variable {path quoted : List Char}

/-- Blanks are trimmed up to the quotes or up to the path itself. -/
theorem isBlank_eq_false (h : HasPlainEnds path) (hquoted : Text.Surrounds (· == '"') quoted path)
    {c : Char} (hc : quoted.head? = some c ∨ quoted.getLast? = some c) :
    Text.isBlank c = false := by
  have hends : (c == '"') = true ∨ IsUntrimmed c := by
    rcases hc with hc | hc
    · exact (hquoted.head?_or h.ne_nil hc).imp_right (h.first c)
    · exact (hquoted.getLast?_or h.ne_nil hc).imp_right (h.last c)
  rcases hends with hquote | huntrimmed
  · rw [beq_iff_eq] at hquote
    rw [hquote]
    decide
  · exact huntrimmed.1

end HasPlainEnds

/-- A path is read from its side, whatever stands around it. -/
theorem IsSideOf.sidePath?_eq {path tail : List Char} (h : IsSideOf path tail)
    (hends : HasPlainEnds path) :
    sidePath? tail = if path = "/dev/null".toList then none else some (stripSide path) := by
  obtain ⟨hquoted, hbefore, htab, hremark⟩ := h
  rename_i before quoted remark
  have htake : (before ++ remark).takeWhile (· != '\t') = before := by
    rw [List.takeWhile_append_of_pos]
    · rcases hremark with rfl | ⟨text, rfl⟩
      · simp
      · simp
    · intro c hc
      rw [bne_iff_ne]
      rintro rfl
      exact htab hc
  have htrim : Text.trim before = quoted :=
    hbefore.dropAroundWhile_eq (fun c hc => hends.isBlank_eq_false hquoted (Or.inl hc))
      fun c hc => hends.isBlank_eq_false hquoted (Or.inr hc)
  have hquotes : Text.dropAroundWhile (· == '"') quoted = path :=
    hquoted.dropAroundWhile_eq (fun c hc => beq_false_of_ne (hends.first c hc).2)
      fun c hc => beq_false_of_ne (hends.last c hc).2
  have hfull : path.isEmpty = false := by simp [hends.ne_nil]
  unfold sidePath?
  rw [htake, htrim, hquotes]
  simp only [hfull, Bool.or_false, decide_eq_true_eq]

/-- Every text is a side of the path that is looked at when it is read. -/
theorem exists_isSideOf (tail : List Char) :
    ∃ path, IsSideOf path tail ∧
      sidePath? tail =
        if path = "/dev/null".toList ∨ path = [] then none else some (stripSide path) := by
  refine ⟨Text.dropAroundWhile (· == '"') (Text.trim (tail.takeWhile (· != '\t'))), ?_, ?_⟩
  · have htab : '\t' ∉ tail.takeWhile (· != '\t') := by
      intro hmem
      have hkept := List.all_eq_true.1 List.all_takeWhile '\t' hmem
      simp at hkept
    have hremark : IsRemark (tail.dropWhile (· != '\t')) := by
      have hstop := List.head?_dropWhile_not (· != '\t') tail
      cases hrest : tail.dropWhile (· != '\t') with
      | nil => exact Or.inl rfl
      | cons c text =>
        rw [hrest] at hstop
        obtain rfl : c = '\t' := by simpa using hstop
        exact Or.inr ⟨text, rfl⟩
    have hside := IsSideOf.intro
      (Text.surrounds_dropAroundWhile (· == '"') (Text.trim (tail.takeWhile (· != '\t'))))
      (Text.surrounds_dropAroundWhile Text.isBlank _) htab hremark
    rw [List.takeWhile_append_dropWhile] at hside
    exact hside
  · rw [sidePath?]
    simp only [Bool.or_eq_true, decide_eq_true_eq, List.isEmpty_iff]

/-- A path without tabs is read from itself, whatever remark follows. -/
theorem sidePath?_plain {path remark : List Char} (htab : '\t' ∉ path) (hends : HasPlainEnds path)
    (hremark : IsRemark remark) :
    sidePath? (path ++ remark) =
      if path = "/dev/null".toList then none else some (stripSide path) :=
  (IsSideOf.intro (Text.Surrounds.refl _ path) (Text.Surrounds.refl _ path) htab
    hremark).sidePath?_eq hends

end ReviewBot.Diff
