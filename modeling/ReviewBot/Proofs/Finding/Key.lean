import ReviewBot.Finding
import ReviewBot.Proofs.Numeric.Unsigned
import ReviewBot.Proofs.Text.Search

set_option autoImplicit false

/-!
# What a key tells

The key of a finding puts path, line and category together with colons. It tells all three as long
as the category holds no colon, whatever stands in the path (`key_eq_iff`). So merging keeps one of
the findings of a category at a line of a file (`placedAt`).
-/

namespace ReviewBot.Finding

/-- The two findings are about the same line of the same file and of the same kind. -/
def SamePlace (f g : Finding) : Prop :=
  f.filePath = g.filePath ∧ f.lineNumber = g.lineNumber ∧ f.category = g.category

instance (f g : Finding) : Decidable (f.SamePlace g) :=
  inferInstanceAs (Decidable (_ ∧ _ ∧ _))

/-- The findings of a category at a line of a file. -/
def placedAt (path : String) (line : Nat) (category : String) (findings : List Finding) :
    List Finding :=
  findings.filter fun f => f.filePath = path ∧ f.lineNumber = line ∧ f.category = category

section Places

variable {path category : String} {line : Nat} {findings : List Finding}

theorem mem_placedAt {f : Finding} :
    f ∈ placedAt path line category findings ↔
      f ∈ findings ∧ f.filePath = path ∧ f.lineNumber = line ∧ f.category = category := by
  rw [placedAt, List.mem_filter, decide_eq_true_eq]

theorem placedAt_append (path : String) (line : Nat) (category : String)
    (front back : List Finding) :
    placedAt path line category (front ++ back) =
      placedAt path line category front ++ placedAt path line category back :=
  List.filter_append ..

theorem placedAt_eq_nil (h : ∀ f ∈ findings, f.category ≠ category) :
    placedAt path line category findings = [] := by
  rw [List.eq_nil_iff_forall_not_mem]
  intro f hf
  obtain ⟨hmem, -, -, hcategory⟩ := mem_placedAt.1 hf
  exact h f hmem hcategory

/-- Findings that are all at one place are all there, or none of them is at another place. -/
theorem placedAt_eq_ite {path' : String} {line' : Nat}
    (h : ∀ f ∈ findings, f.filePath = path' ∧ f.lineNumber = line' ∧ f.category = category) :
    placedAt path line category findings =
      if path' = path ∧ line' = line then findings else [] := by
  split
  · rename_i hplace
    obtain ⟨rfl, rfl⟩ := hplace
    rw [placedAt, List.filter_eq_self]
    intro f hf
    exact decide_eq_true (h f hf)
  · rename_i hplace
    rw [List.eq_nil_iff_forall_not_mem]
    intro f hf
    obtain ⟨hmem, hpath, hline, -⟩ := mem_placedAt.1 hf
    obtain ⟨hpath', hline', -⟩ := h f hmem
    exact hplace ⟨hpath'.symm.trans hpath, hline'.symm.trans hline⟩

theorem filter_samePlace (f : Finding) (findings : List Finding) :
    findings.filter (fun g => f.SamePlace g) =
      placedAt f.filePath f.lineNumber f.category findings := by
  refine List.filter_congr fun g _ => ?_
  rw [decide_eq_decide, SamePlace, eq_comm, @eq_comm _ f.lineNumber, @eq_comm _ f.category]

end Places

/-- What stands before the category in the key. -/
def placeText (f : Finding) : List Char :=
  f.filePath.toList ++ ':' :: Nat.toDigits 10 f.lineNumber ++ [':']

theorem toList_key (f : Finding) :
    f.key.toList =
      f.filePath.toList ++ ':' :: Nat.toDigits 10 f.lineNumber ++ ':' :: f.category.toList := by
  simp [key]

theorem toList_key_eq_append (f : Finding) :
    f.key.toList = f.placeText ++ f.category.toList := by
  simp [key, placeText]

/-- What stands before the category tells the path and the line. -/
theorem eq_of_placeText_eq {f g : Finding} (h : f.placeText = g.placeText) :
    f.filePath = g.filePath ∧ f.lineNumber = g.lineNumber := by
  have hplace := congrArg (Text.splitLastChar? ':') (List.append_cancel_right h)
  rw [Text.splitLastChar?_append (Numeric.not_mem_toDigits (by decide) _),
    Text.splitLastChar?_append (Numeric.not_mem_toDigits (by decide) _), Option.some.injEq,
    Prod.mk.injEq] at hplace
  obtain ⟨hpath, hdigits⟩ := hplace
  have hnumber := congrArg Numeric.ofDigits hdigits
  rw [Numeric.ofDigits_toDigits, Numeric.ofDigits_toDigits] at hnumber
  exact ⟨String.toList_inj.1 hpath, hnumber⟩

theorem SamePlace.key_eq {f g : Finding} (h : f.SamePlace g) : f.key = g.key := by
  obtain ⟨hpath, hline, hcategory⟩ := h
  rw [key, key, hpath, hline, hcategory]

/-- Categories without colons make the key tell path, line and category. -/
theorem key_eq_iff {f g : Finding} (hf : ':' ∉ f.category.toList)
    (hg : ':' ∉ g.category.toList) : f.key = g.key ↔ f.SamePlace g := by
  constructor
  · intro h
    have hlist := congrArg String.toList h
    rw [toList_key, toList_key] at hlist
    have hsplit := congrArg (Text.splitLastChar? ':') hlist
    rw [Text.splitLastChar?_append hf, Text.splitLastChar?_append hg, Option.some.injEq,
      Prod.mk.injEq] at hsplit
    obtain ⟨hplace, hcat⟩ := hsplit
    obtain ⟨hpath, hline⟩ := eq_of_placeText_eq (congrArg (· ++ [':']) hplace)
    exact ⟨hpath, hline, String.toList_inj.1 hcat⟩
  · intro hsame
    exact hsame.key_eq

end ReviewBot.Finding
