import ReviewBot.Proofs.Text.PatternLanguage
import ReviewBot.Rule.MemberAccess

set_option autoImplicit false

/-!
# What an unguarded member access looks like

The pattern of the rule describes an owner, a point and a name, with blanks around the point at
will. So a line is reported exactly if such a text stands somewhere in it and none of the guards
does, at whatever place (`MemberAccess.isUnguarded_iff`).
-/

namespace ReviewBot.MemberAccess

open Text (Piece Pattern oneOf)
open scoped Computability

/-- The text accesses a member: a word character or a closing bracket, a point and a name, with
blanks before and after the point. -/
inductive IsAccess : List Char → Prop
  | intro {owner : Char} {before after name : List Char} :
      Text.isWord owner = true ∨ owner = ']' ∨ owner = ')' →
      (∀ c ∈ before, Text.isBlank c = true) → (∀ c ∈ after, Text.isBlank c = true) →
      name ≠ [] → (∀ c ∈ name, Text.isWord c = true) →
      IsAccess ([owner] ++ (before ++ (['.'] ++ (after ++ name))))

theorem mem_language_one {accepts : Char → Bool} {s : List Char} :
    s ∈ (Piece.one accepts).language ↔ ∃ c, accepts c = true ∧ s = [c] := by
  rw [Piece.language_one]
  exact Iff.rfl

theorem mem_language_many {accepts : Char → Bool} {s : List Char} :
    s ∈ (Piece.many accepts).language ↔ ∀ c ∈ s, accepts c = true := by
  rw [Piece.language_many, Text.mem_kstar_oneOf]
  exact Iff.rfl

theorem mem_language_pattern {text : List Char} : text ∈ pattern.language ↔ IsAccess text := by
  have hpieces : pattern.language = Piece.languageOf
      [.one fun c => Text.isWord c || c == ']' || c == ')', .many Text.isBlank, .one (· == '.'),
        .many Text.isBlank, .atLeast 1 Text.isWord] := Pattern.language_one _
  rw [hpieces]
  simp only [Piece.languageOf_cons, Piece.languageOf_nil, mul_one, Language.mem_mul]
  constructor
  · rintro ⟨_, hfirst, _, ⟨before, hbefore, _, ⟨_, hsecond, _, ⟨after, hafter, name, hname, rfl⟩,
      rfl⟩, rfl⟩, rfl⟩
    obtain ⟨owner, howner, rfl⟩ := mem_language_one.1 hfirst
    obtain ⟨point, hpoint, rfl⟩ := mem_language_one.1 hsecond
    obtain rfl : point = '.' := beq_iff_eq.1 hpoint
    obtain ⟨hword, hlength, -⟩ := hname
    rw [Bool.or_eq_true, Bool.or_eq_true, beq_iff_eq, beq_iff_eq, or_assoc] at howner
    exact .intro howner (mem_language_many.1 hbefore) (mem_language_many.1 hafter)
      (List.ne_nil_of_length_pos hlength) hword
  · intro h
    cases h with
    | @intro owner before after name howner hbefore hafter hne hword =>
      have hfirst : (Text.isWord owner || owner == ']' || owner == ')') = true := by
        rw [Bool.or_eq_true, Bool.or_eq_true, beq_iff_eq, beq_iff_eq, or_assoc]
        exact howner
      have hname : name ∈ (Piece.atLeast 1 Text.isWord).language :=
        ⟨hword, List.length_pos_of_ne_nil hne, fun most hmost => nomatch hmost⟩
      exact ⟨[owner], mem_language_one.2 ⟨owner, hfirst, rfl⟩, _,
        ⟨before, mem_language_many.2 hbefore, _,
          ⟨['.'], mem_language_one.2 ⟨'.', rfl, rfl⟩, _,
            ⟨after, mem_language_many.2 hafter, name, hname, rfl⟩, rfl⟩, rfl⟩, rfl⟩

/-- A line is reported if it accesses a member and holds no guard. -/
theorem isUnguarded_iff {line : String} :
    isUnguarded line = true ↔
      (∃ text, IsAccess text ∧ text <:+: line.toList) ∧
        ∀ guard ∈ ["?.", "try", "if"], ¬ guard.toList <:+: line.toList := by
  have hguards : guards.any line.hasPart = false ↔
      ∀ guard ∈ ["?.", "try", "if"], ¬ guard.toList <:+: line.toList := by
    rw [List.any_eq_false]
    refine forall₂_congr fun guard _ => ?_
    rw [String.hasPart, Text.occursIn_iff]
  rw [isUnguarded, Bool.and_eq_true, Bool.not_eq_true', hguards, Pattern.occursIn_iff]
  refine and_congr_left fun _ => exists_congr fun text => ?_
  rw [mem_language_pattern]

end ReviewBot.MemberAccess
