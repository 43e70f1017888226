import Mathlib.Data.List.Basic
import ReviewBot.Text.Search

set_option autoImplicit false

/-!
# Where a text divides

The searches of `ReviewBot.Text.Search` applied to a text that is put together from its parts: each
finds the part that it looks for, as long as nothing before it, or after it for a search from the
end, looks the same. The other way round, the parts that a search finds make up the text
(`splitChar?_eq_some_iff`, `append_of_splitFirst?`, `suffix_of_afterLast?`).
-/

namespace ReviewBot.Text

theorem isPrefixOf?_append (front back : List Char) :
    front.isPrefixOf? (front ++ back) = some back :=
  List.isPrefixOf?_eq_some_iff_append_eq.2 rfl

theorem splitChar?_append {sep : Char} {front : List Char} (h : sep ∉ front) (back : List Char) :
    splitChar? sep (front ++ sep :: back) = some (front, back) := by
  induction front with
  | nil => simp [splitChar?]
  | cons c front ih =>
    simp only [List.mem_cons, not_or] at h
    obtain ⟨hc, hfront⟩ := h
    rw [List.cons_append, splitChar?, if_neg (Ne.symm hc), ih hfront]
    rfl

theorem splitChar?_eq_none {sep : Char} {s : List Char} (h : sep ∉ s) :
    splitChar? sep s = none := by
  induction s with
  | nil => rfl
  | cons c s ih =>
    simp only [List.mem_cons, not_or] at h
    obtain ⟨hc, hs⟩ := h
    rw [splitChar?, if_neg (Ne.symm hc), ih hs]
    rfl

/-- The parts make up the text, and the separator does not stand in the first one. -/
theorem splitChar?_eq_some_iff {sep : Char} {s front back : List Char} :
    splitChar? sep s = some (front, back) ↔ s = front ++ sep :: back ∧ sep ∉ front := by
  constructor
  · intro h
    by_cases hmem : sep ∈ s
    · obtain ⟨before, after, rfl, hbefore⟩ := List.eq_append_cons_of_mem hmem
      rw [splitChar?_append hbefore, Option.some.injEq, Prod.mk.injEq] at h
      obtain ⟨rfl, rfl⟩ := h
      exact ⟨rfl, hbefore⟩
    · rw [splitChar?_eq_none hmem] at h
      cases h
  · rintro ⟨rfl, hfront⟩
    exact splitChar?_append hfront back

theorem splitLastChar?_eq_none {sep : Char} {s : List Char} (h : sep ∉ s) :
    splitLastChar? sep s = none := by
  induction s with
  | nil => rfl
  | cons c s ih =>
    simp only [List.mem_cons, not_or] at h
    obtain ⟨hc, hs⟩ := h
    rw [splitLastChar?, ih hs]
    simp only
    rw [if_neg (Ne.symm hc)]

/-- The last occurrence of a character is found if it does not stand after it. -/
theorem splitLastChar?_append {sep : Char} {back : List Char} (h : sep ∉ back)
    (front : List Char) : splitLastChar? sep (front ++ sep :: back) = some (front, back) := by
  induction front with
  | nil =>
    rw [List.nil_append, splitLastChar?, splitLastChar?_eq_none h]
    simp
  | cons c front ih => rw [List.cons_append, splitLastChar?, ih]

/-- The first occurrence of a separator is found if its second character does not stand before it.
-/
theorem splitFirst?_append {c e : Char} {front : List Char} (hce : c ≠ e) (h : e ∉ front)
    (sep back : List Char) :
    splitFirst? (c :: e :: sep) (front ++ (c :: e :: sep ++ back)) = some (front, back) := by
  induction front with
  | nil =>
    have hp : (c :: e :: sep).isPrefixOf? (c :: e :: sep ++ back) = some back :=
      isPrefixOf?_append (c :: e :: sep) back
    simp only [List.cons_append] at hp
    simp [splitFirst?, hp]
  | cons d front ih =>
    simp only [List.mem_cons, not_or] at h
    obtain ⟨-, hfront⟩ := h
    have hno : (c :: e :: sep).isPrefixOf? (d :: (front ++ (c :: e :: sep ++ back))) = none := by
      rw [Option.eq_none_iff_forall_ne_some]
      intro rest hrest
      rw [List.isPrefixOf?_eq_some_iff_append_eq] at hrest
      cases front with
      | nil =>
        simp only [List.cons_append, List.nil_append, List.cons.injEq] at hrest
        exact hce hrest.2.1.symm
      | cons f front =>
        simp only [List.cons_append, List.cons.injEq] at hrest
        exact hfront (hrest.2.1 ▸ List.mem_cons_self)
    rw [List.cons_append, splitFirst?, hno]
    simp only
    rw [ih hfront]
    rfl

/-- The parts and the separator between them make up the text. -/
theorem append_of_splitFirst? {sep s front back : List Char}
    (h : splitFirst? sep s = some (front, back)) : front ++ (sep ++ back) = s := by
  induction s generalizing front back with
  | nil =>
    rw [splitFirst?] at h
    split at h
    · rename_i hsep
      obtain rfl := List.isEmpty_iff.1 hsep
      cases h
      rfl
    · cases h
  | cons c rest ih =>
    rw [splitFirst?] at h
    split at h
    · rename_i after hafter
      cases h
      rw [List.nil_append]
      exact List.isPrefixOf?_eq_some_iff_append_eq.1 hafter
    · obtain ⟨⟨front', back'⟩, hrest, h⟩ := Option.map_eq_some_iff.1 h
      cases h
      exact congrArg (c :: ·) (ih hrest)

theorem afterLast?_eq_none {c : Char} {sep s : List Char} (h : ¬ c :: sep <:+: s) :
    afterLast? (c :: sep) s = none := by
  induction s with
  | nil => rfl
  | cons d s ih =>
    rw [List.infix_cons_iff, not_or] at h
    obtain ⟨hp, hs⟩ := h
    rw [afterLast?, ih hs]
    rw [Option.eq_none_iff_forall_ne_some]
    intro rest hrest
    rw [List.isPrefixOf?_eq_some_iff_append_eq] at hrest
    exact hp ⟨rest, hrest⟩

/-- The last occurrence of a separator is found if it does not occur again, not even overlapping
itself. -/
theorem afterLast?_append {c : Char} {sep back : List Char} (h : ¬ c :: sep <:+: sep ++ back)
    (front : List Char) : afterLast? (c :: sep) (front ++ (c :: sep ++ back)) = some back := by
  induction front with
  | nil =>
    have hp : (c :: sep).isPrefixOf? (c :: sep ++ back) = some back :=
      isPrefixOf?_append (c :: sep) back
    simp only [List.cons_append] at hp
    simp [afterLast?, afterLast?_eq_none h, hp]
  | cons d front ih =>
    rw [List.cons_append, afterLast?, ih]

/-- The separator and what follows its last occurrence end the text. -/
theorem suffix_of_afterLast? {sep s after : List Char} (h : afterLast? sep s = some after) :
    sep ++ after <:+ s := by
  induction s with
  | nil =>
    rw [afterLast?] at h
    split at h
    · rename_i hsep
      obtain rfl := List.isEmpty_iff.1 hsep
      obtain rfl := Option.some.inj h
      exact List.suffix_refl []
    · cases h
  | cons c s ih =>
    rw [afterLast?] at h
    split at h
    · rename_i hlater
      rw [hlater] at ih
      exact (ih h).trans (List.suffix_cons c s)
    · rw [List.isPrefixOf?_eq_some_iff_append_eq] at h
      exact ⟨[], h⟩

/-- What follows the last occurrence of a separator ends the text. -/
theorem afterLast?_suffix {sep s after : List Char} (h : afterLast? sep s = some after) :
    after <:+ s :=
  (List.suffix_append sep after).trans (suffix_of_afterLast? h)

theorem prefix_of_prefix_append_cons {d : Char} {sep : List Char} (h : d ∉ sep)
    {xs ys : List Char} (hp : sep <+: xs ++ d :: ys) : sep <+: xs := by
  induction sep generalizing xs with
  | nil => exact List.nil_prefix
  | cons c sep ih =>
    simp only [List.mem_cons, not_or] at h
    obtain ⟨hc, hsep⟩ := h
    cases xs with
    | nil =>
      rw [List.nil_append, List.cons_prefix_cons] at hp
      exact absurd hp.1.symm hc
    | cons x xs =>
      rw [List.cons_append, List.cons_prefix_cons] at hp
      obtain ⟨rfl, hrest⟩ := hp
      exact List.cons_prefix_cons.2 ⟨rfl, ih hsep hrest⟩

/-- A text that occurs in two texts put together occurs in one of them, if the first character of
the second one could only be its first. -/
theorem infix_or_of_infix_append_cons {c d : Char} {sep : List Char} (h : d ∉ sep)
    {xs ys : List Char} (hi : c :: sep <:+: xs ++ d :: ys) :
    c :: sep <:+: xs ∨ c :: sep <:+: d :: ys := by
  induction xs with
  | nil => exact Or.inr hi
  | cons x xs ih =>
    rw [List.cons_append, List.infix_cons_iff] at hi
    rcases hi with hp | hi
    · rw [List.cons_prefix_cons] at hp
      obtain ⟨rfl, hrest⟩ := hp
      have hx : c :: sep <+: c :: xs :=
        List.cons_prefix_cons.2 ⟨rfl, prefix_of_prefix_append_cons h hrest⟩
      exact Or.inl hx.isInfix
    · rcases ih hi with hl | hr
      · exact Or.inl (List.infix_cons hl)
      · exact Or.inr hr

end ReviewBot.Text
