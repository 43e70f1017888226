import ReviewBot.Text.Blank

set_option autoImplicit false

/-!
# What trimming keeps

Trimming keeps a character at the beginning of a text that it would not remove, whatever follows,
and a text as a whole if it would remove neither its first nor its last character. What it leaves is
a part of the text, and there is nothing around it but what trimming removes (`Surrounds`).
-/

namespace ReviewBot.Text

theorem dropEndWhile_cons {p : Char → Bool} {c : Char} (hc : p c = false) (tail : List Char) :
    dropEndWhile p (c :: tail) = c :: dropEndWhile p tail := by
  have hlast : [c].dropWhile p = [c] := List.dropWhile_cons_of_neg (by simp [hc])
  unfold dropEndWhile
  rw [List.reverse_cons, List.dropWhile_append]
  split
  · rename_i hnil
    have e : tail.reverse.dropWhile p = [] := by simpa using hnil
    rw [hlast, e]
    rfl
  · simp

theorem dropAroundWhile_cons {p : Char → Bool} {c : Char} (hc : p c = false)
    (tail : List Char) : dropAroundWhile p (c :: tail) = c :: dropEndWhile p tail := by
  have hfirst : (c :: tail).dropWhile p = c :: tail :=
    List.dropWhile_cons_of_neg (by simp [hc])
  rw [dropAroundWhile, hfirst, dropEndWhile_cons hc]

theorem trim_cons {c : Char} (hc : isBlank c = false) (tail : List Char) :
    trim (c :: tail) = c :: trimEnd tail := by
  rw [trim, trimStart, List.dropWhile_cons_of_neg (by simp [hc]), trimEnd, dropEndWhile_cons hc]
  rfl

theorem dropEndWhile_eq_self {p : Char → Bool} {s : List Char}
    (h : ∀ c, s.getLast? = some c → p c = false) : dropEndWhile p s = s := by
  have hdrop : s.reverse.dropWhile p = s.reverse := by
    rw [← List.head?_reverse] at h
    cases hs : s.reverse with
    | nil => rfl
    | cons c rest =>
      rw [hs] at h
      exact List.dropWhile_cons_of_neg (by simp [h c rfl])
  rw [dropEndWhile, hdrop, List.reverse_reverse]

/-! ## What stands around the rest -/

/-- The text is `t` with nothing around it but characters for which `p` holds. -/
def Surrounds (p : Char → Bool) (s t : List Char) : Prop :=
  ∃ front back, s = front ++ (t ++ back) ∧ (∀ c ∈ front, p c = true) ∧ ∀ c ∈ back, p c = true

namespace Surrounds

variable {p : Char → Bool} {s t : List Char}

theorem refl (p : Char → Bool) (s : List Char) : Surrounds p s s :=
  ⟨[], [], by simp, by simp, by simp⟩

theorem reverse (h : Surrounds p s t) : Surrounds p s.reverse t.reverse := by
  obtain ⟨front, back, rfl, hfront, hback⟩ := h
  refine ⟨back.reverse, front.reverse, by simp, ?_, ?_⟩
  · intro c hc
    exact hback c (List.mem_reverse.1 hc)
  · intro c hc
    exact hfront c (List.mem_reverse.1 hc)

/-- The text begins with what trimming removes, or as the text inside does. -/
theorem head?_or (h : Surrounds p s t) (hne : t ≠ []) {c : Char} (hc : s.head? = some c) :
    p c = true ∨ t.head? = some c := by
  obtain ⟨front, back, rfl, hfront, -⟩ := h
  cases front with
  | nil =>
    cases t with
    | nil => exact absurd rfl hne
    | cons d t => exact Or.inr hc
  | cons d front =>
    rw [List.cons_append, List.head?_cons, Option.some.injEq] at hc
    rw [← hc]
    exact Or.inl (hfront d List.mem_cons_self)

/-- The text ends with what trimming removes, or as the text inside does. -/
theorem getLast?_or (h : Surrounds p s t) (hne : t ≠ []) {c : Char} (hc : s.getLast? = some c) :
    p c = true ∨ t.getLast? = some c := by
  rw [← List.head?_reverse] at hc ⊢
  exact h.reverse.head?_or (by simpa using hne) hc

end Surrounds

theorem exists_append_dropEndWhile (p : Char → Bool) (s : List Char) :
    ∃ back, s = dropEndWhile p s ++ back ∧ ∀ c ∈ back, p c = true := by
  refine ⟨(s.reverse.takeWhile p).reverse, ?_, ?_⟩
  · rw [dropEndWhile, ← List.reverse_append, List.takeWhile_append_dropWhile, List.reverse_reverse]
  · intro c hc
    exact List.all_eq_true.1 List.all_takeWhile c (List.mem_reverse.1 hc)

theorem surrounds_dropAroundWhile (p : Char → Bool) (s : List Char) :
    Surrounds p s (dropAroundWhile p s) := by
  obtain ⟨back, hrest, hback⟩ := exists_append_dropEndWhile p (s.dropWhile p)
  refine ⟨s.takeWhile p, back, ?_, fun c hc => List.all_eq_true.1 List.all_takeWhile c hc, hback⟩
  rw [dropAroundWhile, ← hrest, List.takeWhile_append_dropWhile]

theorem dropEndWhile_append {p : Char → Bool} {s back : List Char}
    (hback : ∀ c ∈ back, p c = true) : dropEndWhile p (s ++ back) = dropEndWhile p s := by
  rw [dropEndWhile, List.reverse_append,
    List.dropWhile_append_of_pos fun c hc => hback c (List.mem_reverse.1 hc)]
  rfl

/-- Trimming leaves the text inside if it would remove neither its first nor its last character. -/
theorem Surrounds.dropAroundWhile_eq {p : Char → Bool} {s t : List Char} (h : Surrounds p s t)
    (hfirst : ∀ c, t.head? = some c → p c = false)
    (hlast : ∀ c, t.getLast? = some c → p c = false) : dropAroundWhile p s = t := by
  obtain ⟨front, back, rfl, hfront, hback⟩ := h
  rw [dropAroundWhile, List.dropWhile_append_of_pos hfront]
  cases t with
  | nil =>
    rw [List.nil_append, ← List.append_nil back, List.dropWhile_append_of_pos hback]
    rfl
  | cons c t =>
    rw [List.cons_append, List.dropWhile_cons_of_neg (by simp [hfirst c rfl]), ← List.cons_append,
      dropEndWhile_append hback, dropEndWhile_eq_self hlast]

/-! ## Parts of the text -/

theorem dropEndWhile_isPrefix (p : Char → Bool) (s : List Char) : dropEndWhile p s <+: s := by
  obtain ⟨back, hs, -⟩ := exists_append_dropEndWhile p s
  exact ⟨back, hs.symm⟩

theorem dropAroundWhile_isInfix (p : Char → Bool) (s : List Char) : dropAroundWhile p s <:+: s :=
  (dropEndWhile_isPrefix p _).isInfix.trans (List.dropWhile_suffix p).isInfix

theorem trim_isInfix (s : List Char) : trim s <:+: s :=
  (dropEndWhile_isPrefix isBlank _).isInfix.trans (List.dropWhile_suffix isBlank).isInfix

end ReviewBot.Text
