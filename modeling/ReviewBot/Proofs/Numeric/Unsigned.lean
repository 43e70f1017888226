import ReviewBot.Numeric.Unsigned

set_option autoImplicit false

/-!
# Reading decimal digits

An unsigned integer is read from a text exactly if the text denotes it (`unsigned?_eq_some_iff`):
the text is a row of digits, or a plus sign and a row of digits, and the number is within the limit.
The decimal digits of a number are one of the texts that denote it (`denotes_toDigits`).
-/

namespace ReviewBot.Numeric

/-! ## Texts that denote a number -/

/-- A row of digits, of which there is at least one, with its value. -/
structure IsRow (limit : Nat) (s : List Char) (n : Nat) : Prop where
  ne_nil : s ≠ []
  isDigit : ∀ c ∈ s, c.isDigit = true
  value_eq : Nat.ofDigitChars 10 s 0 = n
  le_limit : n ≤ limit

/-- The text is written for the number: a row of digits, or a plus sign in front of one. -/
inductive Denotes (limit : Nat) : List Char → Nat → Prop
  | row {s : List Char} {n : Nat} : IsRow limit s n → Denotes limit s n
  | plus {s : List Char} {n : Nat} : IsRow limit s n → Denotes limit ('+' :: s) n

namespace Denotes

variable {limit : Nat} {s : List Char} {n : Nat}

theorem le_limit (h : Denotes limit s n) : n ≤ limit := by
  cases h with
  | row h => exact h.le_limit
  | plus h => exact h.le_limit

/-- Only digits and the plus sign stand in the text. -/
theorem not_mem (h : Denotes limit s n) {c : Char} (hc : c.isDigit = false) (hplus : c ≠ '+') :
    c ∉ s := by
  have hrow : ∀ {t : List Char}, IsRow limit t n → c ∉ t := by
    intro t ht hmem
    rw [ht.isDigit c hmem] at hc
    exact Bool.noConfusion hc
  cases h with
  | row h => exact hrow h
  | plus h =>
    rw [List.mem_cons, not_or]
    exact ⟨hplus, hrow h⟩

end Denotes

/-! ## What is read -/

theorem ofDigits_eq (s : List Char) : ofDigits s = Nat.ofDigitChars 10 s 0 := by
  rw [Nat.ofDigitChars_eq_foldl]
  rfl

theorem ofDigits_toDigits (n : Nat) : ofDigits (Nat.toDigits 10 n) = n := by
  rw [ofDigits_eq, Nat.ofDigitChars_ten_toDigits]

theorem digits?_eq_some_iff {limit : Nat} {s : List Char} {n : Nat} :
    digits? limit s = some n ↔ IsRow limit s n := by
  rw [digits?, Option.ite_none_right_eq_some, Bool.and_eq_true, Bool.and_eq_true,
    decide_eq_true_eq, Option.some.injEq, List.all_eq_true, ofDigits_eq]
  constructor
  · rintro ⟨⟨⟨hne, hdigits⟩, hle⟩, rfl⟩
    exact ⟨by simpa using hne, hdigits, rfl, hle⟩
  · rintro ⟨hne, hdigits, rfl, hle⟩
    exact ⟨⟨⟨by simpa using hne, hdigits⟩, hle⟩, rfl⟩

/-- A number is read exactly from the texts that denote it. -/
theorem unsigned?_eq_some_iff {limit : Nat} {s : List Char} {n : Nat} :
    unsigned? limit s = some n ↔ Denotes limit s n := by
  constructor
  · intro h
    unfold unsigned? at h
    split at h
    · exact Denotes.plus (digits?_eq_some_iff.1 h)
    · exact Denotes.row (digits?_eq_some_iff.1 h)
  · intro h
    cases h with
    | plus h => exact digits?_eq_some_iff.2 h
    | row h =>
      unfold unsigned?
      split
      · -- A plus sign is no digit, so a row of digits does not begin with one.
        exact absurd (h.isDigit '+' List.mem_cons_self) (by decide)
      · exact digits?_eq_some_iff.2 h

/-! ## Decimal digits -/

theorem isDigit_of_mem_toDigits {c : Char} {n : Nat} (h : c ∈ Nat.toDigits 10 n) :
    c.isDigit = true :=
  Nat.isDigit_of_mem_toDigits (by decide) (by decide) h

theorem not_mem_toDigits {c : Char} (hc : c.isDigit = false) (n : Nat) :
    c ∉ Nat.toDigits 10 n := by
  intro h
  rw [isDigit_of_mem_toDigits h] at hc
  exact Bool.noConfusion hc

/-- The decimal digits of a number denote it. -/
theorem denotes_toDigits {limit n : Nat} (h : n ≤ limit) :
    Denotes limit (Nat.toDigits 10 n) n :=
  .row
    { ne_nil := by simp
      isDigit := fun _ hc => isDigit_of_mem_toDigits hc
      value_eq := Nat.ofDigitChars_ten_toDigits
      le_limit := h }

end ReviewBot.Numeric
