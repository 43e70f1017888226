import Mathlib.Data.Set.Insert
import ReviewBot.Text.LetterCase

set_option autoImplicit false

/-!
# Characters without regard to case

Where case is ignored, an ASCII letter stands for its small and its capital form, `k` also for the
Kelvin sign and `s` also for the long s; every other ASCII character stands for itself alone
(`foldChar_eq_iff`).
-/

namespace ReviewBot.Text

/-- The characters for which an ASCII character stands when case is ignored. -/
def caseForms (c : Char) : Set Char :=
  {d | d = c.toLower ∨ d = c.toUpper ∨ c.toLower = 'k' ∧ d = Char.ofNat 0x212A ∨
    c.toLower = 's' ∧ d = Char.ofNat 0x17F}

/-- What holds of all ASCII characters may be checked for one after the other. -/
theorem forall_ascii {P : Char → Prop} (h : ∀ n < 128, P (Char.ofNat n)) :
    ∀ c : Char, c.toNat < 128 → P c := by
  intro c hc
  rw [← Char.ofNat_toNat c]
  exact h c.toNat hc

theorem toNat_toLower (c : Char) :
    c.toLower.toNat = if 65 ≤ c.toNat ∧ c.toNat ≤ 90 then c.toNat + 32 else c.toNat := by
  unfold Char.toLower
  split
  · rename_i h
    have hcapital : 65 ≤ c.toNat ∧ c.toNat ≤ 90 := h
    have hle : c.val.toNat ≤ 90 := hcapital.2
    rw [if_pos hcapital]
    show (c.val.toNat + 32) % 4294967296 = c.val.toNat + 32
    omega
  · rename_i h
    have hother : ¬ (65 ≤ c.toNat ∧ c.toNat ≤ 90) := h
    rw [if_neg hother]

theorem toNat_toUpper (c : Char) :
    c.toUpper.toNat = if 97 ≤ c.toNat ∧ c.toNat ≤ 122 then c.toNat - 32 else c.toNat := by
  unfold Char.toUpper
  split
  · rename_i h
    have hsmall : 97 ≤ c.toNat ∧ c.toNat ≤ 122 := h
    have hle : 97 ≤ c.val.toNat ∧ c.val.toNat ≤ 122 := hsmall
    rw [if_pos hsmall]
    have hgap : ('A'.val - 'a'.val).toNat = 4294967264 := by decide
    show (c.val + ('A'.val - 'a'.val)).toNat = c.val.toNat - 32
    rw [UInt32.toNat_add, hgap]
    omega
  · rename_i h
    have hother : ¬ (97 ≤ c.toNat ∧ c.toNat ≤ 122) := h
    rw [if_neg hother]

theorem toLower_eq_toLower_iff {c d : Char} :
    c.toLower = d.toLower ↔ c = d.toLower ∨ c = d.toUpper := by
  rw [← Char.toNat_inj, ← Char.toNat_inj, ← Char.toNat_inj, toNat_toLower, toNat_toLower,
    toNat_toUpper]
  split <;> split <;> split <;> omega

/-- The case forms of an ASCII character by its own letters are ASCII characters. -/
theorem toNat_forms_lt {d : Char} (hd : d.toNat < 128) :
    d.toLower.toNat < 128 ∧ d.toUpper.toNat < 128 := by
  rw [toNat_toLower, toNat_toUpper]
  constructor
  · split <;> omega
  · split <;> omega

/-- What an ASCII character stands for. -/
theorem foldChar_eq_iff {c d : Char} (hd : d.toNat < 128) :
    foldChar c = foldChar d ↔ c ∈ caseForms d := by
  have hfold : foldChar d = d.toLower := by
    rw [foldChar, if_neg (by omega), if_neg (by omega)]
  have hown : 128 ≤ c.toNat → c ≠ d.toLower ∧ c ≠ d.toUpper := by
    intro hc
    have hlt := toNat_forms_lt hd
    constructor
    · rintro rfl
      omega
    · rintro rfl
      omega
  have hkelvin : (Char.ofNat 0x212A).toNat = 0x212A := by decide
  have hlong : (Char.ofNat 0x17F).toNat = 0x17F := by decide
  rw [hfold, foldChar]
  by_cases hk : c.toNat = 0x212A
  · rw [if_pos hk]
    constructor
    · intro h
      exact Or.inr (Or.inr (Or.inl ⟨h.symm, Char.toNat_inj.1 (hk.trans hkelvin.symm)⟩))
    · rintro (h | h | ⟨h, -⟩ | ⟨-, h⟩)
      · exact absurd h (hown (by omega)).1
      · exact absurd h (hown (by omega)).2
      · exact h.symm
      · rw [h, hlong] at hk
        omega
  · rw [if_neg hk]
    by_cases hs : c.toNat = 0x17F
    · rw [if_pos hs]
      constructor
      · intro h
        exact Or.inr (Or.inr (Or.inr ⟨h.symm, Char.toNat_inj.1 (hs.trans hlong.symm)⟩))
      · rintro (h | h | ⟨-, h⟩ | ⟨h, -⟩)
        · exact absurd h (hown (by omega)).1
        · exact absurd h (hown (by omega)).2
        · rw [h] at hk
          exact absurd hkelvin hk
        · exact h.symm
    · rw [if_neg hs, toLower_eq_toLower_iff]
      constructor
      · rintro (h | h)
        · exact Or.inl h
        · exact Or.inr (Or.inl h)
      · rintro (h | h | ⟨-, h⟩ | ⟨-, h⟩)
        · exact Or.inl h
        · exact Or.inr h
        · rw [h] at hk
          exact absurd hkelvin hk
        · rw [h] at hs
          exact absurd hlong hs

end ReviewBot.Text
