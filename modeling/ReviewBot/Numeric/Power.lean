set_option autoImplicit false

/-!
# Powers

Powers of two and of ten. `powMod b e m` is the remainder of a power by `m` (`powMod_eq`), found by
squaring.
-/

namespace ReviewBot.Numeric

/-- A power of two. -/
def twoTo (n : Nat) : Nat := Nat.pow 2 n

/-- A power of ten. -/
def tenTo (n : Nat) : Nat := Nat.pow 10 n

/-- The remainder by `m` of `b` to the power of `e`. -/
def powMod (b e m : Nat) : Nat :=
  if e = 0 then 1 % m
  else
    let square := powMod (b * b % m) (e / 2) m
    if e % 2 = 1 then b * square % m else square
termination_by e
decreasing_by omega

theorem powMod_eq (b e m : Nat) : powMod b e m = Nat.pow b e % m := by
  induction e using Nat.strongRecOn generalizing b with
  | _ e ih =>
    rw [powMod]
    split
    case isTrue h => simp [h]
    case isFalse h =>
      have square : powMod (b * b % m) (e / 2) m = Nat.pow b (2 * (e / 2)) % m := by
        rw [ih (e / 2) (by omega)]
        simp only [Nat.pow_eq]
        rw [← Nat.pow_mod, Nat.pow_mul, Nat.pow_two]
      simp only [square, Nat.pow_eq]
      split
      case isTrue odd =>
        have e_eq : e = 2 * (e / 2) + 1 := by omega
        conv => rhs; rw [e_eq, Nat.pow_succ, Nat.mul_comm]
        rw [Nat.mul_mod, Nat.mod_mod, ← Nat.mul_mod]
      case isFalse even =>
        have e_eq : 2 * (e / 2) = e := by omega
        rw [e_eq]

end ReviewBot.Numeric
