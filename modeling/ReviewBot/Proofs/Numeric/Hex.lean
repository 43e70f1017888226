import ReviewBot.Numeric.Hex

set_option autoImplicit false

/-!
# Reading hexadecimal digits

A row of digits is read as given bytes exactly if its small letters are the digits with which these
bytes are written (`ofHex?_eq_some_iff`). So reading undoes writing, and two rows that are read as
the same bytes differ at most in the case of their letters.
-/

namespace ReviewBot

namespace Numeric

/-- All hexadecimal digits, with letters of either case. -/
def hexDigits : List Char := "0123456789abcdefABCDEF".toList

theorem toNat_lt_of_hexDigit? {c : Char} {n : Nat} (h : hexDigit? c = some n) :
    c.toNat < 128 := by
  have hbound : c ≤ '9' ∨ c ≤ 'f' ∨ c ≤ 'F' := by
    unfold hexDigit? at h
    split at h
    · rename_i hdigit
      simp only [Char.isDigit, Bool.and_eq_true, decide_eq_true_eq] at hdigit
      exact Or.inl hdigit.2
    · split at h
      · rename_i hsmall
        simp only [Bool.and_eq_true, decide_eq_true_eq] at hsmall
        exact Or.inr (Or.inl hsmall.2)
      · split at h
        · rename_i hcapital
          simp only [Bool.and_eq_true, decide_eq_true_eq] at hcapital
          exact Or.inr (Or.inr hcapital.2)
        · simp at h
  rcases hbound with hc | hc | hc
  · exact Nat.lt_of_le_of_lt hc (by decide)
  · exact Nat.lt_of_le_of_lt hc (by decide)
  · exact Nat.lt_of_le_of_lt hc (by decide)

theorem mem_hexDigits_of_hexDigit? {c : Char} {n : Nat} (h : hexDigit? c = some n) :
    c ∈ hexDigits := by
  -- Only ASCII characters have a value, so the table is small.
  have table : ∀ m < 128, (hexDigit? (Char.ofNat m)).isSome = true → Char.ofNat m ∈ hexDigits := by
    decide
  have hc : Char.ofNat c.toNat = c := Char.ofNat_toNat c
  rw [← hc]
  refine table c.toNat (toNat_lt_of_hexDigit? h) ?_
  rw [hc, h]
  rfl

theorem hexDigit?_hexDigit {n : Nat} (h : n < 16) : hexDigit? (hexDigit n) = some n := by
  have table : ∀ n < 16, hexDigit? (hexDigit n) = some n := by decide
  exact table n h

theorem exists_value_of_mem_hexDigits {c : Char} (hc : c ∈ hexDigits) :
    ∃ m < 16, hexDigit? c = some m ∧ c.toLower = hexDigit m := by
  -- The table goes through the list, and not through all characters.
  have table : hexDigits.all (fun c => (hexDigit? c).any fun m =>
      decide (m < 16 ∧ c.toLower = hexDigit m)) = true := by decide
  obtain ⟨m, hvalue, hm⟩ := (Option.any_eq_true _ _).1 (List.all_eq_true.1 table c hc)
  obtain ⟨hm, hlower⟩ := of_decide_eq_true hm
  exact ⟨m, hm, hvalue, hlower⟩

/-- A character has a value if it is a digit, and its small form is the digit with that value. -/
theorem hexDigit?_eq_some_iff {c : Char} {n : Nat} :
    hexDigit? c = some n ↔ c ∈ hexDigits ∧ n < 16 ∧ c.toLower = hexDigit n := by
  constructor
  · intro h
    have hc := mem_hexDigits_of_hexDigit? h
    obtain ⟨m, hm, hvalue, hlower⟩ := exists_value_of_mem_hexDigits hc
    have e : m = n := Option.some.inj (hvalue.symm.trans h)
    subst e
    exact ⟨hc, hm, hlower⟩
  · rintro ⟨hc, hn, hlower⟩
    obtain ⟨m, hm, hvalue, hlower'⟩ := exists_value_of_mem_hexDigits hc
    have hdigit := hexDigit?_hexDigit hm
    rw [← hlower', hlower, hexDigit?_hexDigit hn] at hdigit
    rw [hvalue, hdigit]

end Numeric

namespace Bytes

theorem toHex_cons (b : UInt8) (bytes : Bytes) :
    toHex (b :: bytes) =
      Numeric.hexDigit (b.toNat / 16) :: Numeric.hexDigit (b.toNat % 16) :: toHex bytes :=
  rfl

/-- Each byte is written with two digits. -/
theorem length_toHex (bytes : Bytes) : (toHex bytes).length = 2 * bytes.length := by
  induction bytes with
  | nil => rfl
  | cons b rest ih =>
    rw [toHex_cons, List.length_cons, List.length_cons, ih, List.length_cons]
    omega

/-- Bytes are written with hexadecimal digits, and with no capitals. -/
theorem mem_hexDigits_of_mem_toHex {bytes : Bytes} {d : Char} (h : d ∈ toHex bytes) :
    d ∈ Numeric.hexDigits ∧ d.toLower = d := by
  have table : ∀ n < 16, Numeric.hexDigit n ∈ Numeric.hexDigits ∧
      (Numeric.hexDigit n).toLower = Numeric.hexDigit n := by decide
  induction bytes with
  | nil => exact absurd h List.not_mem_nil
  | cons b rest ih =>
    have hb : b.toNat < 256 := b.toNat_lt_size
    rw [toHex_cons, List.mem_cons, List.mem_cons] at h
    rcases h with rfl | rfl | h
    · exact table _ (by omega)
    · exact table _ (by omega)
    · exact ih h

/-- Two digits are read as a byte exactly if they have the values of its halves. -/
theorem ofNat_eq_iff {h l : Nat} (hh : h < 16) (hl : l < 16) {b : UInt8} :
    UInt8.ofNat (16 * h + l) = b ↔ h = b.toNat / 16 ∧ l = b.toNat % 16 := by
  have hb : b.toNat < 256 := b.toNat_lt_size
  rw [← UInt8.toNat_inj, UInt8.toNat_ofNat']
  omega

theorem ofHex?_cons_cons {high low : Char} {rest : List Char} {bytes : Bytes} :
    ofHex? (high :: low :: rest) = some bytes ↔
      ∃ h l tail, Numeric.hexDigit? high = some h ∧ Numeric.hexDigit? low = some l ∧
        ofHex? rest = some tail ∧ UInt8.ofNat (16 * h + l) :: tail = bytes := by
  simp [ofHex?, Option.bind_eq_some_iff]

/-- A row of digits is read as bytes exactly if its small letters are the digits of these bytes. -/
theorem ofHex?_eq_some_iff {digits : List Char} {bytes : Bytes} :
    ofHex? digits = some bytes ↔
      (∀ d ∈ digits, d ∈ Numeric.hexDigits) ∧ digits.map Char.toLower = toHex bytes := by
  induction digits using ofHex?.induct generalizing bytes with
  | case1 =>
    cases bytes with
    | nil => simp [ofHex?, toHex]
    | cons b bytes => simp [ofHex?, toHex_cons]
  | case2 d =>
    cases bytes with
    | nil => simp [ofHex?, toHex]
    | cons b bytes => simp [ofHex?, toHex_cons]
  | case3 high low rest ih =>
    rw [ofHex?_cons_cons]
    constructor
    · rintro ⟨h, l, tail, hhigh, hlow, htail, rfl⟩
      obtain ⟨hhigh', hh, hhighLower⟩ := Numeric.hexDigit?_eq_some_iff.1 hhigh
      obtain ⟨hlow', hl, hlowLower⟩ := Numeric.hexDigit?_eq_some_iff.1 hlow
      obtain ⟨hrest, hrestLower⟩ := ih.1 htail
      obtain ⟨ehigh, elow⟩ := (ofNat_eq_iff hh hl).1 rfl
      refine ⟨?_, ?_⟩
      · simp only [List.mem_cons]
        rintro d (rfl | rfl | hd)
        · exact hhigh'
        · exact hlow'
        · exact hrest d hd
      · rw [toHex_cons, ← ehigh, ← elow, List.map_cons, List.map_cons, hhighLower, hlowLower,
          hrestLower]
    · rintro ⟨hdigits, hlower⟩
      cases bytes with
      | nil => simp [toHex] at hlower
      | cons b tail =>
        have hb : b.toNat < 256 := b.toNat_lt_size
        rw [toHex_cons, List.map_cons, List.map_cons, List.cons.injEq, List.cons.injEq] at hlower
        obtain ⟨hhigh, hlow, hrest⟩ := hlower
        refine ⟨b.toNat / 16, b.toNat % 16, tail, ?_, ?_, ?_, ?_⟩
        · exact Numeric.hexDigit?_eq_some_iff.2 ⟨hdigits high (by simp), by omega, hhigh⟩
        · exact Numeric.hexDigit?_eq_some_iff.2 ⟨hdigits low (by simp), by omega, hlow⟩
        · exact ih.2 ⟨fun d hd => hdigits d (by simp [hd]), hrest⟩
        · rw [(ofNat_eq_iff (by omega) (by omega)).2 ⟨rfl, rfl⟩]

end Bytes

end ReviewBot
