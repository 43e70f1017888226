import Mathlib.Computability.Language
import ReviewBot.Text.Pattern

set_option autoImplicit false

/-!
# The languages of patterns

A piece describes the runs of its class with as many characters as its bounds allow, a sequence of
pieces the products of these languages and a pattern the sum over its choices (`describes_iff`). The
search looks for all of them at all places: it succeeds exactly if some part of the text is in the
language of the pattern (`occursIn_iff`).
-/

namespace ReviewBot.Text

open scoped Computability

/-- The texts of one character out of a class. -/
def oneOf (C : Set Char) : Language Char := {s | ∃ c ∈ C, s = [c]}

/-- From `least` to `most` texts of a language in a row. -/
def repeated (least most : Nat) (l : Language Char) : Language Char :=
  {s | ∃ n, least ≤ n ∧ n ≤ most ∧ s ∈ l ^ n}

theorem mem_oneOf_pow {C : Set Char} {n : Nat} {s : List Char} :
    s ∈ oneOf C ^ n ↔ s.length = n ∧ ∀ c ∈ s, c ∈ C := by
  induction n generalizing s with
  | zero =>
    rw [pow_zero, Language.mem_one, List.length_eq_zero_iff]
    constructor
    · rintro rfl
      exact ⟨rfl, List.forall_mem_nil _⟩
    · exact And.left
  | succ n ih =>
    rw [pow_succ', Language.mem_mul]
    constructor
    · rintro ⟨_, ⟨c, hc, rfl⟩, rest, hrest, rfl⟩
      obtain ⟨hlength, hall⟩ := ih.1 hrest
      exact ⟨congrArg Nat.succ hlength, List.forall_mem_cons.2 ⟨hc, hall⟩⟩
    · rintro ⟨hlength, hall⟩
      obtain ⟨c, rest, rfl⟩ := List.exists_cons_of_length_eq_add_one hlength
      obtain ⟨hc, hrest⟩ := List.forall_mem_cons.1 hall
      exact ⟨[c], ⟨c, hc, rfl⟩, rest, ih.2 ⟨Nat.succ_inj.1 hlength, hrest⟩, rfl⟩

theorem mem_kstar_oneOf {C : Set Char} {s : List Char} : s ∈ (oneOf C)∗ ↔ ∀ c ∈ s, c ∈ C := by
  rw [Language.kstar_eq_iSup_pow, Language.mem_iSup]
  constructor
  · rintro ⟨n, hn⟩
    exact (mem_oneOf_pow.1 hn).2
  · intro h
    exact ⟨s.length, mem_oneOf_pow.2 ⟨rfl, h⟩⟩

/-! ## Pieces -/

namespace Piece

/-- The runs of a piece. -/
def language (p : Piece) : Language Char :=
  {run | (∀ c ∈ run, p.accepts c = true) ∧ p.least ≤ run.length ∧
    ∀ most, p.most = some most → run.length ≤ most}

variable (accepts : Char → Bool)

theorem language_exactly (n : Nat) :
    (exactly n accepts).language = oneOf {c | accepts c = true} ^ n := by
  ext run
  rw [mem_oneOf_pow]
  constructor
  · rintro ⟨haccepts, hleast, hmost⟩
    exact ⟨Nat.le_antisymm (hmost n rfl) hleast, haccepts⟩
  · rintro ⟨rfl, haccepts⟩
    exact ⟨haccepts, Nat.le_refl _, fun most h => Nat.le_of_eq (Option.some.inj h)⟩

theorem language_one : (one accepts).language = oneOf {c | accepts c = true} :=
  (language_exactly accepts 1).trans (pow_one _)

theorem language_many : (many accepts).language = (oneOf {c | accepts c = true})∗ := by
  ext run
  rw [mem_kstar_oneOf]
  constructor
  · exact And.left
  · intro h
    exact ⟨h, Nat.zero_le _, fun most hmost => nomatch hmost⟩

theorem language_between (least most : Nat) :
    (between least most accepts).language = repeated least most (oneOf {c | accepts c = true}) := by
  ext run
  constructor
  · rintro ⟨haccepts, hleast, hmost⟩
    exact ⟨run.length, hleast, hmost most rfl, mem_oneOf_pow.2 ⟨rfl, haccepts⟩⟩
  · rintro ⟨n, hleast, hmost, hn⟩
    obtain ⟨rfl, haccepts⟩ := mem_oneOf_pow.1 hn
    exact ⟨haccepts, hleast, fun limit h => Option.some.inj h ▸ hmost⟩

theorem language_optional :
    (optional accepts).language = 1 + oneOf {c | accepts c = true} := by
  have hbetween : (optional accepts).language = repeated 0 1 (oneOf {c | accepts c = true}) :=
    language_between accepts 0 1
  rw [hbetween]
  ext run
  rw [Language.mem_add]
  constructor
  · rintro ⟨n, -, hmost, hn⟩
    rcases Nat.le_one_iff_eq_zero_or_eq_one.1 hmost with rfl | rfl
    · rw [pow_zero] at hn
      exact Or.inl hn
    · rw [pow_one] at hn
      exact Or.inr hn
  · rintro (h | h)
    · rw [← pow_zero (oneOf {c | accepts c = true})] at h
      exact ⟨0, Nat.le_refl 0, Nat.zero_le 1, h⟩
    · rw [← pow_one (oneOf {c | accepts c = true})] at h
      exact ⟨1, Nat.zero_le 1, Nat.le_refl 1, h⟩

theorem language_atLeast (n : Nat) :
    (atLeast n accepts).language =
      oneOf {c | accepts c = true} ^ n * (oneOf {c | accepts c = true})∗ := by
  ext run
  rw [Language.mem_mul]
  constructor
  · rintro ⟨haccepts, hleast, -⟩
    refine ⟨run.take n, mem_oneOf_pow.2 ⟨List.length_take_of_le hleast, ?_⟩, run.drop n,
      mem_kstar_oneOf.2 ?_, List.take_append_drop n run⟩
    · exact fun c hc => haccepts c (List.mem_of_mem_take hc)
    · exact fun c hc => haccepts c (List.mem_of_mem_drop hc)
  · rintro ⟨front, hfront, back, hback, rfl⟩
    obtain ⟨rfl, haccepts⟩ := mem_oneOf_pow.1 hfront
    refine ⟨?_, ?_, fun most hmost => nomatch hmost⟩
    · exact List.forall_mem_append.2 ⟨haccepts, mem_kstar_oneOf.1 hback⟩
    · show front.length ≤ (front ++ back).length
      rw [List.length_append]
      exact Nat.le_add_right _ _

/-- What a sequence of pieces spells. -/
def languageOf (pieces : List Piece) : Language Char := (pieces.map language).prod

theorem languageOf_nil : languageOf [] = 1 := rfl

theorem languageOf_cons (p : Piece) (pieces : List Piece) :
    languageOf (p :: pieces) = p.language * languageOf pieces := by
  rw [languageOf, List.map_cons, List.prod_cons]
  rfl

theorem languageOf_append (front back : List Piece) :
    languageOf (front ++ back) = languageOf front * languageOf back := by
  rw [languageOf, List.map_append, List.prod_append]
  rfl

end Piece

theorem spells_iff {pieces : List Piece} {s : List Char} :
    Spells pieces s ↔ s ∈ Piece.languageOf pieces := by
  constructor
  · intro h
    induction h with
    | nil => exact Language.nil_mem_one
    | cons p rest run after accepted enough bounded spelled ih =>
      rw [Piece.languageOf_cons]
      exact Language.append_mem_mul ⟨accepted, enough, bounded⟩ ih
  · intro h
    induction pieces generalizing s with
    | nil =>
      have hs : s = [] := h
      exact hs ▸ Spells.nil
    | cons p rest ih =>
      rw [Piece.languageOf_cons, Language.mem_mul] at h
      obtain ⟨run, ⟨accepted, enough, bounded⟩, after, hafter, rfl⟩ := h
      exact Spells.cons p rest run after accepted enough bounded (ih hafter)

/-! ## Searching -/

/-- The search for a run tries every length that the bounds allow. -/
theorem startsWithRun_iff {accepts : Char → Bool} {next : List Char → Bool} {s : List Char}
    {least : Nat} {most : Option Nat} :
    startsWithRun accepts next s least most = true ↔
      ∃ run after, s = run ++ after ∧ (∀ c ∈ run, accepts c = true) ∧ least ≤ run.length ∧
        (∀ n, most = some n → run.length ≤ n) ∧ next after = true := by
  -- Both bounds go down by one with each character that the run takes.
  induction s generalizing least most with
  | nil =>
    rw [startsWithRun, Bool.and_eq_true, beq_iff_eq]
    constructor
    · rintro ⟨rfl, hnext⟩
      exact ⟨[], [], rfl, List.forall_mem_nil _, Nat.le_refl 0, fun n _ => Nat.zero_le n, hnext⟩
    · rintro ⟨run, after, hsplit, -, hleast, -, hnext⟩
      obtain ⟨rfl, rfl⟩ := List.append_eq_nil_iff.1 hsplit.symm
      exact ⟨Nat.le_zero.1 hleast, hnext⟩
  | cons c rest ih =>
    rw [startsWithRun, Bool.or_eq_true, Bool.and_eq_true, Bool.and_eq_true, Bool.and_eq_true, ih,
      beq_iff_eq, bne_iff_ne]
    constructor
    · rintro (⟨rfl, hnext⟩ | ⟨⟨hmost, hc⟩, run, after, rfl, haccepts, hleast, hbound, hnext⟩)
      · exact ⟨[], c :: rest, rfl, List.forall_mem_nil _, Nat.le_refl 0, fun n _ => Nat.zero_le n,
          hnext⟩
      · refine ⟨c :: run, after, rfl, List.forall_mem_cons.2 ⟨hc, haccepts⟩, ?_, ?_, hnext⟩
        · rw [List.length_cons]
          omega
        · rintro n rfl
          have hn : n ≠ 0 := fun e => hmost (congrArg some e)
          have hle := hbound (n - 1) rfl
          rw [List.length_cons]
          omega
    · rintro ⟨run, after, hsplit, haccepts, hleast, hbound, hnext⟩
      cases run with
      | nil =>
        rw [List.nil_append] at hsplit
        exact Or.inl ⟨Nat.le_zero.1 hleast, hsplit ▸ hnext⟩
      | cons d run =>
        obtain ⟨rfl, rfl⟩ := List.cons.inj hsplit
        obtain ⟨hc, haccepts⟩ := List.forall_mem_cons.1 haccepts
        refine Or.inr ⟨⟨?_, hc⟩, run, after, rfl, haccepts, ?_, ?_, hnext⟩
        · intro hzero
          exact Nat.not_succ_le_zero _ (hbound 0 hzero)
        · rw [List.length_cons] at hleast
          omega
        · intro n hn
          obtain ⟨m, hm, rfl⟩ := Option.map_eq_some_iff.1 hn
          have hle := hbound m hm
          rw [List.length_cons] at hle
          omega

theorem startsWithPieces_iff {pieces : List Piece} {s : List Char} :
    startsWithPieces pieces s = true ↔ ∃ text after, s = text ++ after ∧ Spells pieces text := by
  induction pieces generalizing s with
  | nil =>
    constructor
    · intro _
      exact ⟨[], s, rfl, Spells.nil⟩
    · intro _
      rfl
  | cons p rest ih =>
    rw [startsWithPieces, startsWithRun_iff]
    constructor
    · rintro ⟨run, _, rfl, haccepts, hleast, hbound, hnext⟩
      obtain ⟨text, after, rfl, hspells⟩ := ih.1 hnext
      exact ⟨run ++ text, after, (List.append_assoc _ _ _).symm,
        Spells.cons p rest run text haccepts hleast hbound hspells⟩
    · rintro ⟨_, after, rfl, hspells⟩
      cases hspells with
      | cons _ _ run text accepted enough bounded spelled =>
        exact ⟨run, text ++ after, List.append_assoc _ _ _, accepted, enough, bounded,
          ih.2 ⟨text, after, rfl, spelled⟩⟩

namespace Pattern

/-- What the pattern describes. -/
def language (p : Pattern) : Language Char := (p.choices.map Piece.languageOf).sum

theorem language_one (pieces : List Piece) :
    language ⟨[pieces]⟩ = Piece.languageOf pieces := add_zero _

theorem language_two (pieces others : List Piece) :
    language ⟨[pieces, others]⟩ = Piece.languageOf pieces + Piece.languageOf others := by
  rw [language, List.map_cons, List.sum_cons]
  exact congrArg _ (language_one others)

theorem describes_iff {p : Pattern} {s : List Char} : p.Describes s ↔ s ∈ p.language := by
  have hsum : ∀ choices : List (List Piece),
      (∃ pieces ∈ choices, Spells pieces s) ↔ s ∈ (choices.map Piece.languageOf).sum := by
    intro choices
    induction choices with
    | nil => simp
    | cons pieces rest ih =>
      rw [List.map_cons, List.sum_cons, Language.mem_add, ← ih, ← spells_iff]
      simp
  exact hsum p.choices

theorem startsText_iff {p : Pattern} {s : List Char} :
    p.startsText s = true ↔ ∃ text, p.Describes text ∧ text <+: s := by
  rw [startsText, List.any_eq_true]
  constructor
  · rintro ⟨pieces, hpieces, hstarts⟩
    obtain ⟨text, after, rfl, hspells⟩ := startsWithPieces_iff.1 hstarts
    exact ⟨text, ⟨pieces, hpieces, hspells⟩, after, rfl⟩
  · rintro ⟨text, ⟨pieces, hpieces, hspells⟩, after, rfl⟩
    exact ⟨pieces, hpieces, startsWithPieces_iff.2 ⟨text, after, rfl, hspells⟩⟩

/-- The search finds the pattern exactly if some part of the text is in its language. -/
theorem occursIn_iff {p : Pattern} {s : List Char} :
    p.occursIn s = true ↔ ∃ text ∈ p.language, text <:+: s := by
  -- A part of a text stands at its beginning or is a part of the rest.
  induction s with
  | nil =>
    rw [occursIn, startsText_iff]
    constructor
    · rintro ⟨text, hdescribes, hstarts⟩
      exact ⟨text, describes_iff.1 hdescribes, hstarts.isInfix⟩
    · rintro ⟨text, hmem, hpart⟩
      rw [List.infix_nil] at hpart
      exact ⟨text, describes_iff.2 hmem, hpart ▸ List.prefix_refl _⟩
  | cons c rest ih =>
    rw [occursIn, Bool.or_eq_true, startsText_iff, ih]
    constructor
    · rintro (⟨text, hdescribes, hstarts⟩ | ⟨text, hmem, hpart⟩)
      · exact ⟨text, describes_iff.1 hdescribes, hstarts.isInfix⟩
      · exact ⟨text, hmem, List.infix_cons hpart⟩
    · rintro ⟨text, hmem, hpart⟩
      rcases List.infix_cons_iff.1 hpart with hstarts | hlater
      · exact Or.inl ⟨text, describes_iff.2 hmem, hstarts⟩
      · exact Or.inr ⟨text, hmem, hlater⟩

end Pattern

end ReviewBot.Text
