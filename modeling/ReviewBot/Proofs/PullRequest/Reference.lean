import ReviewBot.PullRequest
import ReviewBot.Proofs.Numeric.Unsigned
import ReviewBot.Proofs.Text.Search

set_option autoImplicit false

/-!
# Reading references

A reference is read from the texts that are written for it, with its number as digits, leading zeros
and one plus sign allowed (`Reference.read_eq_ok_iff`). Its parts are then proper: neither of the
names is empty, and each `#` and the first `/` stand where they divide. Proper parts are read back
from the name of a pull request, whatever text the parts have been read from, and any other text is
refused with an error of the configuration (`Reference.read_inverts_text`).
-/

namespace ReviewBot.Reference

/-- The parts can be told apart again when they are written as a reference. -/
structure IsProper (r : Reference) : Prop where
  owner_ne_empty : r.owner ≠ ""
  repo_ne_empty : r.repo ≠ ""
  slash_not_mem_owner : '/' ∉ r.owner.toList
  hash_not_mem_owner : '#' ∉ r.owner.toList
  hash_not_mem_repo : '#' ∉ r.repo.toList
  number_le : r.number ≤ maxLong

/-- The text is written for the reference: its parts in order, the number as any text that denotes
it. -/
def IsWrittenAs (r : Reference) (text : String) : Prop :=
  ∃ numeral : List Char, Numeric.Denotes maxLong numeral r.number ∧
    text.toList = r.owner.toList ++ '/' :: (r.repo.toList ++ '#' :: numeral)

/-! ## How a text divides -/

/-- The text consists of an owner, a repository and what follows the first `#`. -/
structure Divides (text : String) (owner repo number : List Char) : Prop where
  toList_eq : text.toList = owner ++ '/' :: (repo ++ '#' :: number)
  owner_ne_nil : owner ≠ []
  repo_ne_nil : repo ≠ []
  slash_not_mem_owner : '/' ∉ owner
  hash_not_mem_owner : '#' ∉ owner
  hash_not_mem_repo : '#' ∉ repo

/-- Once a text divides, all depends on what follows the `#`. -/
theorem Divides.read_eq {text : String} {owner repo number : List Char}
    (h : Divides text owner repo number) :
    read text = match Numeric.unsigned? maxLong number with
      | none => .error (badNumber (String.ofList number))
      | some n => .ok ⟨String.ofList owner, String.ofList repo, n⟩ := by
  have hplace : '#' ∉ owner ++ '/' :: repo := by
    simp [h.hash_not_mem_owner, h.hash_not_mem_repo]
  have htext : text.toList = (owner ++ '/' :: repo) ++ '#' :: number := by simp [h.toList_eq]
  have hnames : ¬ (owner.isEmpty || repo.isEmpty) = true := by
    simp [h.owner_ne_nil, h.repo_ne_nil]
  rw [read, htext, Text.splitChar?_append hplace]
  simp only
  rw [Text.splitChar?_append h.slash_not_mem_owner]
  exact if_neg hnames

/-- A text that does not divide is refused as a whole. -/
theorem exists_divides_or_malformed (text : String) :
    (∃ owner repo number, Divides text owner repo number) ∨
      read text = .error (malformed text) := by
  -- A separator may be missing or a name be empty; in all other cases the text divides.
  cases hhash : Text.splitChar? '#' text.toList with
  | none =>
    refine Or.inr ?_
    rw [read, hhash]
  | some parts =>
    obtain ⟨place, number⟩ := parts
    obtain ⟨htext, hplace⟩ := Text.splitChar?_eq_some_iff.1 hhash
    cases hslash : Text.splitChar? '/' place with
    | none =>
      refine Or.inr ?_
      rw [read, hhash]
      simp only
      rw [hslash]
    | some names =>
      obtain ⟨owner, repo⟩ := names
      obtain ⟨rfl, howner⟩ := Text.splitChar?_eq_some_iff.1 hslash
      by_cases hnames : (owner.isEmpty || repo.isEmpty) = true
      · refine Or.inr ?_
        rw [read, hhash]
        simp only
        rw [hslash]
        simp only
        rw [if_pos hnames]
      · simp only [List.mem_append, List.mem_cons, not_or] at hplace
        obtain ⟨hfront, -, hback⟩ := hplace
        simp only [Bool.or_eq_true, List.isEmpty_iff, not_or] at hnames
        refine Or.inl ⟨owner, repo, number, ?_, hnames.1, hnames.2, howner, hfront, hback⟩
        rw [htext, List.append_assoc, List.cons_append]

/-! ## What is read -/

variable {r : Reference} {text : String}

theorem Divides.isProper {owner repo number : List Char} (h : Divides text owner repo number)
    {n : Nat} (hn : n ≤ maxLong) : IsProper ⟨String.ofList owner, String.ofList repo, n⟩ where
  owner_ne_empty := by simpa using h.owner_ne_nil
  repo_ne_empty := by simpa using h.repo_ne_nil
  slash_not_mem_owner := by simpa using h.slash_not_mem_owner
  hash_not_mem_owner := by simpa using h.hash_not_mem_owner
  hash_not_mem_repo := by simpa using h.hash_not_mem_repo
  number_le := hn

theorem IsProper.divides (h : r.IsProper) {numeral : List Char}
    (htext : text.toList = r.owner.toList ++ '/' :: (r.repo.toList ++ '#' :: numeral)) :
    Divides text r.owner.toList r.repo.toList numeral where
  toList_eq := htext
  owner_ne_nil := by simpa using h.owner_ne_empty
  repo_ne_nil := by simpa using h.repo_ne_empty
  slash_not_mem_owner := h.slash_not_mem_owner
  hash_not_mem_owner := h.hash_not_mem_owner
  hash_not_mem_repo := h.hash_not_mem_repo

/-- A reference is read exactly from the texts that are written for it, and its parts are proper. -/
theorem read_eq_ok_iff : read text = .ok r ↔ r.IsProper ∧ r.IsWrittenAs text := by
  constructor
  · intro h
    rcases exists_divides_or_malformed text with ⟨owner, repo, number, hdivides⟩ | hmalformed
    · rw [hdivides.read_eq] at h
      split at h
      · cases h
      · rename_i n hnumber
        cases h
        have hdenotes := Numeric.unsigned?_eq_some_iff.1 hnumber
        refine ⟨hdivides.isProper hdenotes.le_limit, number, hdenotes, ?_⟩
        rw [String.toList_ofList, String.toList_ofList]
        exact hdivides.toList_eq
    · rw [hmalformed] at h
      cases h
  · rintro ⟨hproper, numeral, hdenotes, htext⟩
    rw [(hproper.divides htext).read_eq, Numeric.unsigned?_eq_some_iff.2 hdenotes]
    simp only [String.ofList_toList]

/-- A text that is refused is refused with an error of the configuration. -/
theorem exists_config_of_read_error {e : Error} (h : read text = .error e) :
    ∃ reason, e = .config reason := by
  rcases exists_divides_or_malformed text with ⟨owner, repo, number, hdivides⟩ | hmalformed
  · rw [hdivides.read_eq] at h
    split at h
    · cases h
      exact ⟨_, rfl⟩
    · cases h
  · rw [hmalformed] at h
    cases h
    exact ⟨_, rfl⟩

theorem isWrittenAs_text (h : r.number ≤ maxLong) : r.IsWrittenAs r.text := by
  refine ⟨Nat.toDigits 10 r.number, Numeric.denotes_toDigits h, ?_⟩
  simp [Reference.text, Nat.toString_eq_repr, Nat.toList_repr]

/-- Proper parts are read back from their reference. -/
theorem read_text (h : r.IsProper) : read r.text = .ok r :=
  read_eq_ok_iff.2 ⟨h, isWrittenAs_text h.number_le⟩

/-- The name of a pull request is read as its parts exactly if they are proper. Any text is read
only if it is written for proper parts, which are then read from their own reference as well; any
other text is refused. -/
theorem read_inverts_text :
    (∀ pr : PullRequest, read pr.name = .ok pr.reference ↔ pr.reference.IsProper) ∧
      ∀ text : String,
        (∀ r, read text = .ok r ↔ r.IsProper ∧ r.IsWrittenAs text) ∧
          (∀ r, read text = .ok r → read r.text = .ok r) ∧
          ((∀ r, read text ≠ .ok r) → ∃ reason, read text = .error (.config reason)) := by
  refine ⟨fun pr => ⟨fun h => ?_, fun h => read_text h⟩, fun text => ⟨fun r => ?_, fun r h => ?_,
    fun h => ?_⟩⟩
  · exact (read_eq_ok_iff.1 h).1
  · exact read_eq_ok_iff
  · exact read_text (read_eq_ok_iff.1 h).1
  · cases hread : read text with
    | ok r => exact absurd hread (h r)
    | error e =>
      obtain ⟨reason, rfl⟩ := exists_config_of_read_error hread
      exact ⟨reason, rfl⟩

/-- A repository with a slash and a number with a sign are read, and the parts are read again from
their own reference; a number beyond the limit is refused. -/
theorem read_inverts_text_of_signed_number :
    let r : Reference := ⟨"o", "r/s", 7⟩
    read "o/r/s#+007" = .ok r ∧ read r.text = .ok r ∧
      (∀ r', read "o/r#18446744073709551616" ≠ .ok r') ∧
      ∃ reason, read "o/r#18446744073709551616" = .error (.config reason) := by
  intro r
  have hsigned : read "o/r/s#+007" = .ok r := by rfl
  have hlarge : read "o/r#18446744073709551616" =
      .error (badNumber "18446744073709551616") := by rfl
  have hrefused : ∀ r', read "o/r#18446744073709551616" ≠ .ok r' := by
    intro r' h
    rw [hlarge] at h
    cases h
  obtain ⟨-, htexts⟩ := read_inverts_text
  exact ⟨hsigned, (htexts _).2.1 r hsigned, hrefused, (htexts _).2.2 hrefused⟩

end ReviewBot.Reference
