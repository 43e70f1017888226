import ReviewBot.Diff.HunkHeader
import ReviewBot.Proofs.Numeric.Unsigned
import ReviewBot.Proofs.Text.Search

set_option autoImplicit false

/-!
# The form of hunk headers

A line is a hunk header if it reads `@@ -A +B @@`, whatever follows, where `A` and `B` are ranges of
lines: the number of the first line and, after a comma, the number of lines, which is one if it is
left out. `States` is this form, and a header is read exactly from the lines that state it
(`HunkHeader.read?_eq_some_iff`). So no header is read with a number beyond the limit
(`HunkHeader.newStart_le`), and a header that is written from two ranges of 32-bit numbers is read
back, whatever text follows it on its line (`HunkHeader.read?_stated`).
-/

namespace ReviewBot.Diff

/-! ## Ranges -/

/-- The text is written for a range with the given first line and number of lines. -/
inductive IsRange : List Char → Nat → Nat → Prop
  | short {s : List Char} {start : Nat} : Numeric.Denotes maxWord s start → IsRange s start 1
  | full {s t : List Char} {start count : Nat} :
      Numeric.Denotes maxWord s start → Numeric.Denotes maxWord t count →
      IsRange (s ++ ',' :: t) start count

namespace IsRange

variable {s : List Char} {start count : Nat}

theorem start_le (h : IsRange s start count) : start ≤ maxWord := by
  cases h with
  | short hstart => exact hstart.le_limit
  | full hstart _ => exact hstart.le_limit

/-- Only digits, plus signs and a comma stand in a range. -/
theorem not_mem (h : IsRange s start count) {c : Char} (hc : c.isDigit = false)
    (hsigns : c ∉ ['+', ',']) : c ∉ s := by
  simp only [List.mem_cons, List.not_mem_nil, or_false, not_or] at hsigns
  obtain ⟨hplus, hcomma⟩ := hsigns
  cases h with
  | short hstart => exact hstart.not_mem hc hplus
  | full hstart hcount => simp [hstart.not_mem hc hplus, hcount.not_mem hc hplus, hcomma]

end IsRange

theorem range?_eq_some_iff {s : List Char} {start count : Nat} :
    range? s = some (start, count) ↔ IsRange s start count := by
  constructor
  · intro h
    unfold range? at h
    split at h
    · rename_i before after hsplit
      obtain ⟨rfl, -⟩ := Text.splitChar?_eq_some_iff.1 hsplit
      obtain ⟨_, hstart, h⟩ := Option.bind_eq_some_iff.1 h
      obtain ⟨_, hcount, h⟩ := Option.bind_eq_some_iff.1 h
      cases h
      exact .full (Numeric.unsigned?_eq_some_iff.1 hstart) (Numeric.unsigned?_eq_some_iff.1 hcount)
    · obtain ⟨_, hstart, h⟩ := Option.map_eq_some_iff.1 h
      cases h
      exact .short (Numeric.unsigned?_eq_some_iff.1 hstart)
  · intro h
    cases h with
    | short hstart =>
      have hcomma : ',' ∉ s := hstart.not_mem (by decide) (by decide)
      rw [range?, Text.splitChar?_eq_none hcomma]
      simp [Numeric.unsigned?_eq_some_iff.2 hstart]
    | @full s t _ _ hstart hcount =>
      have hcomma : ',' ∉ s := hstart.not_mem (by decide) (by decide)
      rw [range?, Text.splitChar?_append hcomma]
      simp [Numeric.unsigned?_eq_some_iff.2 hstart, Numeric.unsigned?_eq_some_iff.2 hcount]

theorem signedRange?_eq_some_iff {sign : Char} {s : List Char} {start count : Nat} :
    signedRange? sign s = some (start, count) ↔ ∃ t, s = sign :: t ∧ IsRange t start count := by
  cases s with
  | nil => simp [signedRange?]
  | cons c t =>
    rw [signedRange?, Option.ite_none_right_eq_some, range?_eq_some_iff]
    constructor
    · rintro ⟨rfl, h⟩
      exact ⟨t, rfl, h⟩
    · rintro ⟨t', e, h⟩
      obtain ⟨rfl, rfl⟩ := List.cons.inj e
      exact ⟨rfl, h⟩

/-! ## Headers -/

/-- Two ranges with their signs. -/
def signedRanges (old new : List Char) : List Char := ('-' :: old) ++ ' ' :: ('+' :: new)

/-- The line is written for the header: two signed ranges between at signs, and any text. -/
inductive States : List Char → HunkHeader → Prop
  | intro {old new : List Char} {oldStart oldCount newStart newCount : Nat} :
      IsRange old oldStart oldCount → IsRange new newStart newCount → ∀ tail : List Char,
      States ("@@ -".toList ++ (old ++ (" +".toList ++ (new ++ (" @@".toList ++ tail)))))
        ⟨oldCount, newStart, newCount⟩

section

variable {old new : List Char} {oldStart oldCount newStart newCount : Nat}

theorem signedRanges_append (old new tail : List Char) :
    "@@ ".toList ++ (signedRanges old new ++ (" @@".toList ++ tail)) =
      "@@ -".toList ++ (old ++ (" +".toList ++ (new ++ (" @@".toList ++ tail)))) := by
  simp [signedRanges]

theorem not_mem_signedRanges (hold : IsRange old oldStart oldCount)
    (hnew : IsRange new newStart newCount) {c : Char} (hc : c.isDigit = false)
    (hsigns : c ∉ ['+', ',', '-', ' ']) : c ∉ signedRanges old new := by
  simp only [List.mem_cons, List.not_mem_nil, or_false, not_or] at hsigns
  obtain ⟨hplus, hcomma, hminus, hblank⟩ := hsigns
  have hleft : c ∉ old := hold.not_mem hc (by simp [hplus, hcomma])
  have hright : c ∉ new := hnew.not_mem hc (by simp [hplus, hcomma])
  simp [signedRanges, hleft, hright, hminus, hblank, hplus]

theorem splitFirst?_signedRanges (hold : IsRange old oldStart oldCount)
    (hnew : IsRange new newStart newCount) (tail : List Char) :
    Text.splitFirst? " @@".toList (signedRanges old new ++ (" @@".toList ++ tail)) =
      some (signedRanges old new, tail) :=
  Text.splitFirst?_append (by decide) (not_mem_signedRanges hold hnew (by decide) (by decide))
    ['@'] tail

theorem splitChar?_signedRanges (hold : IsRange old oldStart oldCount) :
    Text.splitChar? ' ' (signedRanges old new) = some ('-' :: old, '+' :: new) := by
  have hblank : ' ' ∉ old := hold.not_mem (by decide) (by decide)
  exact Text.splitChar?_append (by simp [hblank]) _

end

/-- A header is read exactly from the lines that are written for it. -/
theorem HunkHeader.read?_eq_some_iff {line : List Char} {header : HunkHeader} :
    HunkHeader.read? line = some header ↔ States line header := by
  constructor
  · intro h
    obtain ⟨inner, hinner, h⟩ := Option.bind_eq_some_iff.1 h
    obtain ⟨⟨ranges, tail⟩, hranges, h⟩ := Option.bind_eq_some_iff.1 h
    obtain ⟨⟨old, new⟩, hsplit, h⟩ := Option.bind_eq_some_iff.1 h
    obtain ⟨⟨oldStart, oldCount⟩, hold, h⟩ := Option.bind_eq_some_iff.1 h
    obtain ⟨⟨newStart, newCount⟩, hnew, h⟩ := Option.bind_eq_some_iff.1 h
    cases h
    -- Each search gives back the text that it has divided, from the innermost one outwards.
    obtain ⟨oldText, rfl, hOldText⟩ := signedRange?_eq_some_iff.1 hold
    obtain ⟨newText, rfl, hNewText⟩ := signedRange?_eq_some_iff.1 hnew
    obtain ⟨rfl, -⟩ := Text.splitChar?_eq_some_iff.1 hsplit
    obtain rfl := Text.append_of_splitFirst? hranges
    obtain rfl := List.isPrefixOf?_eq_some_iff_append_eq.1 hinner
    have hline := signedRanges_append oldText newText tail
    rw [signedRanges] at hline
    rw [hline]
    exact .intro hOldText hNewText tail
  · rintro ⟨hold, hnew, tail⟩
    rw [← signedRanges_append, HunkHeader.read?, Text.isPrefixOf?_append]
    simp only [Option.bind_eq_bind, Option.bind_some]
    rw [splitFirst?_signedRanges hold hnew]
    simp only [Option.bind_some]
    rw [splitChar?_signedRanges hold]
    simp only [Option.bind_some]
    rw [signedRange?_eq_some_iff.2 ⟨_, rfl, hold⟩, Option.bind_some,
      signedRange?_eq_some_iff.2 ⟨_, rfl, hnew⟩, Option.bind_some]

/-- The first line of a header that is read is within the limit. -/
theorem HunkHeader.newStart_le {line : List Char} {header : HunkHeader}
    (h : HunkHeader.read? line = some header) : header.newStart ≤ maxWord := by
  obtain ⟨-, hnew, -⟩ := HunkHeader.read?_eq_some_iff.1 h
  exact hnew.start_le

/-! ## Written headers -/

/-- A range of lines with both of its numbers. -/
def writtenRange (start count : Nat) : List Char :=
  Nat.toDigits 10 start ++ ',' :: Nat.toDigits 10 count

/-- The ranges of a header with their signs. -/
def writtenRanges (oldStart oldCount newStart newCount : Nat) : List Char :=
  ('-' :: writtenRange oldStart oldCount) ++ ' ' :: ('+' :: writtenRange newStart newCount)

/-- The header of a hunk up to its second pair of at signs. -/
def writtenHeader (oldStart oldCount newStart newCount : Nat) : List Char :=
  "@@ ".toList ++ (writtenRanges oldStart oldCount newStart newCount ++ " @@".toList)

/-- A range of lines as a header states it. -/
structure StatedRange where
  /-- The first line. -/
  start : Nat
  /-- The number of lines. -/
  count : Nat
  /-- The number of lines is left out if it is one. -/
  short : Bool

namespace StatedRange

/-- The range as it is written. -/
def text (r : StatedRange) : List Char :=
  if r.short = true ∧ r.count = 1 then Nat.toDigits 10 r.start else writtenRange r.start r.count

/-- Both numbers are within the limit on line numbers and counts. -/
structure IsWord (r : StatedRange) : Prop where
  start_le : r.start ≤ maxWord
  count_le : r.count ≤ maxWord

theorem isRange_text {r : StatedRange} (h : r.IsWord) : IsRange r.text r.start r.count := by
  unfold text
  split
  · rename_i hshort
    rw [hshort.2]
    exact .short (Numeric.denotes_toDigits h.start_le)
  · exact .full (Numeric.denotes_toDigits h.start_le) (Numeric.denotes_toDigits h.count_le)

theorem not_mem_text {c : Char} (hc : c.isDigit = false) (hcomma : c ≠ ',') (r : StatedRange) :
    c ∉ r.text := by
  unfold text
  split
  · exact Numeric.not_mem_toDigits hc r.start
  · simp [writtenRange, Numeric.not_mem_toDigits hc, hcomma]

end StatedRange

/-- The ranges of a header with their signs, as they are stated. -/
def statedRanges (old new : StatedRange) : List Char :=
  ('-' :: old.text) ++ ' ' :: ('+' :: new.text)

/-- The header of a hunk up to its second pair of at signs, with the ranges as they are stated. -/
def statedHeader (old new : StatedRange) : List Char :=
  "@@ ".toList ++ (statedRanges old new ++ " @@".toList)

/-- A header with all numbers states its ranges in full. -/
theorem writtenHeader_eq_stated (oldStart oldCount newStart newCount : Nat) :
    writtenHeader oldStart oldCount newStart newCount =
      statedHeader ⟨oldStart, oldCount, false⟩ ⟨newStart, newCount, false⟩ := rfl

/-- A header is read back from its written form, whatever follows it. -/
theorem HunkHeader.read?_stated {old new : StatedRange} (hold : old.IsWord) (hnew : new.IsWord)
    (tail : List Char) :
    HunkHeader.read? (statedHeader old new ++ tail) =
      some ⟨old.count, new.start, new.count⟩ := by
  have hline : statedHeader old new ++ tail =
      "@@ ".toList ++ (signedRanges old.text new.text ++ (" @@".toList ++ tail)) := by
    rw [statedHeader, List.append_assoc, List.append_assoc]
    rfl
  rw [hline, signedRanges_append, HunkHeader.read?_eq_some_iff]
  exact .intro (StatedRange.isRange_text hold) (StatedRange.isRange_text hnew) tail

theorem not_mem_statedHeader {c : Char} (hc : c.isDigit = false)
    (h : c ∉ [',', '-', '+', ' ', '@']) (old new : StatedRange) : c ∉ statedHeader old new := by
  simp only [List.mem_cons, List.not_mem_nil, or_false, not_or] at h
  obtain ⟨hcomma, hminus, hplus, hblank, hat⟩ := h
  have hranges : c ∉ statedRanges old new := by
    simp [statedRanges, StatedRange.not_mem_text hc hcomma, hminus, hplus, hblank]
  simp [statedHeader, hranges, hblank, hat]

/-- A line is read as a header exactly if it is written for one, and the header that is read is the
one that it is written for. So a header that is written from two ranges within the limit is read
back, whatever follows it, be it another pair of at signs. -/
theorem HunkHeader.read?_recognises :
    (∀ line header, HunkHeader.read? line = some header ↔ States line header) ∧
      ∀ old new : StatedRange, old.IsWord → new.IsWord → ∀ tail : List Char,
        HunkHeader.read? (statedHeader old new ++ tail) =
          some ⟨old.count, new.start, new.count⟩ := by
  constructor
  · intro line header
    exact HunkHeader.read?_eq_some_iff
  · intro old new hold hnew tail
    exact HunkHeader.read?_stated hold hnew tail

/-- Plus signs and leading zeros are read over, and the greatest number is read back before a text
that looks like the end of the header. -/
theorem HunkHeader.read?_recognises_of_second_end :
    let line := "@@ -+007 ++1,0 @@ -1 +1 @@".toList
    let old : StatedRange := ⟨0, 0, false⟩
    let new : StatedRange := ⟨4294967295, 1, true⟩
    HunkHeader.read? line = some ⟨1, 1, 0⟩ ∧ States line ⟨1, 1, 0⟩ ∧ old.IsWord ∧ new.IsWord ∧
      HunkHeader.read? (statedHeader old new ++ " f() @@ -9,9 +9,9 @@".toList) =
        some ⟨0, 4294967295, 1⟩ := by
  intro line old new
  have hold : old.IsWord := ⟨by decide, by decide⟩
  have hnew : new.IsWord := ⟨by decide, by decide⟩
  obtain ⟨hline, hstated⟩ := HunkHeader.read?_recognises
  have hread : HunkHeader.read? line = some ⟨1, 1, 0⟩ := by decide
  exact ⟨hread, (hline _ _).1 hread, hold, hnew, hstated old new hold hnew _⟩

end ReviewBot.Diff
