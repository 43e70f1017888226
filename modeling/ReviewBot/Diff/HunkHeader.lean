import ReviewBot.Numeric.Unsigned
import ReviewBot.Text.Search

set_option autoImplicit false

/-!
# Headers of hunks

A hunk header is a line `@@ -A +B @@` with any text after it. `A` and `B` are the ranges of lines
that the hunk covers before and after the change, each a first line and, after a comma, the number
of lines; a missing number is one.
-/

namespace ReviewBot.Diff

/-- The line numbers of a hunk header that reading needs. -/
structure HunkHeader where
  /-- How many lines the hunk covers before the change. -/
  oldCount : Nat
  /-- The first line that the hunk covers after the change. -/
  newStart : Nat
  /-- How many lines the hunk covers after the change. -/
  newCount : Nat
  deriving DecidableEq

/-- The first line and the number of lines of a range. -/
def range? (s : List Char) : Option (Nat × Nat) :=
  match Text.splitChar? ',' s with
  | some (start, count) => do
    some (← Numeric.unsigned? maxWord start, ← Numeric.unsigned? maxWord count)
  | none => (Numeric.unsigned? maxWord s).map (·, 1)

/-- A range after its sign. -/
def signedRange? (sign : Char) : List Char → Option (Nat × Nat)
  | c :: rest => if c = sign then range? rest else none
  | [] => none

/-- Reads a hunk header. -/
def HunkHeader.read? (line : List Char) : Option HunkHeader := do
  let inner ← "@@ ".toList.isPrefixOf? line
  let (ranges, _) ← Text.splitFirst? " @@".toList inner
  let (old, new) ← Text.splitChar? ' ' ranges
  let (_, oldCount) ← signedRange? '-' old
  let (newStart, newCount) ← signedRange? '+' new
  some ⟨oldCount, newStart, newCount⟩

end ReviewBot.Diff
