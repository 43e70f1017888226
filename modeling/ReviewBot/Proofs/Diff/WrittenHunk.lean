import ReviewBot.Proofs.Diff.PatchHunk

set_option autoImplicit false

/-!
# Written hunks

A `WrittenHunk` is a hunk as git writes it: the header has all four numbers, and no line ends with a
carriage return, so that every line is read without loss. It is a special case of a hunk of a patch
(`WrittenHunk.toPatch`).
-/

namespace ReviewBot.Diff

/-- The row stands on one line, and as a line of the hunk it is read without loss. -/
def BodyRow.IsSingle : BodyRow → Prop
  | content line => Text.IsLine line.text
  | remark text => '\n' ∉ text

theorem BodyRow.IsSingle.no_feed {b : BodyRow} (h : b.IsSingle) : '\n' ∉ b.row := by
  cases b with
  | content line => exact HunkLine.not_mem_signed (by decide) (Text.IsLine.no_feed h)
  | remark text =>
    rw [row, List.mem_cons, not_or]
    exact ⟨by decide, h⟩

/-- A hunk as it is written in a diff. -/
structure WrittenHunk where
  /-- Number of the first line before the change. -/
  oldStart : Nat
  /-- Number of the first line after the change. -/
  newStart : Nat
  /-- What follows the header on its line. -/
  heading : List Char
  /-- The rows below the header. -/
  body : List BodyRow
  oldStart_le : oldStart ≤ maxWord
  newStart_le : newStart ≤ maxWord
  oldTotal_le : HunkLine.oldTotal (BodyRow.contents body) ≤ maxWord
  newTotal_le : HunkLine.newTotal (BodyRow.contents body) ≤ maxWord
  heading_single : '\n' ∉ heading
  body_single : ∀ b ∈ body, b.IsSingle

namespace WrittenHunk

/-- The lines of the hunk. -/
def contents (w : WrittenHunk) : List HunkLine := BodyRow.contents w.body

/-- The header up to its second pair of at signs; it counts the lines of the hunk. -/
def header (w : WrittenHunk) : List Char :=
  writtenHeader w.oldStart (HunkLine.oldTotal w.contents) w.newStart
    (HunkLine.newTotal w.contents)

/-- The rows of the hunk: its header and its body. -/
def rows (w : WrittenHunk) : List (List Char) :=
  (w.header ++ w.heading) :: w.body.map BodyRow.row

/-- The texts of the added lines. -/
def added (w : WrittenHunk) : List String := w.contents.filterMap HunkLine.added?

/-- The texts of the removed lines. -/
def removed (w : WrittenHunk) : List String := w.contents.filterMap HunkLine.removed?

/-- The chunk that describes the hunk in a file, if it adds or removes lines. -/
def chunk? (path : String) (change : ChangeKind) (w : WrittenHunk) : Option Chunk :=
  if w.added = [] ∧ w.removed = [] then none
  else
    some
      { filePath := path
        fileType := fileTypeOf path
        startLine := max w.newStart 1
        addedLines := w.added
        removedLines := w.removed
        context := String.ofList (contextOf w.contents)
        change := change }

/-- The hunk as one of a patch. -/
def toPatch (w : WrittenHunk) : PatchHunk where
  oldStart := w.oldStart
  newStart := w.newStart
  oldShort := false
  newShort := false
  heading := w.heading
  body := w.body
  oldStart_le := w.oldStart_le
  newStart_le := w.newStart_le
  oldTotal_le := w.oldTotal_le
  newTotal_le := w.newTotal_le
  heading_single := w.heading_single
  body_single := fun b hb => (w.body_single b hb).no_feed

theorem rows_toPatch (w : WrittenHunk) : w.toPatch.rows = w.rows := by
  rw [rows, header, writtenHeader_eq_stated]
  rfl

theorem lines_toPatch (w : WrittenHunk) : w.toPatch.lines = w.contents := by
  have hended : ∀ l ∈ w.contents, l.ended = id l := by
    intro l hl
    obtain ⟨b, hb, hline⟩ := List.mem_filterMap.1 hl
    have hsingle := w.body_single b hb
    cases b with
    | content line =>
      rw [← Option.some.inj hline]
      exact HunkLine.ended_eq_self hsingle
    | remark text => simp [BodyRow.line?] at hline
  exact (List.map_congr_left hended).trans (List.map_id _)

theorem chunk?_toPatch (w : WrittenHunk) (path : String) (change : ChangeKind) :
    w.toPatch.chunk? path change = w.chunk? path change := by
  unfold PatchHunk.chunk? PatchHunk.added PatchHunk.removed
  rw [w.lines_toPatch]
  rfl

theorem no_feed (w : WrittenHunk) : ∀ row ∈ w.rows, '\n' ∉ row := by
  rw [← w.rows_toPatch]
  exact w.toPatch.no_feed

/-- A hunk in a file completes its own chunk. -/
theorem completes_rows (w : WrittenHunk) (path : List Char) (change : ChangeKind) :
    Completes (Reader.IsIn path change) (w.rows.map Text.closed)
      (w.chunk? (String.ofList path) change).toList (Reader.IsIn path change) := by
  rw [← w.rows_toPatch, ← w.chunk?_toPatch]
  exact (w.toPatch.completes_rows path change).mono (fun _ h => h) fun _ h => h.1

end WrittenHunk

/-- Hunks after the headers of a file complete their chunks in order. -/
theorem completes_hunks (hunks : List WrittenHunk) (path : List Char) (change : ChangeKind) :
    Completes (Reader.IsIn path change) ((hunks.flatMap WrittenHunk.rows).map Text.closed)
      (hunks.filterMap (WrittenHunk.chunk? (String.ofList path) change))
      (Reader.IsIn path change) := by
  rw [List.map_flatMap, List.filterMap_eq_flatMap_toList]
  exact Completes.flatMap fun w _ => w.completes_rows path change

end ReviewBot.Diff
