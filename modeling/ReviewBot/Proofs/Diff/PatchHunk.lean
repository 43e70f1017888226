import ReviewBot.Proofs.Diff.HunkHeader
import ReviewBot.Proofs.Diff.HunkLine
import ReviewBot.Proofs.Diff.Reading

set_option autoImplicit false

/-!
# Hunks of patches

A `PatchHunk` is a hunk as a patch states it: a header that counts the content, the lines of the
content with their signs, and remarks anywhere between them. A count of one may be left out, and
the text of a content line is arbitrary, so that a line may look like any header. Hunks are read
back one by one: each completes the hunk before it, and then makes the chunk that describes it
(`PatchHunk.completes_rows`). At the end of a hunk no line of it is owed any more.
-/

namespace ReviewBot.Diff

/-- A row below a hunk header: a line of the hunk, or a remark, which follows a backslash. -/
inductive BodyRow where
  | content (line : HunkLine)
  | remark (text : List Char)

namespace BodyRow

/-- The row as it is written. -/
def row : BodyRow → List Char
  | content line => line.signed
  | remark text => '\\' :: text

/-- The line of the hunk that the row is. -/
def line? : BodyRow → Option HunkLine
  | content line => some line
  | remark _ => none

/-- The lines of the hunk among rows. -/
def contents (rows : List BodyRow) : List HunkLine := rows.filterMap line?

theorem closed_remark (text : List Char) :
    Text.closed ('\\' :: text) = '\\' :: Text.closed text :=
  Text.closed_append (show ['\\'].getLast? ≠ some '\r' by decide) text

end BodyRow

/-- A hunk as it is written in a patch. -/
structure PatchHunk where
  /-- Number of the first line before the change. -/
  oldStart : Nat
  /-- Number of the first line after the change. -/
  newStart : Nat
  /-- The header leaves out that there is one line before the change. -/
  oldShort : Bool
  /-- The header leaves out that there is one line after the change. -/
  newShort : Bool
  /-- What follows the header on its line. -/
  heading : List Char
  /-- The rows below the header. -/
  body : List BodyRow
  oldStart_le : oldStart ≤ maxWord
  newStart_le : newStart ≤ maxWord
  oldTotal_le : HunkLine.oldTotal (BodyRow.contents body) ≤ maxWord
  newTotal_le : HunkLine.newTotal (BodyRow.contents body) ≤ maxWord
  heading_single : '\n' ∉ heading
  body_single : ∀ b ∈ body, '\n' ∉ b.row

namespace PatchHunk

/-- The lines before the change that the hunk covers. -/
def oldRange (w : PatchHunk) : StatedRange :=
  ⟨w.oldStart, HunkLine.oldTotal (BodyRow.contents w.body), w.oldShort⟩

/-- The lines after the change that the hunk covers. -/
def newRange (w : PatchHunk) : StatedRange :=
  ⟨w.newStart, HunkLine.newTotal (BodyRow.contents w.body), w.newShort⟩

/-- The header up to its second pair of at signs; it counts the lines of the hunk. -/
def header (w : PatchHunk) : List Char := statedHeader w.oldRange w.newRange

/-- The rows of the hunk: its header and its body. -/
def rows (w : PatchHunk) : List (List Char) :=
  (w.header ++ w.heading) :: w.body.map BodyRow.row

/-- The lines of the hunk, without the carriage returns of line endings. -/
def lines (w : PatchHunk) : List HunkLine := (BodyRow.contents w.body).map HunkLine.ended

/-- The texts of the added lines. -/
def added (w : PatchHunk) : List String := w.lines.filterMap HunkLine.added?

/-- The texts of the removed lines. -/
def removed (w : PatchHunk) : List String := w.lines.filterMap HunkLine.removed?

/-- The chunk that describes the hunk in a file, if it adds or removes lines. -/
def chunk? (path : String) (change : ChangeKind) (w : PatchHunk) : Option Chunk :=
  if w.added = [] ∧ w.removed = [] then none
  else
    some
      { filePath := path
        fileType := fileTypeOf path
        startLine := max w.newStart 1
        addedLines := w.added
        removedLines := w.removed
        context := String.ofList (contextOf w.lines)
        change := change }

theorem isWord_oldRange (w : PatchHunk) : w.oldRange.IsWord := ⟨w.oldStart_le, w.oldTotal_le⟩

theorem isWord_newRange (w : PatchHunk) : w.newRange.IsWord := ⟨w.newStart_le, w.newTotal_le⟩

theorem no_feed (w : PatchHunk) : ∀ row ∈ w.rows, '\n' ∉ row := by
  intro row hrow
  rw [rows, List.mem_cons, List.mem_map] at hrow
  rcases hrow with rfl | ⟨b, hb, rfl⟩
  · rw [List.mem_append, not_or]
    exact ⟨not_mem_statedHeader (by decide) (by decide) w.oldRange w.newRange, w.heading_single⟩
  · exact w.body_single b hb

end PatchHunk

/-! ## Reading the body -/

namespace OpenHunk

/-- Adds lines one after the other. -/
def pushAll (h : OpenHunk) (lines : List HunkLine) : OpenHunk := lines.foldl push h

theorem pushAll_startLine (h : OpenHunk) (lines : List HunkLine) :
    (h.pushAll lines).startLine = h.startLine := by
  induction lines generalizing h with
  | nil => rfl
  | cons l lines ih => exact ih (h.push l)

theorem pushAll_lines (h : OpenHunk) (lines : List HunkLine) :
    (h.pushAll lines).lines = h.lines ++ lines := by
  induction lines generalizing h with
  | nil => simp [pushAll]
  | cons l lines ih =>
    show ((h.push l).pushAll lines).lines = h.lines ++ l :: lines
    rw [ih (h.push l)]
    simp [OpenHunk.lines, push]

theorem pushAll_left (h : OpenHunk) (lines : List HunkLine) :
    (h.pushAll lines).oldLeft = h.oldLeft - HunkLine.oldTotal lines ∧
      (h.pushAll lines).newLeft = h.newLeft - HunkLine.newTotal lines := by
  induction lines generalizing h with
  | nil => exact ⟨rfl, rfl⟩
  | cons l lines ih =>
    obtain ⟨hold, hnew⟩ := ih (h.push l)
    simp only [push] at hold hnew
    constructor
    · rw [HunkLine.oldTotal, ← Nat.sub_sub]
      exact hold
    · rw [HunkLine.newTotal, ← Nat.sub_sub]
      exact hnew

theorem isOwed_eq_false {h : OpenHunk} (hold : h.oldLeft = 0) (hnew : h.newLeft = 0) :
    h.isOwed = false := by
  simp [isOwed, hold, hnew]

end OpenHunk

/-- The body of a hunk is read as its lines, as long as the header promises them. -/
theorem reads_body (p : Place) (h : OpenHunk) (body : List BodyRow)
    (hold : HunkLine.oldTotal (BodyRow.contents body) ≤ h.oldLeft)
    (hnew : HunkLine.newTotal (BodyRow.contents body) ≤ h.newLeft) :
    Reads ⟨p, some h⟩ ((body.map BodyRow.row).map Text.closed) []
      ⟨p, some (h.pushAll ((BodyRow.contents body).map HunkLine.ended))⟩ := by
  -- Induction over the rows: after each line the header still promises the lines to come.
  induction body generalizing h with
  | nil => exact Reads.nil _
  | cons b body ih =>
    cases b with
    | content l =>
      have e : BodyRow.contents (.content l :: body) = l :: BodyRow.contents body := rfl
      rw [e] at hold hnew ⊢
      simp only [HunkLine.oldTotal, HunkLine.newTotal] at hold hnew
      have hline : h.accept? l.ended.signed = some (h.push l.ended) :=
        h.accept?_signed l.ended (by simp only [HunkLine.oldCount_ended]; omega)
          (by simp only [HunkLine.newCount_ended]; omega)
      have hlater := ih (h.push l.ended)
        (by simp only [OpenHunk.push, HunkLine.oldCount_ended]; omega)
        (by simp only [OpenHunk.push, HunkLine.newCount_ended]; omega)
      rw [List.map_cons, List.map_cons, BodyRow.row, HunkLine.closed_signed]
      exact Reads.of_step (Reader.step_content hline) hlater
    | remark text =>
      rw [List.map_cons, List.map_cons, BodyRow.row, BodyRow.closed_remark]
      exact Reads.of_step (Reader.step_content (h.accept?_remark _)) (ih h hold hnew)

/-! ## Reading whole hunks -/

/-- The hunks to come are in the given file. -/
structure Reader.IsIn (path : List Char) (change : ChangeKind) (r : Reader) : Prop where
  path_eq : r.place.path = some path
  change_eq : r.place.change = change

/-- A file that begins here is a file of its own: it is not part of a git section, and its first
side is not taken for a line of the open hunk. -/
structure Reader.IsSettled (r : Reader) : Prop where
  outside : r.place.inGitSection = false
  nothingOwed : r.NothingOwed

namespace PatchHunk

/-- The header is read wherever it stands, and the hunk it opens promises the lines that it
counts. -/
theorem step_header (w : PatchHunk) (r : Reader) (tail : List Char) :
    r.step (w.header ++ tail) =
      (r.pending, ⟨{ r.place with inGitSection := false },
        some (.ofHeader ⟨w.oldRange.count, w.newStart, w.newRange.count⟩)⟩) := by
  have hread : HunkHeader.read? (w.header ++ tail) =
      some ⟨w.oldRange.count, w.newStart, w.newRange.count⟩ :=
    HunkHeader.read?_stated w.isWord_oldRange w.isWord_newRange tail
  have e : w.header ++ tail = "@@".toList ++
      (' ' :: (statedRanges w.oldRange w.newRange ++ " @@".toList ++ tail)) := by
    simp [header, statedHeader]
  rw [e] at hread ⊢
  rw [Reader.step_hunkLine, hread]
  rfl

/-- The rows of a hunk close the hunk before it and leave it open with all its lines, of which none
is owed any more. -/
theorem reads_rows (w : PatchHunk) (r : Reader) :
    ∃ h : OpenHunk, h.startLine = max w.newStart 1 ∧ h.lines = w.lines ∧ h.isOwed = false ∧
      Reads r (w.rows.map Text.closed) r.pending
        ⟨{ r.place with inGitSection := false }, some h⟩ := by
  let opened : OpenHunk := .ofHeader ⟨w.oldRange.count, w.newStart, w.newRange.count⟩
  have hbody := reads_body { r.place with inGitSection := false } opened w.body
    (Nat.le_refl _) (Nat.le_refl _)
  obtain ⟨hold, hnew⟩ := opened.pushAll_left w.lines
  rw [lines, HunkLine.oldTotal_map_ended] at hold
  rw [lines, HunkLine.newTotal_map_ended] at hnew
  refine ⟨opened.pushAll w.lines, ?_, ?_, ?_, ?_⟩
  · rw [OpenHunk.pushAll_startLine]
    rfl
  · rw [OpenHunk.pushAll_lines]
    rfl
  · exact OpenHunk.isOwed_eq_false (hold.trans (Nat.sub_self _)) (hnew.trans (Nat.sub_self _))
  · have hreturn : w.header.getLast? ≠ some '\r' := fun hlast =>
      not_mem_statedHeader (by decide) (by decide) w.oldRange w.newRange
        (List.mem_of_getLast? hlast)
    rw [rows, List.map_cons, Text.closed_append hreturn]
    have hreads := Reads.of_step (w.step_header r (Text.closed w.heading)) hbody
    rw [List.append_nil] at hreads
    exact hreads

/-- An open hunk with the lines of a written one makes the chunk that describes it. -/
theorem ofHunk?_eq_chunk? (w : PatchHunk) {h : OpenHunk}
    (hstart : h.startLine = max w.newStart 1) (hlines : h.lines = w.lines) (path : String)
    (change : ChangeKind) : Chunk.ofHunk? path change h = w.chunk? path change := by
  simp [Chunk.ofHunk?, chunk?, added, removed, hstart, hlines]

/-- A hunk in a file completes its own chunk. -/
theorem completes_rows (w : PatchHunk) (path : List Char) (change : ChangeKind) :
    Completes (Reader.IsIn path change) (w.rows.map Text.closed)
      (w.chunk? (String.ofList path) change).toList
      fun r => r.IsIn path change ∧ r.IsSettled := by
  intro r hr
  obtain ⟨h, hstart, hlines, howed, hreads⟩ := w.reads_rows r
  refine ⟨r.pending, ⟨{ r.place with inGitSection := false }, some h⟩, hreads, ?_,
    ⟨hr.path_eq, hr.change_eq⟩, rfl, ?_⟩
  · simp [Reader.pending, hr.path_eq, hr.change_eq, w.ofHunk?_eq_chunk? hstart hlines]
  · -- The header counts the lines of its own hunk, so they have used up all that it promised.
    intro h' hh'
    rw [← Option.some.inj hh']
    exact howed

end PatchHunk

/-- Hunks after the headers of a file complete their chunks in order, and the next file can begin
after them. -/
theorem completes_patchHunks (hunks : List PatchHunk) (path : List Char) (change : ChangeKind) :
    Completes (fun r => r.IsIn path change ∧ r.IsSettled)
      ((hunks.flatMap PatchHunk.rows).map Text.closed)
      (hunks.filterMap (PatchHunk.chunk? (String.ofList path) change))
      fun r => r.IsIn path change ∧ r.IsSettled := by
  rw [List.map_flatMap, List.filterMap_eq_flatMap_toList]
  exact Completes.flatMap fun w _ =>
    (w.completes_rows path change).mono (fun _ h => h.1) fun _ h => h

end ReviewBot.Diff
