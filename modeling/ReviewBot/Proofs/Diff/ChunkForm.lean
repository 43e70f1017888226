import ReviewBot.Proofs.Diff.Reading

set_option autoImplicit false

/-!
# The form of chunks

Whatever text is read, the parts of each chunk fit together (`Chunk.IsConsistent`): the context is
made of rows with signs, and the rows with one sign are the added or the removed lines, each with
all its characters and in the same order (`isConsistent_of_mem_ofDiff`). So rules, which look at the
lines, and models, which are shown the context, look at the same change.
-/

namespace ReviewBot

namespace Chunk

/-- The rows of the context: what stands before each of its line feeds. -/
def contextRows (c : Chunk) : List (List Char) := (Text.pieces '\n' c.context.toList).dropLast

/-- The rows of the context that begin with a sign, without the sign. -/
def signedRows (sign : Char) (c : Chunk) : List String :=
  c.contextRows.filterMap fun row => ([sign].isPrefixOf? row).map String.ofList

/-- The parts of the chunk fit together. -/
structure IsConsistent (c : Chunk) : Prop where
  startLine_pos : 1 ≤ c.startLine
  changes : c.addedLines ≠ [] ∨ c.removedLines ≠ []
  single : ∀ line ∈ c.addedLines ++ c.removedLines, '\n' ∉ line.toList
  fileType_eq : c.fileType = fileTypeOf c.filePath
  context_eq : c.context.toList = Text.written c.contextRows
  context_signed : ∀ row ∈ c.contextRows, ∃ sign ∈ ['+', '-', ' '], [sign] <+: row
  added_eq : c.signedRows '+' = c.addedLines
  removed_eq : c.signedRows '-' = c.removedLines

/-- The chunk is made of the lines of a hunk in the file. -/
structure IsMadeOf (c : Chunk) (path : String) (h : Diff.OpenHunk) : Prop where
  changes : c.addedLines ≠ [] ∨ c.removedLines ≠ []
  filePath_eq : c.filePath = path
  fileType_eq : c.fileType = fileTypeOf path
  startLine_eq : c.startLine = h.startLine
  addedLines_eq : c.addedLines = h.lines.filterMap Diff.HunkLine.added?
  removedLines_eq : c.removedLines = h.lines.filterMap Diff.HunkLine.removed?
  context_eq : c.context = String.ofList (Diff.contextOf h.lines)

theorem isMadeOf_of_ofHunk? {path : String} {change : ChangeKind} {h : Diff.OpenHunk} {c : Chunk}
    (hc : Chunk.ofHunk? path change h = some c) : c.IsMadeOf path h := by
  unfold Chunk.ofHunk? at hc
  simp only at hc
  split at hc
  · simp at hc
  · rename_i hchanges
    rw [Bool.and_eq_true, List.isEmpty_iff, List.isEmpty_iff, not_and_or] at hchanges
    rw [← Option.some.inj hc]
    exact ⟨hchanges, rfl, rfl, rfl, rfl, rfl, rfl⟩

end Chunk

namespace Diff

/-- A pending chunk is made of the open hunk, in the file that the headers name. -/
theorem Reader.exists_hunk_of_mem_pending {r : Reader} {c : Chunk} (hc : c ∈ r.pending) :
    ∃ h path, r.hunk = some h ∧ r.place.path = some path ∧ c.IsMadeOf (String.ofList path) h := by
  unfold pending at hc
  split at hc
  · rename_i h path hhunk hpath
    exact ⟨h, path, hhunk, hpath, Chunk.isMadeOf_of_ofHunk? (Option.mem_toList.1 hc)⟩
  · exact absurd hc List.not_mem_nil

/-! ## Sound hunks -/

namespace OpenHunk

/-- The hunk begins at a line of the file, and none of its lines holds a line feed. -/
structure IsSound (h : OpenHunk) : Prop where
  startLine_pos : 1 ≤ h.startLine
  single : ∀ l ∈ h.lines, '\n' ∉ l.text

theorem isSound_ofHeader (header : HunkHeader) : (ofHeader header).IsSound where
  startLine_pos := Nat.le_max_right _ _
  single := fun _ hl => absurd hl List.not_mem_nil

theorem IsSound.push {h : OpenHunk} (hs : h.IsSound) {l : HunkLine} (hl : '\n' ∉ l.text) :
    (h.push l).IsSound where
  startLine_pos := hs.startLine_pos
  single := by
    intro l' hl'
    rw [lines_push, List.mem_append, List.mem_singleton] at hl'
    rcases hl' with hl' | rfl
    · exact hs.single l' hl'
    · exact hl

/-- A sound hunk stays sound with a line of a text. -/
theorem IsSound.of_takes {h h' : OpenHunk} (hs : h.IsSound) {line : List Char}
    (hline : '\n' ∉ line) (htakes : h.Takes line h') : h'.IsSound := by
  cases htakes with
  | remark text => exact hs
  | blank _ => exact hs.push List.not_mem_nil
  | content l _ =>
    obtain ⟨sign, -, e⟩ := l.exists_signed_eq
    rw [e, List.mem_cons, not_or] at hline
    exact hs.push hline.2

/-- The context of a chunk that is made of a sound hunk has one row for each line of the hunk. -/
theorem IsSound.contextRows_eq {h : OpenHunk} (hs : h.IsSound) {path : String} {c : Chunk}
    (hc : c.IsMadeOf path h) : c.contextRows = h.lines.map HunkLine.signed := by
  have hrows : ∀ row ∈ h.lines.map HunkLine.signed, '\n' ∉ row := by
    intro row hrow
    obtain ⟨l, hl, rfl⟩ := List.mem_map.1 hrow
    exact HunkLine.not_mem_signed (by decide) (hs.single l hl)
  rw [Chunk.contextRows, hc.context_eq, String.toList_ofList, contextOf_eq_written,
    Text.pieces_written hrows, List.dropLast_concat]

/-- The chunk of a sound hunk is consistent. -/
theorem IsSound.isConsistent {h : OpenHunk} (hs : h.IsSound) {path : String} {c : Chunk}
    (hc : c.IsMadeOf path h) : c.IsConsistent := by
  have hrows : c.contextRows = h.lines.map HunkLine.signed := hs.contextRows_eq hc
  constructor
  case startLine_pos =>
    rw [hc.startLine_eq]
    exact hs.startLine_pos
  case changes =>
    exact hc.changes
  case single =>
    rw [hc.addedLines_eq, hc.removedLines_eq]
    intro line hline
    rcases List.mem_append.1 hline with hline | hline
    · obtain ⟨l, hl, hadded⟩ := List.mem_filterMap.1 hline
      rw [← HunkLine.text_of_added? hadded]
      exact hs.single l hl
    · obtain ⟨l, hl, hremoved⟩ := List.mem_filterMap.1 hline
      rw [← HunkLine.text_of_removed? hremoved]
      exact hs.single l hl
  case fileType_eq =>
    rw [hc.fileType_eq, hc.filePath_eq]
  case context_eq =>
    rw [hrows, ← contextOf_eq_written, hc.context_eq, String.toList_ofList]
  case context_signed =>
    intro row hrow
    rw [hrows] at hrow
    obtain ⟨l, -, rfl⟩ := List.mem_map.1 hrow
    obtain ⟨sign, hsign, hsigned⟩ := l.exists_signed_eq
    exact ⟨sign, hsign, l.text, hsigned.symm⟩
  case added_eq =>
    rw [Chunk.signedRows, hrows, List.filterMap_map, hc.addedLines_eq]
    exact List.filterMap_congr fun l _ => l.isPrefixOf?_plus_signed
  case removed_eq =>
    rw [Chunk.signedRows, hrows, List.filterMap_map, hc.removedLines_eq]
    exact List.filterMap_congr fun l _ => l.isPrefixOf?_minus_signed

end OpenHunk

/-! ## Sound readers -/

namespace Reader

/-- The open hunk is sound. -/
def IsSound (r : Reader) : Prop := ∀ h, r.hunk = some h → h.IsSound

theorem isSound_start : start.IsSound := by
  intro h hhunk
  simp [start] at hhunk

theorem isSound_afterHeader (p : Place) (header : Header) : (afterHeader p header).IsSound := by
  intro h hhunk
  cases header with
  | git tail => simp [afterHeader] at hhunk
  | oldSide tail => simp [afterHeader] at hhunk
  | newSide tail => simp [afterHeader] at hhunk
  | hunk line =>
    obtain ⟨header, -, rfl⟩ := Option.map_eq_some_iff.1 hhunk
    exact OpenHunk.isSound_ofHeader header

/-- A line of a text keeps a reader sound. -/
theorem IsSound.step {r : Reader} (hr : r.IsSound) {line : List Char} (hline : '\n' ∉ line) :
    (r.step line).2.IsSound := by
  rcases r.step_cases line with ⟨h, h', hhunk, htaken, e⟩ | ⟨header, -, -, e⟩ | ⟨-, -, e⟩
  · rw [e]
    intro h'' hopen
    rw [← Option.some.inj hopen]
    exact (hr h hhunk).of_takes hline (OpenHunk.takes_of_accept? htaken)
  · rw [e]
    exact isSound_afterHeader r.place header
  · rw [e]
    exact hr

end Reader

/-- Every chunk of a text is made of a sound hunk. -/
theorem exists_sound_of_mem_ofDiff {diff : String} {c : Chunk} (hc : c ∈ Chunk.ofDiff diff) :
    ∃ (h : OpenHunk) (path : String), h.IsSound ∧ c.IsMadeOf path h := by
  obtain ⟨r, hr, hpending⟩ := Reader.exists_pending_of_mem_chunks
    (fun _ _ hline hs => hs.step (Text.not_mem_of_mem_lines hline)) Reader.isSound_start hc
  obtain ⟨h, path, hhunk, -, hmade⟩ := Reader.exists_hunk_of_mem_pending hpending
  exact ⟨h, String.ofList path, hr h hhunk, hmade⟩

/-- The chunks of any text are consistent. -/
theorem isConsistent_of_mem_ofDiff {diff : String} {c : Chunk} (hc : c ∈ Chunk.ofDiff diff) :
    c.IsConsistent := by
  obtain ⟨h, path, hs, hmade⟩ := exists_sound_of_mem_ofDiff hc
  exact hs.isConsistent hmade

/-- A hunk that is broken off, with a remark, an empty line, a line that ends with two carriage
returns and one that looks like a header. -/
theorem isConsistent_of_mem_ofDiff_of_broken_hunk :
    let diff := "+++ b/x.py\n@@ -1,9 +0,9 @@\n+a\n\\ b\n\n--- c\r\r\n@@ -1 +"
    ∃ c ∈ Chunk.ofDiff diff, c.IsConsistent ∧ c.context = "+a\n \n--- c\r\n" ∧
      c.signedRows '-' = ["-- c\r"] := by
  intro diff
  have hchunks : (Chunk.ofDiff diff).map (fun c => (c.context, c.removedLines)) =
      [("+a\n \n--- c\r\n", ["-- c\r"])] := by decide
  obtain ⟨c, hc, e⟩ := List.map_eq_singleton_iff.1 hchunks
  have hmem : c ∈ Chunk.ofDiff diff := by
    rw [hc]
    exact List.mem_singleton_self c
  have hconsistent := isConsistent_of_mem_ofDiff hmem
  obtain ⟨hcontext, hremoved⟩ := Prod.mk.inj e
  exact ⟨c, hmem, hconsistent, hcontext, hconsistent.removed_eq.trans hremoved⟩

end Diff

end ReviewBot
