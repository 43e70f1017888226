import ReviewBot.Proofs.Diff.ChunkForm

set_option autoImplicit false

/-!
# Where the rows of chunks come from

Reading adds nothing to a text, repeats nothing and moves nothing: the rows of all chunks, put one
after the other, are some of the lines of the text in their order (`contextRows_ofDiff_sublist`). A
line is used for one row at most, although a line that a hunk refuses is looked at a second time as
a header, and a hunk without a file or without changes makes no chunk.
-/

namespace ReviewBot.Diff

/-- The row that a line of a text makes in a context. An empty line makes the row of an unchanged
empty line. -/
def rowOf (line : List Char) : List Char := if line = [] then [' '] else line

theorem rowOf_signed (l : HunkLine) : rowOf l.signed = l.signed := by
  cases l <;> rfl

namespace OpenHunk

/-- The lines read so far with their signs. -/
def rows (h : OpenHunk) : List (List Char) := h.lines.map HunkLine.signed

theorem rows_push (h : OpenHunk) (l : HunkLine) : (h.push l).rows = h.rows ++ [l.signed] := by
  rw [rows, lines_push, List.map_append]
  rfl

/-- A line that a hunk takes adds its own row or none. -/
theorem Takes.rows_sublist {h h' : OpenHunk} {line : List Char} (ht : h.Takes line h') :
    h'.rows.Sublist (h.rows ++ [rowOf line]) := by
  cases ht with
  | remark text => exact List.sublist_append_left _ _
  | blank _ =>
    rw [rows_push]
    exact List.Sublist.refl (h.rows ++ [[' ']])
  | content l _ =>
    rw [rows_push, rowOf_signed]

end OpenHunk

namespace Reader

/-- The rows of the open hunk. -/
def openRows (r : Reader) : List (List Char) := r.hunk.elim [] OpenHunk.rows

theorem pending_eq_nil_or (r : Reader) : r.pending = [] ∨ ∃ c, r.pending = [c] := by
  unfold pending
  split
  · rename_i h path _ _
    cases Chunk.ofHunk? (String.ofList path) r.place.change h with
    | none => exact Or.inl rfl
    | some c => exact Or.inr ⟨c, rfl⟩
  · exact Or.inl rfl

/-- The chunk that is pending has the rows of the open hunk; without a chunk they are dropped. -/
theorem IsSound.contextRows_pending_sublist {r : Reader} (hr : r.IsSound) :
    (r.pending.flatMap Chunk.contextRows).Sublist r.openRows := by
  rcases r.pending_eq_nil_or with hnone | ⟨c, hone⟩
  · rw [hnone]
    exact List.nil_sublist r.openRows
  · have hc : c ∈ r.pending := by
      rw [hone]
      exact List.mem_singleton_self c
    obtain ⟨h, path, hhunk, -, hmade⟩ := exists_hunk_of_mem_pending hc
    have hrows : c.contextRows = r.openRows := by
      rw [(hr h hhunk).contextRows_eq hmade, openRows, hhunk]
      rfl
    rw [hone, List.flatMap_singleton, hrows]

theorem openRows_afterHeader (p : Place) (header : Header) :
    (afterHeader p header).openRows = [] := by
  cases header with
  | git tail => rfl
  | oldSide tail => rfl
  | newSide tail => rfl
  | hunk line =>
    rw [openRows, afterHeader]
    cases HunkHeader.read? line <;> rfl

/-- What one line completes and leaves open comes from what was open before it and from the line. -/
theorem IsSound.rows_step_sublist {r : Reader} (hr : r.IsSound) (line : List Char) :
    ((r.step line).1.flatMap Chunk.contextRows ++ (r.step line).2.openRows).Sublist
      (r.openRows ++ [rowOf line]) := by
  rcases r.step_cases line with ⟨h, h', hhunk, htaken, e⟩ | ⟨header, -, -, e⟩ | ⟨-, -, e⟩
  · have hopen : r.openRows = h.rows := by
      rw [openRows, hhunk]
      rfl
    rw [e, hopen]
    exact (OpenHunk.takes_of_accept? htaken).rows_sublist
  · rw [e, openRows_afterHeader, List.append_nil]
    exact hr.contextRows_pending_sublist.trans (List.sublist_append_left _ _)
  · rw [e]
    exact List.sublist_append_left _ _

/-- The rows of the chunks still to come are from the open hunk and from the lines to come. -/
theorem IsSound.contextRows_chunks_sublist {r : Reader} (hr : r.IsSound) {rows : List (List Char)}
    (hrows : ∀ line ∈ rows, '\n' ∉ line) :
    ((r.chunks rows).flatMap Chunk.contextRows).Sublist (r.openRows ++ rows.map rowOf) := by
  induction rows generalizing r with
  | nil =>
    rw [List.map_nil, List.append_nil]
    exact hr.contextRows_pending_sublist
  | cons line rows ih =>
    have hline : '\n' ∉ line := hrows line List.mem_cons_self
    have hlater := ih (hr.step hline) fun l hl => hrows l (List.mem_cons_of_mem line hl)
    have hnow := (hr.rows_step_sublist line).append (List.Sublist.refl (rows.map rowOf))
    rw [List.append_assoc, List.append_assoc] at hnow
    rw [chunks, List.flatMap_append, List.map_cons]
    exact ((List.Sublist.refl _).append hlater).trans hnow

end Reader

/-- The rows of the chunks of a text are some of its lines in their order, and the contexts of the
chunks consist of these rows. -/
theorem contextRows_ofDiff_sublist (diff : String) :
    ((Chunk.ofDiff diff).flatMap Chunk.contextRows).Sublist
        ((Text.lines diff.toList).map rowOf) ∧
      (Chunk.ofDiff diff).flatMap (·.context.toList) =
        Text.written ((Chunk.ofDiff diff).flatMap Chunk.contextRows) := by
  constructor
  · exact Reader.isSound_start.contextRows_chunks_sublist
      fun _ hline => Text.not_mem_of_mem_lines hline
  · rw [Text.written, List.flatMap_assoc]
    refine List.flatMap_congr fun c hc => ?_
    obtain ⟨h, path, hs, hmade⟩ := exists_sound_of_mem_ofDiff hc
    exact (hs.isConsistent hmade).context_eq

end ReviewBot.Diff
