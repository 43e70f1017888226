import ReviewBot.Proofs.Diff.Reading
import ReviewBot.Proofs.Text.Lines

set_option autoImplicit false

/-!
# Sections do not influence each other

A git line completes the hunk that is open before it and forgets everything else that has been read
(`Reader.chunks_gitLine`). So a diff may be divided before any of its git lines: its chunks are
those of the part before the line and those of the part that begins with the line
(`ofDiff_append_of_gitLine`). Neither part has to be well formed. A diff that is put together from
parts of this kind has the chunks of all parts (`ofDiff_join`).
-/

namespace ReviewBot.Diff

namespace Reader

/-- From a git line on the chunks do not depend on what has been read before, except for the hunk
that the line completes. -/
theorem chunks_gitLine (r : Reader) (tail : List Char) (rows : List (List Char)) :
    r.chunks (("diff --git ".toList ++ tail) :: rows) =
      r.pending ++ start.chunks (("diff --git ".toList ++ tail) :: rows) := by
  have hstart : start.pending = [] := rfl
  rw [chunks, chunks, step_gitLine r tail, step_gitLine start tail, hstart, List.nil_append]

/-- Lines may be divided before a git line, whatever has been read before. -/
theorem chunks_append_gitLine (r : Reader) (xs : List (List Char)) (tail : List Char)
    (ys : List (List Char)) :
    r.chunks (xs ++ ("diff --git ".toList ++ tail) :: ys) =
      r.chunks xs ++ start.chunks (("diff --git ".toList ++ tail) :: ys) := by
  -- The hunk that is open at the end of `xs` is pending there, and the git line completes it.
  induction xs generalizing r with
  | nil => exact chunks_gitLine r tail ys
  | cons line xs ih => rw [List.cons_append, chunks, chunks, ih, List.append_assoc]

/-- Stretches that begin with git lines are read one by one. -/
theorem chunks_flatten_gitLines {stretches : List (List (List Char))}
    (h : ∀ rows ∈ stretches, ∃ tail rest, rows = ("diff --git ".toList ++ tail) :: rest) :
    start.chunks stretches.flatten = stretches.flatMap start.chunks := by
  induction stretches with
  | nil => rfl
  | cons rows later ih =>
    have hlater := ih fun rows' hrows' => h rows' (List.mem_cons_of_mem rows hrows')
    rw [List.flatMap_cons, ← hlater]
    -- Only what follows has to begin with a git line, and it does unless nothing follows.
    cases later with
    | nil =>
      show start.chunks (rows ++ []) = start.chunks rows ++ []
      rw [List.append_nil, List.append_nil]
    | cons next later =>
      obtain ⟨tail, rest, rfl⟩ := h next (List.mem_cons_of_mem rows List.mem_cons_self)
      exact chunks_append_gitLine start rows tail (rest ++ later.flatten)

end Reader

/-- The text begins with a git line and ends with a line feed. -/
structure IsGitPiece (d : String) : Prop where
  begins : "diff --git ".toList <+: d.toList
  ends : "\n".toList <:+ d.toList

theorem IsGitPiece.exists_lines {d : String} (h : IsGitPiece d) :
    ∃ tail rest, Text.lines d.toList = ("diff --git ".toList ++ tail) :: rest := by
  obtain ⟨back, hback⟩ := h.begins
  rw [← hback]
  exact Text.exists_lines_append (by decide) (by decide) (by decide) back

/-- The chunks of a diff that is put together from pieces are those of the pieces. -/
theorem ofDiff_join {pieces : List String} (h : ∀ d ∈ pieces, IsGitPiece d) :
    Chunk.ofDiff (String.join pieces) = (pieces.map Chunk.ofDiff).flatten := by
  have hends : ∀ s ∈ pieces.map String.toList, s = [] ∨ ['\n'] <:+ s := by
    intro s hs
    obtain ⟨d, hd, rfl⟩ := List.mem_map.1 hs
    exact Or.inr (h d hd).ends
  have hbegins : ∀ rows ∈ pieces.map fun d => Text.lines d.toList,
      ∃ tail rest, rows = ("diff --git ".toList ++ tail) :: rest := by
    intro rows hrows
    obtain ⟨d, hd, rfl⟩ := List.mem_map.1 hrows
    exact (h d hd).exists_lines
  have hlines : Text.lines (String.join pieces).toList =
      (pieces.map fun d => Text.lines d.toList).flatten := by
    rw [String.toList_join, List.flatMap_def, Text.lines_flatten hends, List.flatMap_map,
      List.flatMap_def]
  rw [Chunk.ofDiff, hlines, Reader.chunks_flatten_gitLines hbegins, List.flatMap_map,
    List.flatMap_def]
  rfl

/-- A diff may be divided before a git line: neither part has an influence on the chunks of the
other. -/
theorem ofDiff_append_of_gitLine {d e : String} (hd : d = "" ∨ "\n".toList <:+ d.toList)
    (he : "diff --git ".toList <+: e.toList) :
    Chunk.ofDiff (d ++ e) = Chunk.ofDiff d ++ Chunk.ofDiff e := by
  have hends : d.toList = [] ∨ ['\n'] <:+ d.toList := by
    rcases hd with rfl | h
    · exact Or.inl rfl
    · exact Or.inr h
  have hne : "diff --git ".toList ≠ [] := by decide
  obtain ⟨back, hback⟩ := he
  obtain ⟨tail, rows, hrows⟩ := Text.exists_lines_append hne (by decide) (by decide) back
  rw [hback] at hrows
  rw [Chunk.ofDiff, Chunk.ofDiff, Chunk.ofDiff, String.toList_append, Text.lines_append hends,
    hrows]
  exact Reader.chunks_append_gitLine Reader.start _ tail rows

/-- A part that breaks off in the middle of a hunk, and one without any side. -/
theorem ofDiff_append_of_gitLine_of_open_hunk :
    let d := "--- a/x\n+++ b/x\n@@ -1,9 +1,9 @@\n-a\n"
    let e := "diff --git a/y b/y\n@@ -0,0 +1 @@\n+b\n"
    Chunk.ofDiff (d ++ e) = Chunk.ofDiff d ++ Chunk.ofDiff e ∧
      (Chunk.ofDiff (d ++ e)).map (fun c => (c.filePath, c.removedLines, c.addedLines)) =
        [("x", ["a"], []), ("y", [], ["b"])] := by
  intro d e
  have hd : d = "" ∨ "\n".toList <:+ d.toList :=
    Or.inr ⟨"--- a/x\n+++ b/x\n@@ -1,9 +1,9 @@\n-a".toList, by decide⟩
  have he : "diff --git ".toList <+: e.toList := ⟨"a/y b/y\n@@ -0,0 +1 @@\n+b\n".toList, by decide⟩
  have happend := ofDiff_append_of_gitLine hd he
  refine ⟨happend, ?_⟩
  rw [happend]
  decide

end ReviewBot.Diff
