import ReviewBot.Proofs.Diff.ChunkForm
import ReviewBot.Proofs.Text.Search
import ReviewBot.Proofs.Text.Trim

set_option autoImplicit false

/-!
# Where paths come from

A diff names files in git lines and in the lines on either side of a change. Whatever text is read,
the path of each chunk is named by one of the lines that are read as headers
(`exists_headerLine_of_mem_ofDiff`), and so is a part of that line (`Names.isInfix`).
-/

namespace ReviewBot.Diff

/-- The path that a header names. -/
def Header.path? : Header → Option (List Char)
  | git tail => gitPath? tail
  | oldSide tail => sidePath? tail
  | newSide tail => sidePath? tail
  | hunk _ => none

/-- The line is a header that names the path. -/
def Names (line path : List Char) : Prop :=
  ∃ header : Header, Header.read? line = some header ∧ header.path? = some path

/-! ## Paths as parts of lines -/

theorem gitPath?_isInfix {tail path : List Char} (h : gitPath? tail = some path) :
    path <:+: tail := by
  rw [gitPath?] at h
  split at h
  · rename_i quoted hquoted
    obtain rfl := Option.some.inj h
    exact (Text.dropEndWhile_isPrefix _ quoted).isInfix.trans
      (Text.afterLast?_suffix hquoted).isInfix
  · split at h
    · cases h
    · exact (Text.afterLast?_suffix h).isInfix

theorem stripSide_suffix (path : List Char) : stripSide path <:+ path := by
  unfold stripSide
  split
  · exact ⟨['a', '/'], rfl⟩
  · exact ⟨['b', '/'], rfl⟩
  · exact List.suffix_refl path

theorem sidePath?_isInfix {tail path : List Char} (h : sidePath? tail = some path) :
    path <:+: tail := by
  rw [sidePath?] at h
  split at h
  · cases h
  · obtain rfl := Option.some.inj h
    have hcut : tail.takeWhile (· != '\t') <+: tail := List.takeWhile_prefix _
    have hbare := (Text.dropAroundWhile_isInfix (· == '"') _).trans
      ((Text.trim_isInfix (tail.takeWhile (· != '\t'))).trans hcut.isInfix)
    exact (stripSide_suffix _).isInfix.trans hbare

/-- A path is a part of the line that names it. -/
theorem Names.isInfix {line path : List Char} (h : Names line path) : path <:+: line := by
  obtain ⟨header, hread, hpath⟩ := h
  rw [← Header.line_of_read? hread]
  cases header with
  | git tail => exact (gitPath?_isInfix hpath).trans (List.suffix_append _ tail).isInfix
  | oldSide tail => exact (sidePath?_isInfix hpath).trans (List.suffix_append _ tail).isInfix
  | newSide tail => exact (sidePath?_isInfix hpath).trans (List.suffix_append _ tail).isInfix
  | hunk line => cases hpath

/-! ## Paths that a reader knows -/

/-- Each path that is known is named by one of the rows. -/
structure Place.IsNamedIn (rows : List (List Char)) (p : Place) : Prop where
  path : ∀ path, p.path = some path → ∃ line ∈ rows, Names line path
  oldPath : ∀ path, p.oldPath = some path → ∃ line ∈ rows, Names line path

namespace Place

variable {rows : List (List Char)}

theorem isNamedIn_start : start.IsNamedIn rows where
  path := fun _ h => nomatch h
  oldPath := fun _ h => nomatch h

/-- A header adds at most the path that it names. -/
theorem IsNamedIn.afterHeader {p : Place} (hp : p.IsNamedIn rows) {header : Header}
    (hheader : ∀ path, header.path? = some path → ∃ line ∈ rows, Names line path) :
    (Reader.afterHeader p header).place.IsNamedIn rows := by
  cases header with
  | git tail => exact ⟨hheader, fun _ h => nomatch h⟩
  | oldSide tail =>
    -- Outside a git section the path after the change is forgotten first.
    have hforgotten : (if p.inGitSection then p else
        { p with path := none, change := .modified }).IsNamedIn rows := by
      split
      · exact hp
      · exact ⟨(fun _ h => nomatch h), hp.oldPath⟩
    show (p.afterOldSide tail).IsNamedIn rows
    rw [afterOldSide]
    split
    · exact ⟨hforgotten.path, hforgotten.oldPath⟩
    · rename_i path hside
      exact ⟨hforgotten.path, fun path' h => hheader path' (hside.trans h)⟩
  | newSide tail =>
    show (p.afterNewSide tail).IsNamedIn rows
    rw [afterNewSide]
    split
    · refine ⟨fun path h => ?_, hp.oldPath⟩
      rw [Option.orElse_eq_orElse, Option.orElse_eq_or, Option.or_eq_some_iff] at h
      rcases h with h | ⟨-, h⟩
      · exact hp.path path h
      · exact hp.oldPath path h
    · rename_i path hside
      refine ⟨fun path' h => ?_, hp.oldPath⟩
      rw [Option.orElse_eq_orElse, Option.orElse_eq_or, Option.or_eq_some_iff] at h
      rcases h with h | ⟨-, h⟩
      · exact hp.path path' h
      · exact hheader path' (hside.trans h)
  | hunk line => exact ⟨hp.path, hp.oldPath⟩

/-- A line adds at most the path that it names, and only if it is read as a header. -/
theorem IsNamedIn.step {r : Reader} (hr : r.place.IsNamedIn rows) {line : List Char}
    (hline : r.Refuses line → (Header.read? line).isSome = true → line ∈ rows) :
    (r.step line).2.place.IsNamedIn rows := by
  rcases r.step_cases line with ⟨h, h', -, -, e⟩ | ⟨header, hrefused, hread, e⟩ | ⟨-, -, e⟩
  · rw [e]
    exact hr
  · have hmem : line ∈ rows := hline hrefused (by rw [hread]; rfl)
    rw [e]
    exact hr.afterHeader fun path hpath => ⟨line, hmem, header, hread, hpath⟩
  · rw [e]
    exact hr

end Place

/-! ## Lines that are read as headers -/

namespace Reader

/-- The lines that are read as headers, which no hunk that is open before them takes as content. -/
def headerLines (r : Reader) : List (List Char) → List (List Char)
  | [] => []
  | line :: rest =>
    match r.hunk.bind (·.accept? line), Header.read? line with
    | none, some _ => line :: (r.step line).2.headerLines rest
    | _, _ => (r.step line).2.headerLines rest

theorem headerLines_sublist (r : Reader) (rows : List (List Char)) :
    (r.headerLines rows).Sublist rows := by
  induction rows generalizing r with
  | nil => exact List.Sublist.slnil
  | cons line rest ih =>
    rw [headerLines]
    split
    · exact (ih _).cons_cons line
    · exact (ih _).cons line

theorem headerLines_step_subset (r : Reader) (line : List Char) (rest : List (List Char)) :
    (r.step line).2.headerLines rest ⊆ r.headerLines (line :: rest) := by
  rw [headerLines]
  split
  · exact List.subset_cons_self _ _
  · exact List.Subset.refl _

theorem mem_headerLines_cons {r : Reader} {line : List Char} (hrefused : r.Refuses line)
    (hread : (Header.read? line).isSome = true) (rest : List (List Char)) :
    line ∈ r.headerLines (line :: rest) := by
  have hnone : r.hunk.bind (·.accept? line) = none := Option.bind_eq_none_iff.2 hrefused
  obtain ⟨header, hheader⟩ := Option.isSome_iff_exists.1 hread
  rw [headerLines, hnone, hheader]
  exact List.mem_cons_self

/-- If the paths that are known are named by some rows, and all headers to come are among them, then
the path of each chunk is named by one of them. -/
theorem exists_row_of_mem_chunks {known : List (List Char)} {r : Reader} {rows : List (List Char)}
    (hr : r.place.IsNamedIn known) (hrows : r.headerLines rows ⊆ known) {c : Chunk}
    (hc : c ∈ r.chunks rows) : ∃ line ∈ known, Names line c.filePath.toList := by
  have hpending : ∀ {r : Reader}, r.place.IsNamedIn known → c ∈ r.pending →
      ∃ line ∈ known, Names line c.filePath.toList := by
    intro r hr hc
    obtain ⟨h, path, -, hpath, hmade⟩ := exists_hunk_of_mem_pending hc
    rw [hmade.filePath_eq, String.toList_ofList]
    exact hr.path path hpath
  -- Induction over the lines: what is known of the file stays named by `known`, since every line
  -- that changes it is one of the headers to come.
  induction rows generalizing r with
  | nil => exact hpending hr hc
  | cons line rest ih =>
    rw [chunks, List.mem_append] at hc
    rcases hc with hc | hc
    · exact hpending hr (mem_step hc).1
    · refine ih (hr.step fun hrefused hread => ?_) ?_ hc
      · exact hrows (mem_headerLines_cons hrefused hread rest)
      · exact List.Subset.trans (r.headerLines_step_subset line rest) hrows

end Reader

/-- The path of each chunk of a text is named by one of the lines that are read as headers. -/
theorem exists_headerLine_of_mem_ofDiff {diff : String} {c : Chunk} (hc : c ∈ Chunk.ofDiff diff) :
    ∃ line ∈ Reader.start.headerLines (Text.lines diff.toList), Names line c.filePath.toList :=
  Reader.exists_row_of_mem_chunks Place.isNamedIn_start (List.Subset.refl _) hc

end ReviewBot.Diff
