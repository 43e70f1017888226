import ReviewBot.Proofs.Diff.Paths
import ReviewBot.Proofs.Diff.Sides

set_option autoImplicit false

/-!
# Headers that name no file

A side of a file may consist of its marker alone, and so may a quoted path in a git line. Such a
bare line is read as the header of a file whose name is empty (`names_nil_iff`), while a git line
that leaves out the path without quotes names no file, so that the hunks below it are passed over.
A chunk names a file unless the header that names it is bare, and each bare line above a removal
makes a chunk without a name (`ofDiff_names_files`).
-/

namespace ReviewBot.Diff

/-! ## Sides without a path -/

/-- The marker of a side. -/
def IsMarker (marker : List Char) : Prop := marker = "a/".toList ∨ marker = "b/".toList

/-- The tail of a side line gives a marker with no path after it. -/
def IsBareSide (tail : List Char) : Prop := ∃ marker, IsMarker marker ∧ IsSideOf marker tail

namespace IsMarker

variable {marker : List Char}

theorem stripSide_eq (h : IsMarker marker) : stripSide marker = [] := by
  rcases h with rfl | rfl <;> rfl

theorem ne_noFile (h : IsMarker marker) : marker ≠ "/dev/null".toList := by
  rcases h with rfl | rfl <;> decide

theorem hasPlainEnds (h : IsMarker marker) : HasPlainEnds marker := by
  rcases h with rfl | rfl
  · refine ⟨by decide, fun c hc => isUntrimmed_of_mem ?_, fun c hc => isUntrimmed_of_mem ?_⟩
    · cases hc
      decide
    · cases hc
      decide
  · refine ⟨by decide, fun c hc => isUntrimmed_of_mem ?_, fun c hc => isUntrimmed_of_mem ?_⟩
    · cases hc
      decide
    · cases hc
      decide

end IsMarker

theorem isMarker_of_stripSide_eq_nil {path : List Char} (hne : path ≠ [])
    (h : stripSide path = []) : IsMarker path := by
  unfold stripSide at h
  split at h
  · rw [h]
    exact Or.inl rfl
  · rw [h]
    exact Or.inr rfl
  · exact absurd h hne

theorem sidePath?_eq_nil_iff {tail : List Char} : sidePath? tail = some [] ↔ IsBareSide tail := by
  constructor
  · intro h
    obtain ⟨path, hside, hread⟩ := exists_isSideOf tail
    rw [h] at hread
    split at hread
    · cases hread
    · rename_i hpath
      -- A path that is looked at is not empty, so the marker is all that there is.
      rw [not_or] at hpath
      exact ⟨path, isMarker_of_stripSide_eq_nil hpath.2 (Option.some.inj hread).symm, hside⟩
  · rintro ⟨marker, hmarker, hside⟩
    rw [hside.sidePath?_eq hmarker.hasPlainEnds, if_neg hmarker.ne_noFile, hmarker.stripSide_eq]

/-! ## Git lines without a path -/

/-- The tail of a git line ends with a quoted marker and nothing but quotes after it. -/
inductive IsBareGit : List Char → Prop
  | intro (front : List Char) {quotes : List Char} :
      (∀ c ∈ quotes, c = '"') → IsBareGit (front ++ (" \"b/".toList ++ quotes))

theorem gitPath?_eq_nil_iff {tail : List Char} : gitPath? tail = some [] ↔ IsBareGit tail := by
  constructor
  · intro h
    rw [gitPath?] at h
    split at h
    · rename_i quoted hquoted
      obtain ⟨quotes, hall, hquotes⟩ := Text.exists_append_dropEndWhile (· == '"') quoted
      rw [Option.some.inj h, List.nil_append] at hall
      obtain ⟨front, rfl⟩ := Text.suffix_of_afterLast? hquoted
      rw [hall]
      exact .intro front fun c hc => by simpa using hquotes c hc
    · -- Without quotes, an empty path counts as none.
      split at h
      · cases h
      · rename_i hnot
        exact absurd h hnot
  · rintro ⟨front, hquotes⟩
    rename_i quotes
    -- Nothing after the last marker is a blank, so the marker does not occur again.
    have hblank : ' ' ∉ ['"', 'b', '/'] ++ quotes := by
      intro hmem
      rcases List.mem_append.1 hmem with hmem | hmem
      · exact absurd hmem (by decide)
      · exact absurd (hquotes ' ' hmem) (by decide)
    have hlast : Text.afterLast? " \"b/".toList (front ++ (" \"b/".toList ++ quotes)) =
        some quotes := by
      show Text.afterLast? [' ', '"', 'b', '/'] (front ++ ([' ', '"', 'b', '/'] ++ quotes)) = _
      exact Text.afterLast?_append (fun hi => hblank (hi.subset List.mem_cons_self)) front
    have hdrop : Text.dropEndWhile (· == '"') quotes = [] :=
      Text.dropEndWhile_append (s := []) fun c hc => by simpa using hquotes c hc
    rw [gitPath?, hlast]
    simp only
    rw [hdrop]

/-! ## Bare lines -/

/-- The line is a header in whose place for a path nothing stands. -/
inductive IsBareLine : List Char → Prop
  | git {tail : List Char} : IsBareGit tail → IsBareLine ("diff --git ".toList ++ tail)
  | oldSide {tail : List Char} : IsBareSide tail → IsBareLine ("--- ".toList ++ tail)
  | newSide {tail : List Char} : IsBareSide tail → IsBareLine ("+++ ".toList ++ tail)

theorem names_iff {line path : List Char} :
    Names line path ↔ (Header.read? line).bind Header.path? = some path :=
  Option.bind_eq_some_iff.symm

/-- A line names one path at most. -/
theorem Names.eq {line path path' : List Char} (h : Names line path) (h' : Names line path') :
    path = path' := by
  rw [names_iff] at h h'
  exact Option.some.inj (h.symm.trans h')

/-- The bare lines are those that name the empty path. -/
theorem names_nil_iff {line : List Char} : Names line [] ↔ IsBareLine line := by
  constructor
  · rintro ⟨header, hread, hpath⟩
    rw [← Header.line_of_read? hread]
    cases header with
    | git tail => exact .git (gitPath?_eq_nil_iff.1 hpath)
    | oldSide tail => exact .oldSide (sidePath?_eq_nil_iff.1 hpath)
    | newSide tail => exact .newSide (sidePath?_eq_nil_iff.1 hpath)
    | hunk line => cases hpath
  · intro h
    cases h with
    | git htail => exact ⟨.git _, Header.read?_gitLine _, gitPath?_eq_nil_iff.2 htail⟩
    | oldSide htail => exact ⟨.oldSide _, Header.read?_oldSide _, sidePath?_eq_nil_iff.2 htail⟩
    | newSide htail => exact ⟨.newSide _, Header.read?_newSide _, sidePath?_eq_nil_iff.2 htail⟩

/-! ## Chunks without a name -/

/-- Lines that remove a line of a file. -/
def removal : List (List Char) :=
  ["+++ /dev/null".toList, "@@ -1 +0,0 @@".toList, "-".toList]

theorem not_names_of_mem_removal {row : List Char} (hrow : row ∈ removal) (path : List Char) :
    ¬ Names row path := by
  have hnone : ∀ row ∈ removal, (Header.read? row).bind Header.path? = none := by decide
  intro h
  rw [names_iff, hnone row hrow] at h
  cases h

/-- The removal counts for the path that is known, or else for the one before the change. -/
theorem exists_mem_chunks_removal {p : Place} {path : List Char}
    (hpath : (p.path <|> p.oldPath) = some path) :
    ∃ c ∈ Reader.chunks ⟨p, none⟩ removal, c.filePath = String.ofList path := by
  have hchunks : Reader.chunks ⟨p, none⟩ removal =
      Reader.pending ⟨⟨p.path <|> p.oldPath, p.oldPath, .deleted, false⟩,
        some ((OpenHunk.ofHeader ⟨1, 0, 0⟩).push (.removed []))⟩ := rfl
  rw [hchunks, hpath]
  exact ⟨_, List.mem_cons_self, rfl⟩

/-- At the beginning of a text, a bare line leads to a file whose name is empty. -/
theorem IsBareLine.step_start {line : List Char} (h : IsBareLine line) :
    ∃ p : Place, Reader.start.step line = ([], ⟨p, none⟩) ∧ (p.path <|> p.oldPath) = some [] := by
  have howed : Reader.start.NothingOwed := Reader.nothingOwed_of_no_hunk Place.start
  cases h with
  | @git tail htail =>
    refine ⟨_, Reader.step_gitLine Reader.start tail, ?_⟩
    rw [Place.afterGitLine, gitPath?_eq_nil_iff.2 htail]
    rfl
  | @oldSide tail htail =>
    refine ⟨_, Reader.step_oldSide howed tail, ?_⟩
    rw [Place.afterOldSide, sidePath?_eq_nil_iff.2 htail]
    rfl
  | @newSide tail htail =>
    refine ⟨_, Reader.step_newSide howed tail, ?_⟩
    rw [Place.afterNewSide, sidePath?_eq_nil_iff.2 htail]
    rfl

/-- Each chunk is named by a line that is read as a header, and names a file exactly if that line is
not bare; so every chunk does if no header is bare. Each bare line matters: a removal below a single
line makes a chunk without a name exactly if the line is bare. -/
theorem ofDiff_names_files (diff : String) :
    (∀ c ∈ Chunk.ofDiff diff, ∃ line ∈ Reader.start.headerLines (Text.lines diff.toList),
        Names line c.filePath.toList ∧ (c.filePath ≠ "" ↔ ¬ IsBareLine line)) ∧
      ∀ line, Text.lines diff.toList = line :: removal →
        ((∃ c ∈ Chunk.ofDiff diff, c.filePath = "") ↔ IsBareLine line) := by
  have hnamed : ∀ c ∈ Chunk.ofDiff diff, ∃ line ∈ Reader.start.headerLines (Text.lines diff.toList),
      Names line c.filePath.toList ∧ (c.filePath = "" ↔ IsBareLine line) := by
    intro c hc
    obtain ⟨line, hline, hnames⟩ := exists_headerLine_of_mem_ofDiff hc
    refine ⟨line, hline, hnames, ?_⟩
    rw [← names_nil_iff, ← String.toList_eq_nil_iff]
    constructor
    · intro hempty
      rwa [hempty] at hnames
    · intro hbare
      exact hnames.eq hbare
  refine ⟨fun c hc => ?_, fun line hlines => ⟨?_, fun hbare => ?_⟩⟩
  · obtain ⟨line, hline, hnames, hiff⟩ := hnamed c hc
    exact ⟨line, hline, hnames, not_congr hiff⟩
  · rintro ⟨c, hc, hempty⟩
    obtain ⟨row, hrow, hnames, hiff⟩ := hnamed c hc
    have hmem := (Reader.headerLines_sublist _ _).subset hrow
    rw [hlines] at hmem
    -- No line of the removal names anything, so it is the first line that names the chunk.
    rcases List.mem_cons.1 hmem with rfl | hmem
    · exact hiff.1 hempty
    · exact absurd hnames (not_names_of_mem_removal hmem _)
  · obtain ⟨p, hstep, hpath⟩ := hbare.step_start
    obtain ⟨c, hc, hempty⟩ := exists_mem_chunks_removal hpath
    refine ⟨c, ?_, hempty⟩
    rw [Chunk.ofDiff, hlines, Reader.chunks, hstep]
    exact hc

/-- Lines that would be bare headers are content of a hunk, and the git line names no file without
quotes; a quoted marker with a remark after it names the empty path. -/
theorem ofDiff_names_files_of_bare_content :
    let diff := "diff --git a/ b/\n--- a/x\n+++ b/y\n@@ -1 +1 @@\n--- a/\n+++ b/\n"
    let line := "--- \"a/\"\t2024-01-01".toList
    let bare := "--- \"a/\"\t2024-01-01\n+++ /dev/null\n@@ -1 +0,0 @@\n-\n"
    (∃ c ∈ Chunk.ofDiff diff, c.filePath = "y" ∧ c.removedLines = ["-- a/"] ∧
        ∃ header ∈ Reader.start.headerLines (Text.lines diff.toList),
          Names header "y".toList ∧ ¬ IsBareLine header) ∧
      Text.lines bare.toList = line :: removal ∧ IsBareLine line ∧
      ∃ c ∈ Chunk.ofDiff bare, c.filePath = "" := by
  intro diff line bare
  have hchunk : ∃ c ∈ Chunk.ofDiff diff, c.filePath = "y" ∧ c.removedLines = ["-- a/"] := by decide
  have hlines : Text.lines bare.toList = line :: removal := by decide
  have hbare : IsBareLine line := by
    rw [← names_nil_iff, names_iff]
    decide
  obtain ⟨c, hc, hpath, hremoved⟩ := hchunk
  obtain ⟨header, hheader, hnames, hiff⟩ := (ofDiff_names_files diff).1 c hc
  rw [hpath] at hnames hiff
  refine ⟨⟨c, hc, hpath, hremoved, header, hheader, hnames, hiff.1 (by decide)⟩, hlines, hbare, ?_⟩
  exact ((ofDiff_names_files bare).2 line hlines).2 hbare

/-- The same git line names the empty path with quotes and no path without them. -/
theorem quoted_marker_names_empty_path :
    (Chunk.ofDiff "diff --git \"a/\" \"b/\"\n@@ -1 +1 @@\n-a\n+b\n").map (·.filePath) = [""] ∧
      Chunk.ofDiff "diff --git a/ b/\n@@ -1 +1 @@\n-a\n+b\n" = [] := by
  decide

end ReviewBot.Diff
