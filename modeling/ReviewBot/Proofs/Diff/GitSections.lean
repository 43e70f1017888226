import ReviewBot.Proofs.Diff.WrittenHunk
import ReviewBot.Proofs.Text.Trim

set_option autoImplicit false

/-!
# Diffs with git sections

A `GitSection` is one file of a diff: its git line, further headers of any kind, and, unless the
file has no textual change, the two sides and the hunks. Each hunk of each section that adds or
removes lines makes one chunk, in order and under the path after the change
(`ofDiff_render_gitSections`). The lines of the hunks may look like headers; only the counts in the
hunk headers decide what belongs to a hunk.
-/

namespace ReviewBot.Diff

/-- A path as a git line has it when it needs no quotes. -/
structure IsGitPath (path : List Char) : Prop where
  ne_nil : path ≠ []
  no_feed : '\n' ∉ path
  no_return : '\r' ∉ path
  unmarked : ¬ " b/".toList <:+: path
  unquoted : ¬ " \"b/".toList <:+: path

/-- A header of a git section that says nothing about paths or hunks. -/
structure IsExtendedHeader (row : List Char) : Prop where
  no_feed : '\n' ∉ row
  unmarked : ∀ marker ∈ ["diff --git ", "--- ", "+++ ", "@@"], ¬ marker.toList <+: row

/-- A file of a diff as it is written by git. -/
structure GitSection where
  /-- Path before the change. -/
  oldPath : List Char
  /-- Path after the change. -/
  newPath : List Char
  /-- The headers between the git line and the two sides. -/
  extended : List (List Char)
  /-- What the change does to the file, and its hunks; none if there is no textual change. -/
  content : Option (ChangeKind × List WrittenHunk)
  oldPath_plain : IsGitPath oldPath
  newPath_plain : IsGitPath newPath
  extended_plain : ∀ row ∈ extended, IsExtendedHeader row

namespace GitSection

/-- The path that stands for a file that does not exist. -/
def noFile : List Char := "/dev/null".toList

/-- What follows the marker of the git line. -/
def gitTail (s : GitSection) : List Char :=
  ("a/".toList ++ s.oldPath) ++ (" b/".toList ++ s.newPath)

/-- The side before the change; a file that is added does not exist there. -/
def oldSide (s : GitSection) (change : ChangeKind) : List Char :=
  if change = .added then noFile else "a/".toList ++ s.oldPath

/-- The side after the change; a file that is deleted does not exist there. -/
def newSide (s : GitSection) (change : ChangeKind) : List Char :=
  if change = .deleted then noFile else "b/".toList ++ s.newPath

/-- The rows below the extended headers. -/
def contentRows (s : GitSection) : List (List Char) :=
  match s.content with
  | none => []
  | some (change, hunks) =>
      ("--- ".toList ++ s.oldSide change) :: ("+++ ".toList ++ s.newSide change) ::
        hunks.flatMap WrittenHunk.rows

/-- The rows of the section. -/
def rows (s : GitSection) : List (List Char) :=
  ("diff --git ".toList ++ s.gitTail) :: (s.extended ++ s.contentRows)

/-- The diff that consists of the sections. -/
def render (sections : List GitSection) : String :=
  String.ofList (Text.written (sections.flatMap rows))

/-- The chunks of the section: one for each hunk that adds or removes lines. -/
def chunks (s : GitSection) : List Chunk :=
  match s.content with
  | none => []
  | some (change, hunks) => hunks.filterMap (WrittenHunk.chunk? (String.ofList s.newPath) change)

end GitSection

/-! ## Paths -/

theorem gitTail_eq (s : GitSection) :
    s.gitTail = 'a' :: '/' :: s.oldPath ++ ' ' :: 'b' :: '/' :: s.newPath := by
  simp [GitSection.gitTail]

/-- A text that begins with a blank stands in the path after a marker only if it stands in the path.
-/
theorem not_infix_marked {sep path : List Char} (h : ¬ ' ' :: sep <:+: path) {a : Char}
    (ha : ' ' ≠ a) : ¬ ' ' :: sep <:+: a :: '/' :: path := by
  simp [List.infix_cons_iff, List.cons_prefix_cons, ha, h]

theorem gitPath?_gitTail (s : GitSection) : gitPath? s.gitTail = some s.newPath := by
  have hold : ¬ [' ', '"', 'b', '/'] <:+: 'a' :: '/' :: s.oldPath :=
    not_infix_marked s.oldPath_plain.unquoted (by decide)
  have hnew : ¬ [' ', '"', 'b', '/'] <:+: 'b' :: '/' :: s.newPath :=
    not_infix_marked s.newPath_plain.unquoted (by decide)
  have hquoted : Text.afterLast? " \"b/".toList s.gitTail = none := by
    show Text.afterLast? [' ', '"', 'b', '/'] s.gitTail = none
    refine Text.afterLast?_eq_none fun hi => ?_
    rw [gitTail_eq] at hi
    rcases Text.infix_or_of_infix_append_cons (by decide) hi with hl | hr
    · exact hold hl
    · rw [List.infix_cons_iff] at hr
      rcases hr with hp | hr
      · simp [List.cons_prefix_cons] at hp
      · exact hnew hr
  have hmarked : Text.afterLast? " b/".toList s.gitTail = some s.newPath := by
    show Text.afterLast? [' ', 'b', '/'] s.gitTail = some s.newPath
    have hplain : ¬ [' ', 'b', '/'] <:+: ['b', '/'] ++ s.newPath :=
      not_infix_marked s.newPath_plain.unmarked (by decide)
    rw [gitTail_eq]
    exact Text.afterLast?_append hplain _
  have hne := s.newPath_plain.ne_nil
  unfold gitPath?
  rw [hquoted, hmarked]
  cases hp : s.newPath with
  | nil => exact absurd hp hne
  | cons c path => rfl

/-- A side that begins with a letter names a file. -/
theorem sidePath?_marked {c : Char} (hblank : Text.isBlank c = false)
    (hplain : c ∉ ['\t', '"', '/']) (tail : List Char) :
    ∃ path, sidePath? (c :: tail) = some path := by
  simp only [List.mem_cons, List.not_mem_nil, or_false, not_or] at hplain
  obtain ⟨htab, hquote, hslash⟩ := hplain
  have htake : (c :: tail).takeWhile (· != '\t') = c :: tail.takeWhile (· != '\t') :=
    List.takeWhile_cons_of_pos (by simpa using htab)
  have hquote' : (c == '"') = false := by simpa using hquote
  have hne : ∀ rest : List Char, c :: rest ≠ "/dev/null".toList := by
    intro rest h
    exact hslash (List.cons.inj h).1
  unfold sidePath?
  rw [htake, Text.trim_cons hblank, Text.dropAroundWhile_cons (p := (· == '"')) hquote']
  simp only [hne, List.isEmpty_cons]
  exact ⟨_, rfl⟩

/-- The path of a git section is known from its git line, and the sides add what the change does to
the file. -/
theorem place_of_sides (s : GitSection) (change : ChangeKind) :
    let p := ((Place.afterGitLine s.gitTail).afterOldSide (s.oldSide change)).afterNewSide
      (s.newSide change)
    p.path = some s.newPath ∧ p.change = change := by
  obtain ⟨old, hold⟩ := sidePath?_marked (c := 'a') (by decide) (by decide) ('/' :: s.oldPath)
  obtain ⟨new, hnew⟩ := sidePath?_marked (c := 'b') (by decide) (by decide) ('/' :: s.newPath)
  have hnone : sidePath? GitSection.noFile = none := by decide
  cases change with
  | added =>
    simp [GitSection.oldSide, GitSection.newSide, Place.afterOldSide, Place.afterNewSide,
      Place.afterGitLine, gitPath?_gitTail, hnone, hnew]
  | modified =>
    simp [GitSection.oldSide, GitSection.newSide, Place.afterOldSide, Place.afterNewSide,
      Place.afterGitLine, gitPath?_gitTail, hold, hnew]
  | deleted =>
    simp [GitSection.oldSide, GitSection.newSide, Place.afterOldSide, Place.afterNewSide,
      Place.afterGitLine, gitPath?_gitTail, hnone, hold]

/-! ## Reading sections -/

namespace GitSection

theorem not_mem_oldSide (s : GitSection) (change : ChangeKind) {c : Char}
    (hnone : c ∉ noFile) (hmarker : c ∉ "a/".toList) (hpath : c ∉ s.oldPath) :
    c ∉ s.oldSide change := by
  unfold oldSide
  split
  · exact hnone
  · rw [List.mem_append, not_or]
    exact ⟨hmarker, hpath⟩

theorem not_mem_newSide (s : GitSection) (change : ChangeKind) {c : Char}
    (hnone : c ∉ noFile) (hmarker : c ∉ "b/".toList) (hpath : c ∉ s.newPath) :
    c ∉ s.newSide change := by
  unfold newSide
  split
  · exact hnone
  · rw [List.mem_append, not_or]
    exact ⟨hmarker, hpath⟩

end GitSection

theorem closed_gitRow (s : GitSection) :
    Text.closed ("diff --git ".toList ++ s.gitTail) = "diff --git ".toList ++ s.gitTail :=
  Text.closed_of_not_mem
    (by simp [GitSection.gitTail, s.oldPath_plain.no_return, s.newPath_plain.no_return])

/-- Further headers are passed over. -/
theorem completes_extended (p : Place) {rows : List (List Char)}
    (h : ∀ row ∈ rows, IsExtendedHeader row) :
    Completes (· = ⟨p, none⟩) (rows.map Text.closed) [] (· = ⟨p, none⟩) := by
  induction rows with
  | nil => exact Completes.nil
  | cons row rows ih =>
    have hrow := h row List.mem_cons_self
    have hplain : Header.read? (Text.closed row) = none := by
      refine Header.read?_eq_none fun marker hm hp => ?_
      exact hrow.unmarked marker hm (hp.trans (Text.closed_prefix row))
    have hfirst : Completes (· = ⟨p, none⟩) [Text.closed row] [] (· = ⟨p, none⟩) :=
      Completes.of_step (fun _ => p) fun r hr => by
        rw [hr]
        exact ⟨Reader.step_other p hplain, rfl⟩
    exact hfirst.append (ih fun r hr => h r (List.mem_cons_of_mem _ hr))

namespace GitSection

/-- The git line begins the file wherever it stands. -/
theorem completes_gitRow (s : GitSection) :
    Completes (fun _ => True) [Text.closed ("diff --git ".toList ++ s.gitTail)] []
      (· = ⟨.afterGitLine s.gitTail, none⟩) := by
  rw [closed_gitRow]
  exact Completes.of_step (fun _ => .afterGitLine s.gitTail) fun r _ =>
    ⟨r.step_gitLine s.gitTail, rfl⟩

/-- The sides add what the change does to the file. -/
theorem completes_sides (s : GitSection) (change : ChangeKind) :
    Completes (· = ⟨.afterGitLine s.gitTail, none⟩)
      [Text.closed ("--- ".toList ++ s.oldSide change),
        Text.closed ("+++ ".toList ++ s.newSide change)] []
      (Reader.IsIn s.newPath change) := by
  have hr := s.not_mem_oldSide change (by decide) (by decide) s.oldPath_plain.no_return
  have hr' := s.not_mem_newSide change (by decide) (by decide) s.newPath_plain.no_return
  rw [Text.closed_of_not_mem (by simpa using hr), Text.closed_of_not_mem (by simpa using hr')]
  have hold : Completes (· = ⟨.afterGitLine s.gitTail, none⟩) ["--- ".toList ++ s.oldSide change] []
      (· = ⟨(Place.afterGitLine s.gitTail).afterOldSide (s.oldSide change), none⟩) :=
    Completes.of_step (fun r => r.place.afterOldSide (s.oldSide change)) fun r hr => by
      rw [hr]
      exact ⟨Reader.step_oldSide (Reader.nothingOwed_of_no_hunk _) _, rfl⟩
  have hnew : Completes
      (· = ⟨(Place.afterGitLine s.gitTail).afterOldSide (s.oldSide change), none⟩)
      ["+++ ".toList ++ s.newSide change] [] (Reader.IsIn s.newPath change) :=
    Completes.of_step (fun r => r.place.afterNewSide (s.newSide change)) fun r hr => by
      obtain ⟨hpath, hchange⟩ := place_of_sides s change
      rw [hr]
      exact ⟨Reader.step_newSide (Reader.nothingOwed_of_no_hunk _) _, hpath, hchange⟩
  exact hold.append hnew

/-- A section completes its own chunks, whatever has been read before. -/
theorem completes_rows (s : GitSection) :
    Completes (fun _ => True) (s.rows.map Text.closed) s.chunks fun _ => True := by
  have hhead := s.completes_gitRow.append
    (completes_extended (.afterGitLine s.gitTail) s.extended_plain)
  rw [rows, List.map_cons, List.map_append]
  unfold contentRows chunks
  cases s.content with
  | none =>
    rw [List.map_nil, List.append_nil]
    exact hhead.mono (fun _ h => h) fun _ _ => trivial
  | some content =>
    obtain ⟨change, hunks⟩ := content
    have hcontent := (s.completes_sides change).append (completes_hunks hunks s.newPath change)
    exact (hhead.append hcontent).mono (fun _ h => h) fun _ _ => trivial

end GitSection

/-! ## Whole diffs -/

theorem GitSection.no_feed (s : GitSection) : ∀ row ∈ s.rows, '\n' ∉ row := by
  intro row hrow
  rw [rows, List.mem_cons, List.mem_append] at hrow
  rcases hrow with rfl | hrow | hrow
  · simp [gitTail, s.oldPath_plain.no_feed, s.newPath_plain.no_feed]
  · exact (s.extended_plain row hrow).no_feed
  · unfold contentRows at hrow
    cases hc : s.content with
    | none => simp [hc] at hrow
    | some content =>
      obtain ⟨change, hunks⟩ := content
      rw [hc] at hrow
      simp only [List.mem_cons, List.mem_flatMap] at hrow
      rcases hrow with rfl | rfl | ⟨w, -, hw⟩
      · simpa using s.not_mem_oldSide change (by decide) (by decide) s.oldPath_plain.no_feed
      · simpa using s.not_mem_newSide change (by decide) (by decide) s.newPath_plain.no_feed
      · exact w.no_feed row hw

/-- A diff that consists of git sections has one chunk for each hunk that adds or removes lines, in
order, under the path after the change and with the lines of the hunk. -/
theorem ofDiff_render_gitSections (sections : List GitSection) :
    Chunk.ofDiff (GitSection.render sections) = sections.flatMap GitSection.chunks :=
  Completes.ofDiff_written (fun s _ => s.no_feed) (fun s _ => s.completes_rows) trivial

/-- Lines that look like the headers of a file are content as long as the hunk header promises
them. -/
example :
    (Chunk.ofDiff
        "diff --git a/f b/f\n--- a/f\n+++ b/f\n@@ -1,2 +1,2 @@\n--- x\n+++ y\n z\n").map
      (fun c => (c.addedLines, c.removedLines)) = [(["++ y"], ["-- x"])] := by
  decide

end ReviewBot.Diff
