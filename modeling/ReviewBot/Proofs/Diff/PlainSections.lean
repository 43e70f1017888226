import ReviewBot.Proofs.Diff.PatchHunk
import ReviewBot.Proofs.Diff.Sides

set_option autoImplicit false

/-!
# Patches without git lines

A `PlainSection` is one file of a patch that has no git lines: the two sides of the change, each
with its path or the path of no file, and the hunks. Nothing but the counts in the hunk headers
tells the first side of a file from a removed line of the file before it. Each hunk of each section
that adds or removes lines makes one chunk, in order, under the path after the change or, if the
file is deleted, the path before it (`ofDiff_render_plainSections`).
-/

namespace ReviewBot.Diff

/-- A path as a side has it when it needs no quotes. -/
structure PatchPath where
  text : List Char
  ne_nil : text ≠ []
  no_tab : '\t' ∉ text
  no_feed : '\n' ∉ text
  last_plain : ∀ c, text.getLast? = some c → Text.isBlank c = false ∧ c ≠ '"'

/-- The files on the two sides of a change; on one of them there may be none. -/
inductive PatchSides where
  | added (new : PatchPath)
  | modified (old new : PatchPath)
  | deleted (old : PatchPath)

namespace PatchSides

/-- The file before the change. -/
def old? : PatchSides → Option PatchPath
  | added _ => none
  | modified old _ => some old
  | deleted old => some old

/-- The file after the change. -/
def new? : PatchSides → Option PatchPath
  | added new => some new
  | modified _ new => some new
  | deleted _ => none

/-- The path that the hunks count for: the one after the change if there is one. -/
def path : PatchSides → List Char
  | added new => new.text
  | modified _ new => new.text
  | deleted old => old.text

/-- What the change does to the file. -/
def change : PatchSides → ChangeKind
  | added _ => .added
  | modified _ _ => .modified
  | deleted _ => .deleted

end PatchSides

/-- A path with the marker of its side, or the path of no file. -/
def sideText (marker : Char) : Option PatchPath → List Char
  | none => "/dev/null".toList
  | some path => marker :: '/' :: path.text

theorem sideText_none (marker : Char) : sideText marker none = "/dev/null".toList := rfl

theorem sideText_some (marker : Char) (path : PatchPath) :
    sideText marker (some path) = marker :: '/' :: path.text := rfl

/-- A time stamp, or whatever else follows the path of a side after a tab. -/
structure Stamp where
  text : List Char
  no_feed : '\n' ∉ text

/-- What follows the path of a side on its line. -/
def stampText : Option Stamp → List Char
  | none => []
  | some stamp => '\t' :: stamp.text

/-- A file of a patch without git lines. -/
structure PlainSection where
  /-- The files before and after the change. -/
  sides : PatchSides
  /-- The time stamp before the change. -/
  oldStamp : Option Stamp
  /-- The time stamp after the change. -/
  newStamp : Option Stamp
  /-- The hunks of the file. -/
  hunks : List PatchHunk

namespace PlainSection

/-- The side before the change. -/
def oldRow (s : PlainSection) : List Char :=
  "--- ".toList ++ (sideText 'a' s.sides.old? ++ stampText s.oldStamp)

/-- The side after the change. -/
def newRow (s : PlainSection) : List Char :=
  "+++ ".toList ++ (sideText 'b' s.sides.new? ++ stampText s.newStamp)

/-- The rows of the section. -/
def rows (s : PlainSection) : List (List Char) :=
  s.oldRow :: s.newRow :: s.hunks.flatMap PatchHunk.rows

/-- The patch that consists of the sections. -/
def render (sections : List PlainSection) : String :=
  String.ofList (Text.written (sections.flatMap rows))

/-- The chunks of the section: one for each hunk that adds or removes lines. -/
def chunks (s : PlainSection) : List Chunk :=
  s.hunks.filterMap (PatchHunk.chunk? (String.ofList s.sides.path) s.sides.change)

end PlainSection

/-! ## Sides -/

theorem getLast?_sideText {marker : Char} {path? : Option PatchPath} {c : Char}
    (h : (sideText marker path?).getLast? = some c) : IsUntrimmed c := by
  cases path? with
  | none =>
    have hlast : "/dev/null".toList.getLast? = some 'l' := by decide
    rw [sideText_none, hlast] at h
    rw [← Option.some.inj h]
    exact ⟨by decide, by decide⟩
  | some path =>
    refine path.last_plain c ?_
    rw [← h, sideText_some, List.getLast?_cons_cons, List.getLast?_cons_of_ne_nil path.ne_nil]

theorem hasPlainEnds_sideText {marker : Char} (hmarker : marker ∈ ['a', 'b'])
    (path? : Option PatchPath) : HasPlainEnds (sideText marker path?) where
  ne_nil := by
    cases path? with
    | none =>
      rw [sideText_none]
      decide
    | some path => exact List.cons_ne_nil _ _
  first := by
    intro c hc
    refine isUntrimmed_of_mem ?_
    cases path? with
    | none =>
      rw [← Option.some.inj hc]
      decide
    | some path =>
      rw [← Option.some.inj hc]
      exact List.mem_append_left ['/'] hmarker
  last := fun _ => getLast?_sideText

/-- A side is read as the path without its marker, whatever remark follows it. -/
theorem sidePath?_sideText {marker : Char} (hmarker : marker ∈ ['a', 'b'])
    (path? : Option PatchPath) {remark : List Char} (hremark : IsRemark remark) :
    sidePath? (sideText marker path? ++ remark) = path?.map PatchPath.text := by
  have hends := hasPlainEnds_sideText hmarker path?
  cases path? with
  | none =>
    have htab : '\t' ∉ sideText marker none := by
      rw [sideText_none]
      decide
    exact sidePath?_plain htab hends hremark
  | some path =>
    have hplain : marker ≠ '\t' ∧ marker ≠ '/' ∧
        stripSide (marker :: '/' :: path.text) = path.text := by
      rcases List.mem_pair.1 hmarker with rfl | rfl
      · exact ⟨by decide, by decide, rfl⟩
      · exact ⟨by decide, by decide, rfl⟩
    obtain ⟨htab, hslash, hstrip⟩ := hplain
    have hne : marker :: '/' :: path.text ≠ "/dev/null".toList := by
      intro h
      exact hslash (List.cons.inj h).1
    have hno : '\t' ∉ sideText marker (some path) := by
      simp [sideText_some, path.no_tab, Ne.symm htab]
    rw [sidePath?_plain hno hends hremark, sideText_some, if_neg hne, hstrip]
    rfl

/-- A side is written on one line. -/
theorem not_mem_side {marker : Char} (hmarker : marker ∈ ['a', 'b']) (path? : Option PatchPath)
    (stamp? : Option Stamp) : '\n' ∉ sideText marker path? ++ stampText stamp? := by
  have hside : '\n' ∉ sideText marker path? := by
    cases path? with
    | none =>
      rw [sideText_none]
      decide
    | some path =>
      have hmarked : '\n' ∉ [marker, '/'] := by
        rcases List.mem_pair.1 hmarker with rfl | rfl
        · decide
        · decide
      have e : sideText marker (some path) = [marker, '/'] ++ path.text := rfl
      rw [e, List.mem_append, not_or]
      exact ⟨hmarked, path.no_feed⟩
  have hstamp : '\n' ∉ stampText stamp? := by
    cases stamp? with
    | none => exact List.not_mem_nil
    | some stamp => simp [stampText, stamp.no_feed]
  rw [List.mem_append, not_or]
  exact ⟨hside, hstamp⟩

/-- A carriage return at the end of a side is at the end of its time stamp. -/
theorem closed_side (front : List Char) (marker : Char) (path? : Option PatchPath)
    (stamp? : Option Stamp) :
    ∃ remark, IsRemark remark ∧
      Text.closed (front ++ (sideText marker path? ++ stampText stamp?)) =
        front ++ (sideText marker path? ++ remark) := by
  have hne : sideText marker path? ≠ [] := by
    cases path? with
    | none =>
      rw [sideText_none]
      decide
    | some path =>
      rw [sideText_some]
      exact List.cons_ne_nil _ _
  have hreturn : (front ++ sideText marker path?).getLast? ≠ some '\r' := by
    rw [List.getLast?_append_of_ne_nil _ hne]
    intro h
    exact absurd (getLast?_sideText h).1 (by decide)
  -- A path does not end with a carriage return, so only a time stamp can lose one.
  refine ⟨Text.closed (stampText stamp?), ?_, ?_⟩
  · cases stamp? with
    | none => exact Or.inl rfl
    | some stamp =>
      exact Or.inr ⟨_, Text.closed_append (show ['\t'].getLast? ≠ some '\r' by decide) stamp.text⟩
  · rw [← List.append_assoc, Text.closed_append hreturn, List.append_assoc]

/-- Outside a git section the two sides say all about a file, whatever has been read before. -/
theorem PatchSides.place_eq (s : PatchSides) {p : Place} (hp : p.inGitSection = false)
    {oldTail newTail : List Char} (hold : sidePath? oldTail = s.old?.map PatchPath.text)
    (hnew : sidePath? newTail = s.new?.map PatchPath.text) :
    let q := (p.afterOldSide oldTail).afterNewSide newTail
    q.path = some s.path ∧ q.change = s.change ∧ q.inGitSection = false := by
  -- The first side forgets the path and the kind of change. Only an old path can be left of the
  -- file before, and it counts for nothing where there is a file after the change.
  cases s with
  | added new =>
    simp only [old?, new?, Option.map_none, Option.map_some] at hold hnew
    simp [Place.afterOldSide, Place.afterNewSide, hp, hold, hnew, path, change]
  | modified old new =>
    simp only [old?, new?, Option.map_some] at hold hnew
    simp [Place.afterOldSide, Place.afterNewSide, hp, hold, hnew, path, change]
  | deleted old =>
    simp only [old?, new?, Option.map_none, Option.map_some] at hold hnew
    simp [Place.afterOldSide, Place.afterNewSide, hp, hold, hnew, path, change]

/-! ## Reading sections -/

namespace PlainSection

theorem no_feed (s : PlainSection) : ∀ row ∈ s.rows, '\n' ∉ row := by
  intro row hrow
  rw [rows, List.mem_cons, List.mem_cons, List.mem_flatMap] at hrow
  rcases hrow with rfl | rfl | ⟨w, -, hw⟩
  · rw [oldRow, List.mem_append, not_or]
    exact ⟨by decide, not_mem_side (by decide) _ _⟩
  · rw [newRow, List.mem_append, not_or]
    exact ⟨by decide, not_mem_side (by decide) _ _⟩
  · exact w.no_feed row hw

/-- The sides of a file are read as such where the section before has ended, and they forget it. -/
theorem completes_sides (s : PlainSection) :
    Completes Reader.IsSettled [Text.closed s.oldRow, Text.closed s.newRow] []
      fun r => r.IsIn s.sides.path s.sides.change ∧ r.IsSettled := by
  obtain ⟨oldRemark, holdRemark, holdRow⟩ := closed_side "--- ".toList 'a' s.sides.old? s.oldStamp
  obtain ⟨newRemark, hnewRemark, hnewRow⟩ := closed_side "+++ ".toList 'b' s.sides.new? s.newStamp
  rw [oldRow, newRow, holdRow, hnewRow]
  have hold := sidePath?_sideText (show 'a' ∈ ['a', 'b'] by decide) s.sides.old? holdRemark
  have hnew := sidePath?_sideText (show 'b' ∈ ['a', 'b'] by decide) s.sides.new? hnewRemark
  generalize sideText 'a' s.sides.old? ++ oldRemark = oldTail at hold ⊢
  generalize sideText 'b' s.sides.new? ++ newRemark = newTail at hnew ⊢
  -- Between the sides only the place matters that the first one has led to.
  have hfirst : Completes Reader.IsSettled ["--- ".toList ++ oldTail] []
      fun r => ∃ p : Place, p.inGitSection = false ∧ r = ⟨p.afterOldSide oldTail, none⟩ :=
    Completes.of_step (fun r => r.place.afterOldSide oldTail) fun r hr =>
      ⟨Reader.step_oldSide hr.nothingOwed oldTail, r.place, hr.outside, rfl⟩
  have hsecond : Completes
      (fun r => ∃ p : Place, p.inGitSection = false ∧ r = ⟨p.afterOldSide oldTail, none⟩)
      ["+++ ".toList ++ newTail] [] fun r => r.IsIn s.sides.path s.sides.change ∧ r.IsSettled :=
    Completes.of_step (fun r => r.place.afterNewSide newTail) fun r hr => by
      obtain ⟨p, hp, rfl⟩ := hr
      obtain ⟨hpath, hchange, houtside⟩ := s.sides.place_eq hp hold hnew
      exact ⟨Reader.step_newSide (Reader.nothingOwed_of_no_hunk _) newTail, ⟨hpath, hchange⟩,
        houtside, Reader.nothingOwed_of_no_hunk _⟩
  exact hfirst.append hsecond

/-- A section completes its own chunks, and the next one can begin after it. -/
theorem completes_rows (s : PlainSection) :
    Completes Reader.IsSettled (s.rows.map Text.closed) s.chunks Reader.IsSettled := by
  have hsection := s.completes_sides.append
    (completes_patchHunks s.hunks s.sides.path s.sides.change)
  exact hsection.mono (fun _ h => h) fun _ h => h.2

end PlainSection

/-- A patch without git lines has one chunk for each hunk that adds or removes lines, in order, with
the path, the kind of change and the lines that its own section states. -/
theorem ofDiff_render_plainSections (sections : List PlainSection) :
    Chunk.ofDiff (PlainSection.render sections) = sections.flatMap PlainSection.chunks := by
  have hstart : Reader.IsSettled .start := ⟨rfl, Reader.nothingOwed_of_no_hunk .start⟩
  exact Completes.ofDiff_written (fun s _ => s.no_feed) (fun s _ => s.completes_rows) hstart

/-- A removed line that looks like the first side of a file, before the next file. -/
example :
    (Chunk.ofDiff
        ("--- a/f\t1970\n+++ /dev/null\n@@ -1,2 +0,0 @@\n--- a/x\n-y\n" ++
          "--- /dev/null\n+++ b/g\n@@ -0,0 +1 @@\n+z\n")).map
      (fun c => (c.filePath, c.change, c.removedLines, c.addedLines)) =
        [("f", .deleted, ["-- a/x", "y"], []), ("g", .added, [], ["z"])] := by
  decide

end ReviewBot.Diff
