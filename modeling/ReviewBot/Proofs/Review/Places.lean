import ReviewBot.Proofs.Diff.HunkCounts
import ReviewBot.Proofs.Diff.HunkHeader
import ReviewBot.Proofs.Diff.Limits
import ReviewBot.Proofs.Review.Raw

set_option autoImplicit false

/-!
# Where findings point

Whatever diff is reviewed, each finding of the report lies in a chunk that has been looked at: in
its file, not before its first line, and not beyond as many lines as the chunk adds
(`analyze_points_into_chunks`). Line numbers stay within the limit, since the parser reads no
greater one and rules count on no further.
-/

namespace ReviewBot

/-- The finding is in the file of the chunk, at its first line or at one of as many lines from there
on as the chunk adds. Line numbers end at the greatest word. -/
structure Finding.LiesIn (f : Finding) (c : Chunk) : Prop where
  filePath_eq : f.filePath = c.filePath
  start_le : c.startLine ≤ f.lineNumber
  le_end : f.lineNumber ≤ min (c.startLine + (c.addedLines.length - 1)) maxWord

/-- The chunk begins at a line number. -/
structure Chunk.StartsInRange (c : Chunk) : Prop where
  pos : 1 ≤ c.startLine
  le_maxWord : c.startLine ≤ maxWord

theorem Diff.startsInRange_of_mem_ofDiff {diff : String} {c : Chunk} (hc : c ∈ Chunk.ofDiff diff) :
    c.StartsInRange := by
  obtain ⟨_, opening, _, _, header, h, path, -, hheader, -, hh, -, hmade⟩ :=
    exists_opening_of_mem_ofDiff hc
  have hstart : c.startLine = max header.newStart 1 := by
    rw [hmade.startLine_eq, hh.startLine_eq]
  have hlimit : header.newStart ≤ maxWord := HunkHeader.newStart_le hheader
  constructor
  · rw [hstart]
    exact Nat.le_max_right _ _
  · rw [hstart]
    exact Nat.max_le.2 ⟨hlimit, by decide⟩

namespace Finding

variable {c : Chunk}

/-- What stands at the first line of a chunk lies in it. -/
theorem liesIn_of_start (hc : c.StartsInRange) {f : Finding} (hpath : f.filePath = c.filePath)
    (hline : f.lineNumber = c.startLine) : f.LiesIn c where
  filePath_eq := hpath
  start_le := Nat.le_of_eq hline.symm
  le_end := by
    rw [hline]
    exact Nat.le_min.2 ⟨Nat.le_add_right _ _, hc.le_maxWord⟩

theorem liesIn_memberAccess (hc : c.StartsInRange) {index : Nat}
    (hindex : index < c.addedLines.length) : (MemberAccess.finding c index).LiesIn c where
  filePath_eq := rfl
  start_le := Nat.le_min.2 ⟨Nat.le_add_right _ _, hc.le_maxWord⟩
  le_end := by
    show min (c.startLine + index) maxWord ≤ min (c.startLine + (c.addedLines.length - 1)) maxWord
    omega

end Finding

namespace Pipeline

variable {σ : Type} {settings : Settings} {model : Option (Model (StateM σ))}

/-- What the built-in rules and any model find lies in one of the chunks. -/
theorem exists_chunk_of_mem_rawFindings {pr : PullRequest} {diff : String} {s : σ} {f : Finding}
    (hf : f ∈ (settings.pipeline .builtIn model).rawFindings pr diff s)
    (hrange : ∀ c ∈ (settings.pipeline .builtIn model).chunksOf diff, c.StartsInRange) :
    ∃ c ∈ (settings.pipeline .builtIn model).chunksOf diff, f.LiesIn c := by
  rcases List.mem_append.1 hf with hf | hf
  · obtain ⟨c, hc, ⟨kind, rfl⟩ | ⟨index, hindex, rfl⟩⟩ := exists_chunk_of_heuristicFindings hf
    · exact ⟨c, hc, Finding.liesIn_of_start (hrange c hc) rfl rfl⟩
    · exact ⟨c, hc, Finding.liesIn_memberAccess (hrange c hc) hindex⟩
  · obtain ⟨c, hc, k, line, rfl⟩ := exists_remark_of_modelFindings hf
    exact ⟨c, hc, Finding.liesIn_of_start (hrange c hc) rfl rfl⟩

/-- There is no report only if the diff is too large. Otherwise each finding of the report lies in a
chunk that has been looked at, in one of the first files of the diff, of which no chunk has been
dropped. -/
theorem analyze_points_into_chunks (settings : Settings) (model : Option (Model (StateM σ)))
    (pr : PullRequest) (diff : String) (s : σ) :
    let p := settings.pipeline .builtIn model
    match ((p.analyze pr diff).run s).1 with
    | none => p.limits.isExceededBy diff = true
    | some report =>
      ∀ f ∈ report.findings,
        f.filePath ∈ (distinctPaths (Chunk.ofDiff diff)).take settings.app.maxFilesPerPr ∧
        (∀ c ∈ Chunk.ofDiff diff, c.filePath = f.filePath → c ∈ p.chunksOf diff) ∧
        1 ≤ f.lineNumber ∧ ∃ c ∈ p.chunksOf diff, f.LiesIn c := by
  intro p
  by_cases hsize : p.limits.isExceededBy diff = true
  · have hrun : ((p.analyze pr diff).run s).1 = none := by
      rw [analyze, if_pos hsize]
      rfl
    rw [hrun]
    exact hsize
  · obtain ⟨report, hrun, hfindings⟩ := analyze_run (Bool.eq_false_iff.2 hsize) pr s
    rw [hrun]
    intro f hf
    have hkept : p.chunksOf diff = (Chunk.ofDiff diff).filter fun c =>
        c.filePath ∈ (distinctPaths (Chunk.ofDiff diff)).take settings.app.maxFilesPerPr :=
      Limits.keep_eq_filter (Chunk.ofDiff diff)
    have hrange : ∀ c ∈ p.chunksOf diff, c.StartsInRange := by
      intro c hc
      rw [hkept] at hc
      exact Diff.startsInRange_of_mem_ofDiff (List.mem_filter.1 hc).1
    have hraw : f ∈ p.rawFindings pr diff s := by
      rw [hfindings] at hf
      exact Finding.mem_of_mem_mergeAndRank hf
    obtain ⟨c, hc, hlies⟩ := exists_chunk_of_mem_rawFindings hraw hrange
    have hpath : f.filePath ∈
        (distinctPaths (Chunk.ofDiff diff)).take settings.app.maxFilesPerPr := by
      rw [hkept] at hc
      rw [hlies.filePath_eq]
      simpa using (List.mem_filter.1 hc).2
    refine ⟨hpath, ?_, Nat.le_trans (hrange c hc).pos hlies.start_le, c, hc, hlies⟩
    intro d hd hsame
    rw [hkept, List.mem_filter, decide_eq_true_eq, hsame]
    exact ⟨hd, hpath⟩

/-- A finding one line beyond the greatest line number stands at that number, and the file after the
first one is dropped. -/
theorem analyze_points_into_chunks_of_last_line :
    let diff := "+++ b/a\n@@ -0,0 +4294967295,2 @@\n+x\n+a.b\n--- a/z\n+++ b/z\n@@ -1 +1 @@\n+c.d\n"
    let p := ({ app := { maxFilesPerPr := 1 } } : Settings).pipeline .builtIn
      (none : Option (Model (StateM Unit)))
    ∃ report : Report, ((p.analyze {} diff).run ()).1 = some report ∧
      ∃ f ∈ report.findings, f.filePath = "a" ∧ f.lineNumber = maxWord ∧
        ∃ c ∈ p.chunksOf diff, f.LiesIn c := by
  intro diff p
  have hsize : p.limits.isExceededBy diff = false := by decide
  obtain ⟨report, hrun, hfindings⟩ := analyze_run (p := p) hsize {} ()
  have hlast : ∃ f ∈ p.rawFindings {} diff (),
      Finding.champion (Finding.withKey f.key (p.rawFindings {} diff ())) = some f ∧
        f.filePath = "a" ∧ f.lineNumber = maxWord := by
    rw [rawFindings, heuristicFindings_builtIn]
    decide +kernel
  obtain ⟨f, -, hchampion, hpath, hline⟩ := hlast
  have hf : f ∈ report.findings := by
    rw [hfindings]
    exact Finding.mem_mergeAndRank_iff.2 hchampion
  have hpoints := analyze_points_into_chunks { app := { maxFilesPerPr := 1 } }
    (none : Option (Model (StateM Unit))) {} diff ()
  simp only at hpoints
  rw [hrun] at hpoints
  obtain ⟨-, -, -, hlies⟩ := hpoints f hf
  exact ⟨report, hrun, f, hf, hpath, hline, hlies⟩

end Pipeline

end ReviewBot
