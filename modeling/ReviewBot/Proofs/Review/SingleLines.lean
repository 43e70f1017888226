import ReviewBot.Proofs.Diff.Limits
import ReviewBot.Proofs.Diff.Paths
import ReviewBot.Proofs.Finding.Merge
import ReviewBot.Proofs.Report.Sections
import ReviewBot.Proofs.Review.Raw

set_option autoImplicit false

/-!
# One section for each finding

Paths come from single lines of the diff, remarks of a model from single lines of its replies, and
all other texts are fixed, so no finding of a review holds a line feed
(`Pipeline.isSingleLine_of_analyze`). Hence the comment has a heading for each finding, and no other
line begins as headings do unless a message does so (`Markdown.render_lists_findings`).
-/

namespace ReviewBot

/-- The path of a chunk of a text is on one line. -/
theorem Diff.feed_not_mem_filePath {diff : String} {c : Chunk} (hc : c ∈ Chunk.ofDiff diff) :
    '\n' ∉ c.filePath.toList := by
  obtain ⟨line, hheader, hnames⟩ := exists_headerLine_of_mem_ofDiff hc
  have hline : line ∈ Text.lines diff.toList := (Reader.headerLines_sublist _ _).subset hheader
  exact fun hfeed => Text.not_mem_of_mem_lines hline (hnames.isInfix.subset hfeed)

namespace Finding

variable {c : Chunk}

theorem isSingleLine_secret (hc : '\n' ∉ c.filePath.toList) (kind : SecretKind) :
    (kind.finding c).IsSingleLine where
  filePath := hc
  category := by
    show '\n' ∉ security.toList
    decide
  message := by
    show '\n' ∉ ("Potential " ++ kind.label ++ " detected in code").toList
    cases kind <;> decide
  suggestion := by
    intro text htext
    rw [← Option.some.inj htext]
    decide

theorem isSingleLine_memberAccess (hc : '\n' ∉ c.filePath.toList) (index : Nat) :
    (MemberAccess.finding c index).IsSingleLine where
  filePath := hc
  category := by
    show '\n' ∉ potentialBug.toList
    decide
  message := by
    show '\n' ∉ "Potential null pointer dereference without null check".toList
    decide
  suggestion := by
    intro text htext
    rw [← Option.some.inj htext]
    decide

theorem isSingleLine_of_mem_findingsOf (hc : '\n' ∉ c.filePath.toList)
    {answer : Except Error String} {f : Finding} (hf : f ∈ Model.findingsOf c answer) :
    f.IsSingleLine := by
  -- A reply is free text; only its division into lines keeps line feeds out of the message.
  have hmessage : '\n' ∉ f.message.toList := Model.feed_not_mem_message hf
  obtain ⟨k, line, rfl⟩ := Model.mem_findingsOf hf
  refine ⟨hc, ?_, hmessage, ?_⟩
  · show '\n' ∉ codeReview.toList
    decide
  · intro text htext
    cases htext

end Finding

namespace Pipeline

variable {σ : Type} {settings : Settings} {model : Option (Model (StateM σ))}

theorem mem_ofDiff_of_mem_chunksOf {m : Type → Type} {p : Pipeline m} {diff : String} {c : Chunk}
    (hc : c ∈ p.chunksOf diff) : c ∈ Chunk.ofDiff diff := by
  rw [chunksOf, Limits.keep_eq_filter] at hc
  exact List.mem_of_mem_filter hc

theorem isSingleLine_of_mem_rawFindings {pr : PullRequest} {diff : String} {s : σ} {f : Finding}
    (hf : f ∈ (settings.pipeline .builtIn model).rawFindings pr diff s) : f.IsSingleLine := by
  rcases List.mem_append.1 hf with hf | hf
  · obtain ⟨c, hc, ⟨kind, rfl⟩ | ⟨index, -, rfl⟩⟩ := exists_chunk_of_heuristicFindings hf
    · have hpath := Diff.feed_not_mem_filePath (mem_ofDiff_of_mem_chunksOf hc)
      exact Finding.isSingleLine_secret hpath kind
    · have hpath := Diff.feed_not_mem_filePath (mem_ofDiff_of_mem_chunksOf hc)
      exact Finding.isSingleLine_memberAccess hpath index
  · obtain ⟨c, hc, answer, hanswer⟩ := exists_answer_of_modelFindings hf
    have hpath := Diff.feed_not_mem_filePath (mem_ofDiff_of_mem_chunksOf hc)
    exact Finding.isSingleLine_of_mem_findingsOf hpath hanswer

/-- No text in a review with the built-in rules and any model holds a line feed. -/
theorem isSingleLine_of_analyze {pr : PullRequest} {diff : String} {s : σ} {report : Report}
    (h : (((settings.pipeline .builtIn model).analyze pr diff).run s).1 = some report) :
    ∀ f ∈ report.findings, f.IsSingleLine := by
  intro f hf
  cases hsize : (settings.pipeline .builtIn model).limits.isExceededBy diff with
  | true =>
    rw [analyze, if_pos hsize] at h
    cases h
  | false =>
    obtain ⟨report', hrun, hfindings⟩ := analyze_run hsize pr s
    obtain rfl : report' = report := Option.some.inj (hrun.symm.trans h)
    rw [hfindings] at hf
    exact isSingleLine_of_mem_rawFindings (Finding.mem_of_mem_mergeAndRank hf)

end Pipeline

namespace Markdown

/-- As long as no text of a finding holds a line feed, the lines of the comment that begin as
headings do are the headings in order, numbered from one on, each followed by the message of its
finding if that begins so too. So they are the headings alone exactly if no message begins so. The
number of a section can be read from its heading. The third line is the tally; its numbers are those
of the severities of which there are findings, and add up to the number of findings. No text of a
finding in a review with the built-in rules and any model holds a line feed. -/
theorem render_lists_findings :
    (∀ findings : List Finding, findings ≠ [] → (∀ f ∈ findings, f.IsSingleLine) →
      let lines := linesOf (render findings)
      lines.filter opensSection =
          (findings.zipIdx 1).flatMap (fun x => openingLines x.2 x.1) ∧
        (lines.filter opensSection = (findings.zipIdx 1).map (fun x => heading x.2 x.1) ↔
          ∀ f ∈ findings, opensSection f.message = false) ∧
        lines[2]? = some (tally findings) ∧
        tallyCounts (tally findings) = (present findings).map (total findings) ∧
        (tallyCounts (tally findings)).foldr (· + ·) 0 = findings.length) ∧
      (∀ (i : Nat) (f : Finding),
        opensSection (heading i f) = true ∧ headingNumber? (heading i f) = some i) ∧
      ∀ (σ : Type) (settings : Settings) (model : Option (Model (StateM σ))) (pr : PullRequest)
        (diff : String) (s : σ) (report : Report),
        (((settings.pipeline .builtIn model).analyze pr diff).run s).1 = some report →
          ∀ f ∈ report.findings, f.IsSingleLine := by
  refine ⟨?_, fun i f => ⟨opensSection_heading i f, headingNumber?_heading i f⟩, ?_⟩
  · intro findings hne hsingle lines
    have hopening := filter_linesOf_render hne hsingle
    refine ⟨hopening, ?_, ?_, tallyCounts_tally hne, foldr_tallyCounts hne⟩
    · rw [hopening, flatMap_openingLines_eq_iff]
    · show (linesOf (render findings))[2]? = some (tally findings)
      rw [linesOf_render hne hsingle]
      rfl
  · intro σ settings model pr diff s report h
    exact Pipeline.isSingleLine_of_analyze h

/-- A review of a line with a credential, about which the model answers with a line that begins as
headings do. -/
theorem render_lists_findings_of_two :
    let model : Model (StateM Unit) := ⟨"m", fun _ => pure (.ok "### Bug")⟩
    let p := ({} : Settings).pipeline .builtIn (some model)
    let diff := "+++ b/a.rs\n@@ -0,0 +1 @@\n+password = \"letmein!\"\n"
    ∃ report : Report, ((p.analyze {} diff).run ()).1 = some report ∧
      (linesOf report.markdown).filter opensSection =
        ["### 1. [CRITICAL] \x60a.rs:1\x60 · SECURITY",
          "### 2. [HIGH] \x60a.rs:1\x60 · CODE_REVIEW", "### Bug"] ∧
      (linesOf report.markdown)[2]? = some "**2 findings**: 1 critical, 1 high" := by
  intro model p diff
  have hsize : p.limits.isExceededBy diff = false := by decide
  obtain ⟨report, hrun, hmerged⟩ := Pipeline.analyze_run hsize {} ()
  obtain ⟨f, g, hfindings, hheadings, htally⟩ : ∃ f g : Finding, report.findings = [f, g] ∧
      openingLines 1 f ++ openingLines 2 g = ["### 1. [CRITICAL] \x60a.rs:1\x60 · SECURITY",
        "### 2. [HIGH] \x60a.rs:1\x60 · CODE_REVIEW", "### Bug"] ∧
      tally [f, g] = "**2 findings**: 1 critical, 1 high" := by
    have hdistinct : Finding.distinct (p.rawFindings {} diff ()) =
        [{ filePath := "a.rs", lineNumber := 1, severity := .critical, category := "SECURITY"
           message := "Potential PASSWORD detected in code"
           suggestion := some "Remove secret and rotate credentials if already exposed"
           source := .heuristic, confidence := ⟨0x3FEE666666666666⟩, precedence := 1000 },
         { filePath := "a.rs", lineNumber := 1, severity := .high, category := "CODE_REVIEW"
           message := "### Bug", source := .llm, confidence := ⟨0x3FE999999999999A⟩
           precedence := 650 }] := by
      rw [Pipeline.rawFindings, Pipeline.heuristicFindings_builtIn]
      decide +kernel
    rw [hmerged, Finding.mergeAndRank, hdistinct, List.mergeSort_of_pairwise (by decide)]
    exact ⟨_, _, rfl, by decide +kernel, by decide +kernel⟩
  have hsingle : ∀ f ∈ report.findings, f.IsSingleLine :=
    render_lists_findings.2.2 Unit {} (some model) {} _ () report hrun
  have hne : report.findings ≠ [] := by
    rw [hfindings]
    exact List.cons_ne_nil f [g]
  obtain ⟨hlines, -, hthird, -⟩ := render_lists_findings.1 report.findings hne hsingle
  refine ⟨report, hrun, ?_, ?_⟩
  · rw [Report.markdown, hlines, hfindings, ← hheadings]
    exact congrArg _ (List.append_nil _)
  · rw [Report.markdown, hthird, hfindings, htally]

/-- A line of a reply that begins as headings do is written as it is. -/
theorem message_opens_section :
    let chunk : Chunk :=
      { filePath := "a.rs", fileType := "rs", startLine := 1, addedLines := ["x"]
        removedLines := [], context := "+x\n", change := .modified }
    let findings := Model.findingsOf chunk (.ok "### Critical issue")
    findings ≠ [] ∧ (∀ f ∈ findings, f.IsSingleLine) ∧
      (linesOf (render findings)).filter opensSection ≠
        (findings.zipIdx 1).map fun x => heading x.2 x.1 := by
  intro chunk findings
  have hfindings : findings =
      [Model.RemarkClass.critical.finding chunk "### Critical issue".toList] := by
    decide +kernel
  have hsingle : ∀ f ∈ findings, f.IsSingleLine := by
    intro f hf
    exact Finding.isSingleLine_of_mem_findingsOf (by decide) hf
  have hne : findings ≠ [] := by
    rw [hfindings]
    exact List.cons_ne_nil _ _
  refine ⟨hne, hsingle, fun heq => ?_⟩
  rw [filter_linesOf_render hne hsingle, flatMap_openingLines_eq_iff] at heq
  have hopens := heq (Model.RemarkClass.critical.finding chunk "### Critical issue".toList)
    (by rw [hfindings]; exact List.mem_singleton_self _)
  revert hopens
  decide +kernel

end Markdown

end ReviewBot
