import ReviewBot.CommandLine.Run
import ReviewBot.Proofs.Report.Identify
import ReviewBot.Proofs.Review.Raw

set_option autoImplicit false

/-!
# Merging hides nothing severe

With the built-in rules and any model the report has, at the place of each raw finding, one finding
that covers it, and no finding that was not there before (`analyze_covers_raw`). So a review fails
exactly if a raw finding is serious enough.
-/

namespace ReviewBot

namespace Report

theorem reaches_iff {r : Report} {threshold : Severity} :
    r.reaches threshold = true ↔ ∃ f ∈ r.findings, f.severity.meets threshold = true :=
  List.any_eq_true

theorem reaches_identify (ids : Nat → String) (r : Report) :
    (r.identify ids).reaches = r.reaches := by
  funext threshold
  have hmeets : ∀ r : Report,
      r.reaches threshold = (r.findings.map (·.severity)).any (·.meets threshold) := by
    intro r
    rw [List.any_map]
    rfl
  rw [hmeets, hmeets, map_identify fun _ _ => rfl]

end Report

theorem ReviewOptions.exit_code_eq_one_iff {o : ReviewOptions} {report : Report} :
    (o.exit report).code = 1 ↔
      ∃ threshold, o.failOn = some threshold ∧ report.reaches threshold = true := by
  unfold exit
  cases o.failOn with
  | none => simp
  | some threshold => simp

namespace Pipeline

variable {σ : Type}

/-- Each raw finding is covered by the only finding of the report at its place, and the report has
only raw findings. A review with a threshold fails exactly if a raw finding meets the threshold.
-/
theorem analyze_covers_raw (settings : Settings) (model : Option (Model (StateM σ)))
    (pr : PullRequest) (diff : String) (s : σ)
    (hsize : settings.limits.isExceededBy diff = false) :
    let p := settings.pipeline .builtIn model
    ∃ report : Report, ((p.analyze pr diff).run s).1 = some report ∧
      (∀ f ∈ p.rawFindings pr diff s,
        ∃ g, report.findings.filter (fun g => f.SamePlace g) = [g] ∧ g.Covers f) ∧
      (∀ g ∈ report.findings, g ∈ p.rawFindings pr diff s) ∧
      (∀ threshold, report.reaches threshold = true ↔
        ∃ f ∈ p.rawFindings pr diff s, f.severity.meets threshold = true) ∧
      ∀ (o : ReviewOptions) (ids : Nat → String), (o.exit (report.identify ids)).code = 1 ↔
        ∃ threshold, o.failOn = some threshold ∧
          ∃ f ∈ p.rawFindings pr diff s, f.severity.meets threshold = true := by
  intro p
  have hgraded : Finding.Graded (p.rawFindings pr diff s) := graded_rawFindings pr diff s
  obtain ⟨report, hrun, hfindings⟩ := analyze_run (p := p) hsize pr s
  have hreaches : ∀ threshold, report.reaches threshold = true ↔
      ∃ f ∈ p.rawFindings pr diff s, f.severity.meets threshold = true := by
    intro threshold
    rw [Report.reaches_iff, hfindings]
    exact hgraded.exists_meets_iff threshold
  refine ⟨report, hrun, ?_, ?_, hreaches, ?_⟩
  · intro f hf
    rw [hfindings]
    exact hgraded.exists_covers hf
  · intro g hg
    rw [hfindings] at hg
    exact Finding.mem_of_mem_mergeAndRank hg
  · intro o ids
    rw [ReviewOptions.exit_code_eq_one_iff, Report.reaches_identify]
    simp only [hreaches]

/-- A key and an unguarded access in one line, about which a model speaks of a bug and a danger
before it stops answering: the review fails at the greatest threshold. -/
theorem analyze_covers_raw_of_failing_model :
    let diff := "--- a/a:1.py\n+++ b/a:1.py\n@@ -0,0 +7 @@\n+AWS_ACCESS_KEY_ID = conf.key\n"
    let model : Model (StateM Nat) :=
      ⟨"m", fun _ n => (if n = 0 then .ok "a bug\ndanger" else .error (.config ""), n + 1)⟩
    let p := ({} : Settings).pipeline .builtIn (some model)
    ∃ report : Report, ((p.analyze {} diff).run 0).1 = some report ∧
      (p.rawFindings {} diff 0).map (·.severity) = [.critical, .high, .high, .critical] ∧
      report.reaches .critical = true := by
  intro diff model p
  have hraw : (p.rawFindings {} diff 0).map (·.severity) =
      [.critical, .high, .high, .critical] := by
    rw [rawFindings, heuristicFindings_builtIn]
    decide +kernel
  have hcritical : ∃ f ∈ p.rawFindings {} diff 0, f.severity.meets .critical = true := by
    rw [rawFindings, heuristicFindings_builtIn]
    decide +kernel
  obtain ⟨report, hrun, -, -, hreaches, -⟩ :=
    analyze_covers_raw ({} : Settings) (some model) {} diff 0 (by decide)
  exact ⟨report, hrun, hraw, (hreaches .critical).2 hcritical⟩

end Pipeline

end ReviewBot
