import Mathlib.Data.List.Perm.Subperm
import ReviewBot.Proofs.Diff.Limits
import ReviewBot.Proofs.Finding.Ties
import ReviewBot.Proofs.Review.Raw

set_option autoImplicit false

/-!
# What a report counts

A report counts files and chunks after the limits, and findings before and after merging. For all
settings, rules and models these counts fit together (`Report.Accounts`): no more files than chunks,
as many merged findings as there are different keys, and nothing from a branch that is switched off
(`analyze_accounts`).
-/

namespace ReviewBot

/-- The counts of a report fit the settings, the chunks of the diff, what the rules and the model
have found in them, and the model that was given. -/
structure Report.Accounts {m : Type → Type} (report : Report) (settings : Settings)
    (model : Option (Model m)) (parsed : List Chunk) (byRules byModel : List Finding) : Prop where
  files_eq : report.stats.files =
    min settings.app.maxFilesPerPr (parsed.map (·.filePath)).eraseDups.length
  files_le_chunks : report.stats.files ≤ report.stats.chunks
  chunks_le_parsed : report.stats.chunks ≤ parsed.length
  heuristic_eq : report.stats.heuristicFindings = byRules.length
  model_eq : report.stats.modelFindings = byModel.length
  merged_eq : report.stats.mergedFindings = report.findings.length
  merged_eq_keys :
    report.stats.mergedFindings = ((byRules ++ byModel).map Finding.key).eraseDups.length
  merged_le :
    report.stats.mergedFindings ≤ report.stats.heuristicFindings + report.stats.modelFindings
  nothing_lost : report.stats.mergedFindings = 0 →
    report.stats.heuristicFindings = 0 ∧ report.stats.modelFindings = 0
  rules_off : settings.app.heuristicsEnabled = false → report.stats.heuristicFindings = 0
  model_off_iff : report.stats.model = none ↔
    settings.app.llmEnabled = false ∨ settings.llm.enabled = false ∨ model = none
  model_off : report.stats.model = none → report.stats.modelFindings = 0

/-! ## How many there are -/

theorem length_distinctPaths_le (chunks : List Chunk) :
    (distinctPaths chunks).length ≤ chunks.length := by
  have hsubset : distinctPaths chunks ⊆ chunks.map (·.filePath) := by
    intro path hpath
    obtain ⟨-, c, hc, rfl⟩ := mem_newPaths.1 hpath
    exact List.mem_map_of_mem hc
  have hle := (List.subperm_of_subset (nodup_newPaths [] chunks) hsubset).length_le
  rwa [List.length_map] at hle

namespace Finding

theorem length_mergeAndRank (findings : List Finding) :
    (mergeAndRank findings).length = (findings.map key).eraseDups.length := by
  rw [(mergeAndRank_perm findings).length_eq, ← map_key_distinct, List.length_map]

theorem length_mergeAndRank_le (findings : List Finding) :
    (mergeAndRank findings).length ≤ findings.length := by
  have hsubset : (distinct findings).map key ⊆ findings.map key :=
    fun _ hk => mem_map_key_distinct.1 hk
  have hle := (List.subperm_of_subset (nodup_map_key_distinct findings) hsubset).length_le
  rwa [List.length_map, List.length_map, ← (mergeAndRank_perm findings).length_eq] at hle

theorem eq_nil_of_mergeAndRank_eq_nil {findings : List Finding}
    (h : mergeAndRank findings = []) : findings = [] := by
  have hperm := mergeAndRank_perm findings
  rw [h] at hperm
  refine List.eq_nil_iff_forall_not_mem.2 fun f hf => ?_
  have hkey : f.key ∈ (distinct findings).map key :=
    mem_map_key_distinct.2 (List.mem_map_of_mem hf)
  rw [← hperm.nil_eq] at hkey
  exact List.not_mem_nil hkey

end Finding

namespace Pipeline

variable {σ : Type}

/-- Without rules nothing is found by them. -/
theorem heuristicFindings_of_off {m : Type → Type} {settings : Settings} {rules : RuleSet}
    {model : Option (Model m)} (h : settings.app.heuristicsEnabled = false)
    (chunks : List Chunk) :
    (settings.pipeline rules model).heuristicFindings chunks = [] := by
  simp [heuristicFindings, Settings.pipeline, h]

theorem model_eq_none_iff {m : Type → Type} {settings : Settings} {rules : RuleSet}
    {model : Option (Model m)} : (settings.pipeline rules model).model = none ↔
      settings.app.llmEnabled = false ∨ settings.llm.enabled = false ∨ model = none := by
  unfold Settings.pipeline Settings.asksModel
  cases settings.app.llmEnabled <;> cases settings.llm.enabled <;> simp

theorem eq_some_of_model_eq_some {m : Type → Type} {settings : Settings} {rules : RuleSet}
    {model : Option (Model m)} {asked : Model m}
    (h : (settings.pipeline rules model).model = some asked) : model = some asked := by
  simp only [Settings.pipeline, Option.ite_none_right_eq_some] at h
  exact h.2

/-- Without a model nothing is asked and nothing is found by one. -/
theorem modelFindings_of_none {p : Pipeline (StateM σ)} (h : p.model = none) (pr : PullRequest)
    (chunks : List Chunk) (s : σ) : (p.modelFindings pr chunks).run s = ([], s) := by
  rw [modelFindings, h]
  rfl

/-- Without a model a review leaves everything as it is. -/
theorem analyze_run_of_none {p : Pipeline (StateM σ)} (h : p.model = none) (pr : PullRequest)
    (diff : String) (s : σ) : ((p.analyze pr diff).run s).2 = s := by
  rw [analyze]
  by_cases hsize : p.limits.isExceededBy diff = true
  · rw [if_pos hsize]
    rfl
  · have hasked := modelFindings_of_none h pr (p.chunksOf diff) s
    rw [if_neg hsize]
    show ((p.modelFindings pr (p.chunksOf diff)).run s).2 = s
    rw [hasked]

/-- A model is asked about every chunk that is kept. -/
theorem analyze_run_of_some {p : Pipeline (StateM σ)} {model : Model (StateM σ)}
    (h : p.model = some model) {diff : String} (hsize : ¬ p.limits.isExceededBy diff = true)
    (pr : PullRequest) (s : σ) :
    ((p.analyze pr diff).run s).2 = (p.chunksOf diff).foldl
      (fun s chunk => ((model.reply (Model.prompt pr chunk)).run s).2) s := by
  rw [analyze, if_neg hsize]
  show ((p.modelFindings pr (p.chunksOf diff)).run s).2 = _
  rw [modelFindings, h]
  exact model.review_run_snd pr _ s

/-- The counts in the report on kept chunks fit together. -/
theorem accounts_report {m : Type → Type} {settings : Settings} {rules : RuleSet}
    {model : Option (Model m)} (parsed : List Chunk) {byModel : List Finding}
    (hmodel : (settings.pipeline rules model).model = none → byModel = []) :
    let p := settings.pipeline rules model
    let kept := p.limits.keep parsed
    (p.report kept (p.heuristicFindings kept) byModel).Accounts settings model parsed
      (p.heuristicFindings kept) byModel := by
  intro p kept
  have hnone : (p.report kept (p.heuristicFindings kept) byModel).stats.model = none ↔
      p.model = none := Option.map_eq_none_iff
  constructor
  case files_eq =>
    show (distinctPaths kept).length = _
    rw [Limits.length_distinctPaths_keep, distinctPaths_eq_eraseDups]
    rfl
  case files_le_chunks => exact length_distinctPaths_le kept
  case chunks_le_parsed =>
    have hkept : kept = _ := Limits.keep_eq_filter parsed
    show kept.length ≤ _
    rw [hkept]
    exact List.length_filter_le _ _
  case heuristic_eq => rfl
  case model_eq => rfl
  case merged_eq => rfl
  case merged_eq_keys => exact Finding.length_mergeAndRank _
  case merged_le =>
    show _ ≤ (p.heuristicFindings kept).length + byModel.length
    rw [← List.length_append]
    exact Finding.length_mergeAndRank_le _
  case nothing_lost =>
    intro hmerged
    have hnil := Finding.eq_nil_of_mergeAndRank_eq_nil (List.length_eq_zero_iff.1 hmerged)
    obtain ⟨hrules, hbyModel⟩ := List.append_eq_nil_iff.1 hnil
    exact ⟨List.length_eq_zero_iff.2 hrules, List.length_eq_zero_iff.2 hbyModel⟩
  case rules_off =>
    intro hoff
    exact List.length_eq_zero_iff.2 (heuristicFindings_of_off hoff kept)
  case model_off_iff => exact hnone.trans model_eq_none_iff
  case model_off =>
    intro hoff
    exact List.length_eq_zero_iff.2 (hmodel (hnone.1 hoff))

/-- There is no report exactly if the diff is too large. Otherwise the counts of the report fit
together. Where it names no model, none has been asked anything, and a model that it names has been
asked about every chunk that is kept, in order. -/
theorem analyze_accounts (settings : Settings) (rules : RuleSet)
    (model : Option (Model (StateM σ))) (pr : PullRequest) (diff : String) (s : σ) :
    let p := settings.pipeline rules model
    let run := (p.analyze pr diff).run s
    (run.1 = none ↔ settings.app.maxDiffSizeBytes < diff.utf8ByteSize) ∧
      ∀ report, run.1 = some report →
        report.Accounts settings model (Chunk.ofDiff diff)
            (p.heuristicFindings (p.chunksOf diff))
            ((p.modelFindings pr (p.chunksOf diff)).run s).1 ∧
          (report.stats.model = none → run.2 = s) ∧
          ∀ name, report.stats.model = some name →
            ∃ asked, model = some asked ∧ asked.name = name ∧
              run.2 = (p.chunksOf diff).foldl
                (fun s chunk => ((asked.reply (Model.prompt pr chunk)).run s).2) s := by
  intro p run
  have hlimit : p.limits.isExceededBy diff = true ↔
      settings.app.maxDiffSizeBytes < diff.utf8ByteSize := decide_eq_true_iff
  by_cases hsize : p.limits.isExceededBy diff = true
  · have hrun : run.1 = none := by
      show ((p.analyze pr diff).run s).1 = none
      rw [analyze, if_pos hsize]
      rfl
    refine ⟨⟨fun _ => hlimit.1 hsize, fun _ => hrun⟩, fun report hreport => ?_⟩
    rw [hrun] at hreport
    exact absurd hreport.symm (Option.some_ne_none report)
  · have hrun : run.1 = _ := analyze_run_report (Bool.eq_false_iff.2 hsize) pr s
    refine ⟨⟨fun hnone => ?_, fun hlarge => absurd (hlimit.2 hlarge) hsize⟩, ?_⟩
    · rw [hrun] at hnone
      exact absurd hnone (Option.some_ne_none _)
    · intro report hreport
      rw [hrun, Option.some.injEq] at hreport
      subst hreport
      refine ⟨accounts_report (Chunk.ofDiff diff) fun hnone => ?_, fun hoff => ?_, ?_⟩
      · rw [modelFindings_of_none hnone]
      · exact analyze_run_of_none (Option.map_eq_none_iff.1 hoff) pr diff s
      · intro name hname
        obtain ⟨asked, hasked, hnamed⟩ := Option.map_eq_some_iff.1 hname
        exact ⟨asked, eq_some_of_model_eq_some hasked, hnamed,
          analyze_run_of_some hasked hsize pr s⟩

/-- A rule finds the same twice in each of the two chunks of the first file. The model is switched
off, or it finds something else in each. -/
theorem analyze_accounts_of_repeated_finding :
    let settings (asksModel : Bool) : Settings :=
      { app := { maxFilesPerPr := 1, llmEnabled := asksModel } }
    let found (c : Chunk) : Finding :=
      { filePath := c.filePath, lineNumber := 1, severity := .low, category := "T",
        message := "", source := .heuristic }
    let rules : RuleSet := ⟨[⟨"twice", 0, fun c => .found [found c, found c]⟩]⟩
    let model : Model (StateM Nat) := ⟨"m", fun _ n => (.ok "a bug", n + 1)⟩
    let diff := "+++ b/a\n@@ -0,0 +1 @@\n+x\n@@ -0,0 +9 @@\n+y\n--- a/z\n+++ b/z\n@@ -1 +1 @@\n+z\n"
    let run asksModel := (((settings asksModel).pipeline rules (some model)).analyze {} diff).run 0
    (∃ report : Report, (run false).1 = some report ∧ (run false).2 = 0 ∧ report.stats.files = 1 ∧
      report.stats.heuristicFindings = 4 ∧ report.stats.modelFindings = 0 ∧
      report.stats.mergedFindings = 1) ∧
    ∃ report : Report, (run true).1 = some report ∧ (run true).2 = 2 ∧
      report.stats.model = some "m" ∧ report.stats.modelFindings = 2 ∧
      report.stats.mergedFindings = 3 := by
  intro settings found rules model diff run
  have hsize : ∀ asksModel,
      ¬ (settings asksModel).app.maxDiffSizeBytes < diff.utf8ByteSize := by decide
  constructor
  · obtain ⟨hnone, haccounts⟩ := analyze_accounts (settings false) rules (some model) {} diff 0
    obtain ⟨report, hreport⟩ := Option.ne_none_iff_exists'.1 fun h => hsize false (hnone.1 h)
    obtain ⟨h, hasked, -⟩ := haccounts report hreport
    have hmodel : report.stats.model = none := h.model_off_iff.2 (.inl rfl)
    refine ⟨report, hreport, hasked hmodel, ?_, ?_, h.model_off hmodel, ?_⟩
    · rw [h.files_eq]
      decide +kernel
    · rw [h.heuristic_eq]
      decide +kernel
    · rw [h.merged_eq_keys]
      decide +kernel
  · obtain ⟨hnone, haccounts⟩ := analyze_accounts (settings true) rules (some model) {} diff 0
    obtain ⟨report, hreport⟩ := Option.ne_none_iff_exists'.1 fun h => hsize true (hnone.1 h)
    obtain ⟨h, -, hasked⟩ := haccounts report hreport
    have hon : report.stats.model ≠ none := by
      intro hoff
      simpa [settings] using h.model_off_iff.1 hoff
    obtain ⟨name, hname⟩ := Option.ne_none_iff_exists'.1 hon
    obtain ⟨asked, hmodel, rfl, hrun⟩ := hasked name hname
    obtain rfl := Option.some.inj hmodel
    refine ⟨report, hreport, hrun.trans ?_, hname, ?_, ?_⟩
    · decide +kernel
    · rw [h.model_eq]
      decide +kernel
    · rw [h.merged_eq_keys]
      decide +kernel

end Pipeline

end ReviewBot
