import ReviewBot.Proofs.Finding.Ties
import ReviewBot.Proofs.Review.Raw
import ReviewBot.Proofs.Rule.LineNumbers
import ReviewBot.Proofs.Rule.MemberLanguage

set_option autoImplicit false

/-!
# Every unguarded member access is reported

The reports of member accesses in a chunk stand at growing line numbers, fewer lines below its
beginning than it adds. As long as the next chunk of the file begins no sooner, no two of them have
the same key, and nothing of another kind has the key of one of them. So merging drops none
(`Finding.filter_mergeAndRank_perm`), and a review reports as many as there are added lines with an
unguarded member access (`Pipeline.report_counts_accesses`).
-/

namespace ReviewBot

namespace Chunk

/-- The chunk `d` begins no sooner than as many lines below the beginning of `c` as `c` adds. -/
def EndsBefore (c d : Chunk) : Prop := c.startLine + c.addedLines.length ≤ d.startLine

instance : Trans EndsBefore EndsBefore EndsBefore where
  trans := by
    intro c d e hcd hde
    unfold EndsBefore at hcd hde ⊢
    omega

/-- The chunks of each file follow each other, and their lines are within the greatest number. -/
structure FollowEachOther (chunks : List Chunk) : Prop where
  inOrder : ∀ path : String, (chunks.filter fun c => c.filePath = path).IsChain EndsBefore
  inRange : ∀ c ∈ chunks, c.startLine + c.addedLines.length ≤ maxWord

end Chunk

/-! ## Merging findings of one kind -/

namespace Finding

theorem nodup_mergeAndRank (findings : List Finding) : (mergeAndRank findings).Nodup := by
  have hkeys : ((mergeAndRank findings).map key).Nodup :=
    ((mergeAndRank_perm findings).map key).nodup_iff.2 (nodup_map_key_distinct findings)
  exact hkeys.of_map

/-- Merging drops no finding of a kind in which there are no two with one key and whose keys nothing
else has. -/
theorem filter_mergeAndRank_perm {findings : List Finding} {q : Finding → Bool}
    (hkind : ∀ f ∈ findings, ∀ g ∈ findings, f.key = g.key → q f = q g)
    (hnodup : ((findings.filter q).map key).Nodup) :
    ((mergeAndRank findings).filter q).Perm (findings.filter q) := by
  rw [List.perm_ext_iff_of_nodup ((nodup_mergeAndRank findings).filter q) hnodup.of_map]
  intro g
  rw [List.mem_filter, List.mem_filter]
  constructor
  · rintro ⟨hg, hq⟩
    exact ⟨mem_of_mem_mergeAndRank hg, hq⟩
  · rintro ⟨hg, hq⟩
    refine ⟨?_, hq⟩
    -- The finding that is kept for the key is of the same kind, so it is this one.
    have hmem : g ∈ withKey g.key findings := List.mem_filter.2 ⟨hg, by simp⟩
    obtain ⟨f, hchampion⟩ := champion_isSome_of_mem hmem
    obtain ⟨hf, hkey⟩ := List.mem_filter.1 (champion_mem hchampion)
    have hkey' : f.key = g.key := of_decide_eq_true hkey
    have hqf : q f = true := (hkind f hf g hg hkey').trans hq
    have hfg : f = g := List.inj_on_of_nodup_map hnodup (List.mem_filter.2 ⟨hf, hqf⟩)
      (List.mem_filter.2 ⟨hg, hq⟩) hkey'
    rw [mem_mergeAndRank_iff, ← hfg, hkey', hchampion]

end Finding

/-! ## The reports of member accesses -/

/-- Findings in the same file stand in order, at different lines. -/
def Finding.StandsAbove (f g : Finding) : Prop :=
  f.filePath = g.filePath → f.lineNumber < g.lineNumber

namespace Chunk

theorem lineNumber_memberAccess {c : Chunk} {index : Nat} (hindex : index < c.addedLines.length)
    (hrange : c.startLine + c.addedLines.length ≤ maxWord) :
    (MemberAccess.finding c index).lineNumber = c.startLine + index := by
  show min (c.startLine + index) maxWord = c.startLine + index
  omega

/-- The reports on one chunk stand in the order of its lines. -/
theorem pairwise_memberAccessFindings {c : Chunk}
    (hrange : c.startLine + c.addedLines.length ≤ maxWord) :
    c.memberAccessFindings.Pairwise Finding.StandsAbove := by
  have hindices : (c.addedLines.zipIdx.map Prod.snd).Pairwise (· < ·) := by
    rw [List.zipIdx_map_snd]
    exact List.pairwise_lt_range'
  rw [List.pairwise_map] at hindices
  rw [memberAccessFindings, List.pairwise_map]
  refine (hindices.filter _).imp_of_mem ?_
  intro line line' hline hline' hlt _
  have hindex : line.2 < c.addedLines.length :=
    (List.mem_zipIdx' (List.mem_filter.1 hline).1).1
  have hindex' : line'.2 < c.addedLines.length :=
    (List.mem_zipIdx' (List.mem_filter.1 hline').1).1
  rw [lineNumber_memberAccess hindex hrange, lineNumber_memberAccess hindex' hrange]
  omega

namespace FollowEachOther

variable {chunks : List Chunk}

/-- Of any two chunks of a file the later one begins below all lines that the earlier one adds. -/
theorem pairwise (h : FollowEachOther chunks) :
    chunks.Pairwise fun c d => c.filePath = d.filePath → c.EndsBefore d := by
  rw [List.pairwise_iff_forall_sublist]
  intro c d hsublist hpath
  have hfile := List.isChain_iff_pairwise.1 (h.inOrder d.filePath)
  rw [List.pairwise_filter, List.pairwise_iff_forall_sublist] at hfile
  exact hfile hsublist (decide_eq_true hpath) (decide_eq_true rfl)

/-- The reports of member accesses in all chunks stand in order in each file. -/
theorem pairwise_memberAccessFindings (h : FollowEachOther chunks) :
    (chunks.flatMap memberAccessFindings).Pairwise Finding.StandsAbove := by
  rw [List.pairwise_flatMap]
  constructor
  · intro c hc
    exact Chunk.pairwise_memberAccessFindings (h.inRange c hc)
  · refine h.pairwise.imp_of_mem ?_
    intro c d hc hd hbelow f hf g hg hpath
    obtain ⟨index, hindex, rfl⟩ := mem_memberAccessFindings hf
    obtain ⟨index', hindex', rfl⟩ := mem_memberAccessFindings hg
    have hstart : c.startLine + c.addedLines.length ≤ d.startLine := hbelow hpath
    rw [lineNumber_memberAccess hindex (h.inRange c hc),
      lineNumber_memberAccess hindex' (h.inRange d hd)]
    omega

end FollowEachOther

theorem length_flatMap_memberAccessFindings (chunks : List Chunk) :
    (chunks.flatMap memberAccessFindings).length =
      (chunks.flatMap (·.addedLines)).countP MemberAccess.isUnguarded := by
  induction chunks with
  | nil => rfl
  | cons c rest ih =>
    rw [List.flatMap_cons, List.length_append, ih, length_memberAccessFindings,
      List.flatMap_cons, List.countP_append]

end Chunk

namespace Pipeline

variable {σ : Type} {settings : Settings} {model : Option (Model (StateM σ))}

/-- What the rules and any model find of the kind of member accesses. -/
theorem filter_potentialBug (hon : settings.app.heuristicsEnabled = true) (pr : PullRequest)
    (chunks : List Chunk) (s : σ) :
    ((settings.pipeline .builtIn model).heuristicFindings chunks ++
        (((settings.pipeline .builtIn model).modelFindings pr chunks).run s).1).filter
        (fun f => f.category = Finding.potentialBug) =
      chunks.flatMap Chunk.memberAccessFindings := by
  have hmodel : (((settings.pipeline .builtIn model).modelFindings pr chunks).run s).1.filter
      (fun f => f.category = Finding.potentialBug) = [] := by
    rw [List.filter_eq_nil_iff]
    intro f hf
    obtain ⟨c, -, k, line, rfl⟩ := exists_remark_of_modelFindings hf
    have hcategory : Finding.codeReview ≠ Finding.potentialBug := by decide
    exact fun h => hcategory (of_decide_eq_true h)
  rw [List.filter_append, hmodel, List.append_nil, heuristicFindings_builtIn, if_pos hon,
    List.filter_flatMap]
  refine List.flatMap_congr fun c _ => ?_
  have hsecrets : c.secretFindings.filter (fun f => f.category = Finding.potentialBug) = [] := by
    rw [List.filter_eq_nil_iff]
    intro f hf
    obtain ⟨line, -, kind, -, rfl⟩ := mem_secretFindings.1 hf
    have hcategory : Finding.security ≠ Finding.potentialBug := by decide
    exact fun h => hcategory (of_decide_eq_true h)
  have haccesses : c.memberAccessFindings.filter
      (fun f => f.category = Finding.potentialBug) = c.memberAccessFindings := by
    rw [List.filter_eq_self]
    intro f hf
    obtain ⟨index, -, rfl⟩ := mem_memberAccessFindings hf
    exact decide_eq_true rfl
  rw [List.filter_append, hsecrets, haccesses, List.nil_append]

/-- A review reports as many potential bugs as the chunks have added lines that access a member and
hold no guard, whatever the other rule and the model find. -/
theorem report_counts_accesses (hon : settings.app.heuristicsEnabled = true)
    (model : Option (Model (StateM σ))) {chunks : List Chunk}
    (hchunks : Chunk.FollowEachOther chunks) (pr : PullRequest) (s : σ) :
    let p := settings.pipeline .builtIn model
    let byModel := ((p.modelFindings pr chunks).run s).1
    let report := p.report chunks (p.heuristicFindings chunks) byModel
    report.findings.countP (fun f => f.category = Finding.potentialBug) =
        (chunks.flatMap (·.addedLines)).countP MemberAccess.isUnguarded ∧
      (∀ line : String, MemberAccess.isUnguarded line = true ↔
        (∃ text, MemberAccess.IsAccess text ∧ text <:+: line.toList) ∧
          ∀ guard ∈ ["?.", "try", "if"], ¬ guard.toList <:+: line.toList) ∧
      ∀ diff : String, p.limits.isExceededBy diff = false → p.chunksOf diff = chunks →
        ((p.analyze pr diff).run s).1 = some report := by
  intro p byModel report
  have hanalyze : ∀ diff : String, p.limits.isExceededBy diff = false → p.chunksOf diff = chunks →
      ((p.analyze pr diff).run s).1 = some report := by
    intro diff hsize hkept
    rw [analyze_run_report hsize, hkept]
  refine ⟨?_, fun line => MemberAccess.isUnguarded_iff, hanalyze⟩
  have hgraded : Finding.Graded (p.heuristicFindings chunks ++ byModel) := graded_found pr chunks s
  have haccesses : (p.heuristicFindings chunks ++ byModel).filter
      (fun f => f.category = Finding.potentialBug) = chunks.flatMap Chunk.memberAccessFindings :=
    filter_potentialBug hon pr chunks s
  -- In graded findings a key tells the place and the kind, so only a report could displace another.
  have hkind : ∀ f ∈ p.heuristicFindings chunks ++ byModel,
      ∀ g ∈ p.heuristicFindings chunks ++ byModel, f.key = g.key →
        decide (f.category = Finding.potentialBug) =
          decide (g.category = Finding.potentialBug) := by
    intro f hf g hg hkey
    have hsame : f.SamePlace g := (hgraded.key_eq_iff hf hg).1 hkey
    rw [hsame.2.2]
  have hnodup : (((p.heuristicFindings chunks ++ byModel).filter
      fun f => f.category = Finding.potentialBug).map Finding.key).Nodup := by
    rw [haccesses, List.Nodup, List.pairwise_map]
    refine hchunks.pairwise_memberAccessFindings.imp_of_mem ?_
    intro f g hf hg habove hkey
    rw [← haccesses] at hf hg
    obtain ⟨hpath, hline, -⟩ := (hgraded.key_eq_iff (List.mem_of_mem_filter hf)
      (List.mem_of_mem_filter hg)).1 hkey
    exact Nat.ne_of_lt (habove hpath) hline
  calc report.findings.countP (fun f => f.category = Finding.potentialBug)
      = ((Finding.mergeAndRank (p.heuristicFindings chunks ++ byModel)).filter
          fun f => f.category = Finding.potentialBug).length := List.countP_eq_length_filter
    _ = ((p.heuristicFindings chunks ++ byModel).filter
          fun f => f.category = Finding.potentialBug).length :=
        (Finding.filter_mergeAndRank_perm hkind hnodup).length_eq
    _ = (chunks.flatMap (·.addedLines)).countP MemberAccess.isUnguarded := by
        rw [haccesses, Chunk.length_flatMap_memberAccessFindings]

/-- Two chunks of one file with a chunk of another file between them, where the model says of each
that there is a bug: the guarded access is not reported, and no other one is lost. -/
theorem report_counts_accesses_of_two_files :
    let chunk (path : String) (line : Nat) (added : List String) : Chunk :=
      { filePath := path, fileType := "unknown", startLine := line, addedLines := added
        removedLines := [], context := "", change := .modified }
    let chunks := [chunk "a" 1 ["x.y", "if (x.y)"], chunk "b" 1 ["x.y"], chunk "a" 3 ["x.y"]]
    let model : Model (StateM Unit) := ⟨"m", fun _ => pure (.ok "a bug")⟩
    let p := ({} : Settings).pipeline .builtIn (some model)
    Chunk.FollowEachOther chunks ∧
      (p.report chunks (p.heuristicFindings chunks)
        ((p.modelFindings {} chunks).run ()).1).findings.countP
          (fun f => f.category = Finding.potentialBug) = 3 := by
  intro chunk chunks model p
  have hchunks : Chunk.FollowEachOther chunks := by
    constructor
    · intro path
      by_cases ha : "a" = path
      · subst ha
        simp [chunks, chunk, Chunk.EndsBefore]
      · by_cases hb : "b" = path
        · subst hb
          simp [chunks, chunk]
        · simp [chunks, chunk, ha, hb]
    · intro c hc
      simp only [chunks, List.mem_cons, List.not_mem_nil, or_false] at hc
      rcases hc with rfl | rfl | rfl
      · decide
      · decide
      · decide
  have hon : ({} : Settings).app.heuristicsEnabled = true := rfl
  obtain ⟨hcount, -, -⟩ := report_counts_accesses hon (some model) hchunks {} ()
  refine ⟨hchunks, ?_⟩
  rw [hcount]
  decide +kernel

end Pipeline

end ReviewBot
