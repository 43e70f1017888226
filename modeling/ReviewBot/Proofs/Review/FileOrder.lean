import ReviewBot.Proofs.Diff.Limits
import ReviewBot.Proofs.Diff.Sections
import ReviewBot.Proofs.Finding.Reordering
import ReviewBot.Proofs.Report.Identify
import ReviewBot.Proofs.Review.Raw

set_option autoImplicit false

/-!
# The order of files

Rules and models look at one chunk at a time, and findings in different files never count as the
same remark. So a review with a model that depends on the prompt alone says the same of a diff in
whatever order its files stand, as long as all of them are within the limits
(`analyze_sameUpToOrder`).
-/

namespace ReviewBot

/-- No file has chunks in both lists. -/
def FilesApart (a b : List Chunk) : Prop := ∀ c ∈ a, ∀ d ∈ b, c.filePath ≠ d.filePath

instance : Std.Symm FilesApart := ⟨fun _ _ h c hc d hd e => h d hd c hc e.symm⟩

namespace Finding

/-- The findings on chunks are those on each chunk for itself, and these are in the file of the
chunk. -/
structure FoundByChunk (find : List Chunk → List Finding) : Prop where
  flatMap_eq : ∀ chunks, find chunks = chunks.flatMap fun c => find [c]
  filePath_eq : ∀ c, ∀ f ∈ find [c], f.filePath = c.filePath
  graded : ∀ chunks, Graded (find chunks)

namespace FoundByChunk

variable {find : List Chunk → List Finding}

theorem exists_filePath_eq (h : FoundByChunk find) {chunks : List Chunk} {f : Finding}
    (hf : f ∈ find chunks) : ∃ c ∈ chunks, f.filePath = c.filePath := by
  rw [h.flatMap_eq] at hf
  obtain ⟨c, hc, hf⟩ := List.mem_flatMap.1 hf
  exact ⟨c, hc, h.filePath_eq c f hf⟩

theorem flatten_eq (h : FoundByChunk find) (groups : List (List Chunk)) :
    find groups.flatten = groups.flatMap find := by
  rw [h.flatMap_eq, ← List.flatMap_id, List.flatMap_assoc]
  refine List.flatMap_congr fun chunks _ => ?_
  exact (h.flatMap_eq chunks).symm

theorem length_eq_of_perm (h : FoundByChunk find) {chunks chunks' : List Chunk}
    (hperm : chunks.Perm chunks') : (find chunks).length = (find chunks').length := by
  rw [h.flatMap_eq chunks, h.flatMap_eq chunks']
  exact (hperm.flatMap_right _).length_eq

/-- Of the findings in different files those with one key are all in one of them. -/
theorem withKey_eq_nil_or (h : FoundByChunk find) {a b : List Chunk} (hapart : FilesApart a b)
    (k : String) : withKey k (find a) = [] ∨ withKey k (find b) = [] := by
  by_cases ha : withKey k (find a) = []
  · exact Or.inl ha
  · refine Or.inr (List.eq_nil_iff_forall_not_mem.2 fun g hg => ?_)
    obtain ⟨f, hf⟩ := List.exists_mem_of_ne_nil _ ha
    obtain ⟨hf, hfk⟩ := List.mem_filter.1 hf
    obtain ⟨hg, hgk⟩ := List.mem_filter.1 hg
    have hkey : f.key = g.key := by
      rw [decide_eq_true_eq] at hfk hgk
      rw [hfk, hgk]
    -- The category has no colon, so the key tells the file.
    have hplace := (key_eq_iff (Grade.colon_not_mem (h.graded a f hf))
      (Grade.colon_not_mem (h.graded b g hg))).1 hkey
    obtain ⟨c, hc, hfc⟩ := h.exists_filePath_eq hf
    obtain ⟨d, hd, hgd⟩ := h.exists_filePath_eq hg
    exact hapart c hc d hd (by rw [← hfc, ← hgd, hplace.1])

/-- The findings with one key do not depend on the order of files. -/
theorem withKey_eq_of_perm (h : FoundByChunk find) {groups groups' : List (List Chunk)}
    (hperm : groups.Perm groups') (hapart : groups.Pairwise FilesApart) (k : String) :
    withKey k (find groups.flatten) = withKey k (find groups'.flatten) := by
  rw [h.flatten_eq, h.flatten_eq]
  unfold withKey
  rw [List.filter_flatMap, List.filter_flatMap]
  refine flatMap_eq_of_perm hperm fun a ha b hb => ?_
  by_cases hab : a = b
  · rw [hab]
  · rcases h.withKey_eq_nil_or (hapart.forall ha hb hab) k with hnil | hnil
    · unfold withKey at hnil
      rw [hnil, List.append_nil, List.nil_append]
    · unfold withKey at hnil
      rw [hnil, List.append_nil, List.nil_append]

end FoundByChunk

/-- The finding without its identifier. -/
def unidentified (f : Finding) : Finding := { f with id := "" }

end Finding

/-- The reports have the same counts and, apart from identifiers, the same findings, with findings
of the same precedence, severity and confidence at each position. -/
structure Report.SameUpToOrder (r r' : Report) : Prop where
  stats_eq : r.stats = r'.stats
  findings_perm : (r.findings.map Finding.unidentified).Perm (r'.findings.map Finding.unidentified)
  standings_eq : r.findings.map (fun f => (f.precedence, f.severity, f.confidence)) =
    r'.findings.map fun f => (f.precedence, f.severity, f.confidence)

theorem Report.SameUpToOrder.identify {r r' : Report} (h : r.SameUpToOrder r')
    (ids ids' : Nat → String) : (r.identify ids).SameUpToOrder (r'.identify ids') where
  stats_eq := h.stats_eq
  findings_perm := by
    have hsame : ∀ (f : Finding) (i : String),
        Finding.unidentified { f with id := i } = f.unidentified := fun _ _ => rfl
    rw [map_identify hsame, map_identify hsame]
    exact h.findings_perm
  standings_eq := by
    rw [map_identify fun _ _ => rfl, map_identify fun _ _ => rfl]
    exact h.standings_eq

namespace Pipeline

open Finding (FoundByChunk)

theorem foundByChunk_heuristicFindings {m : Type → Type} (settings : Settings)
    (model : Option (Model m)) :
    FoundByChunk (settings.pipeline .builtIn model).heuristicFindings where
  flatMap_eq := by
    intro chunks
    simp only [heuristicFindings_builtIn]
    split
    · simp
    · simp
  filePath_eq := by
    intro c f hf
    obtain ⟨chunk, hchunk, hfound⟩ := exists_chunk_of_heuristicFindings hf
    obtain rfl := List.mem_singleton.1 hchunk
    rcases hfound with ⟨kind, rfl⟩ | ⟨index, -, rfl⟩
    · rfl
    · rfl
  graded := fun _ _ hf => grade_mem_of_heuristicFindings hf

theorem foundByChunk_modelFindings (p : Pipeline Id) (pr : PullRequest) :
    FoundByChunk fun chunks => (p.modelFindings pr chunks).run := by
  unfold modelFindings
  cases p.model with
  | none =>
    refine ⟨fun chunks => ?_, fun _ _ hf => absurd hf List.not_mem_nil,
      fun _ _ hf => absurd hf List.not_mem_nil⟩
    exact (List.flatMap_eq_nil_iff.2 fun _ _ => rfl).symm
  | some model =>
    refine ⟨?_, ?_, ?_⟩
    · intro chunks
      simp only [Model.review_eq_flatMap, List.flatMap_singleton]
    · intro c f hf
      simp only [Model.review_eq_flatMap, List.flatMap_singleton] at hf
      obtain ⟨k, line, rfl⟩ := Model.mem_findingsOf hf
      rfl
    · intro chunks f hf
      simp only [Model.review_eq_flatMap] at hf
      obtain ⟨c, -, hf⟩ := List.mem_flatMap.1 hf
      obtain ⟨k, line, rfl⟩ := Model.mem_findingsOf hf
      rw [Finding.grade_remark]
      cases k <;> decide

theorem report_sameUpToOrder (p : Pipeline Id) {byRules byModel : List Chunk → List Finding}
    (hrules : FoundByChunk byRules) (hmodel : FoundByChunk byModel)
    {groups groups' : List (List Chunk)} (hperm : groups.Perm groups')
    (hapart : groups.Pairwise FilesApart) :
    (p.report groups.flatten (byRules groups.flatten) (byModel groups.flatten)).SameUpToOrder
      (p.report groups'.flatten (byRules groups'.flatten) (byModel groups'.flatten)) := by
  have hchunks : groups.flatten.Perm groups'.flatten := hperm.flatten
  have hfindings : (Finding.mergeAndRank (byRules groups.flatten ++ byModel groups.flatten)).Perm
      (Finding.mergeAndRank (byRules groups'.flatten ++ byModel groups'.flatten)) := by
    -- The findings with one key are all in one file, and keep their order there.
    refine Finding.mergeAndRank_perm_of_withKey fun k => ?_
    have hr := hrules.withKey_eq_of_perm hperm hapart k
    have hm := hmodel.withKey_eq_of_perm hperm hapart k
    unfold Finding.withKey at hr hm ⊢
    rw [List.filter_append, List.filter_append, hr, hm]
  constructor
  case stats_eq =>
    simp only [report, (distinctPaths_perm hchunks).length_eq, hchunks.length_eq,
      hrules.length_eq_of_perm hchunks, hmodel.length_eq_of_perm hchunks, hfindings.length_eq]
  case findings_perm => exact hfindings.map _
  case standings_eq => exact Finding.map_standing_mergeAndRank hfindings

/-- Within the size limit a diff yields the report on its chunks. -/
theorem analyze_eq_report {p : Pipeline Id} {diff : String}
    (h : p.limits.isExceededBy diff = false) (pr : PullRequest) :
    (p.analyze pr diff).run = some (p.report (p.chunksOf diff)
      (p.heuristicFindings (p.chunksOf diff)) (p.modelFindings pr (p.chunksOf diff)).run) := by
  rw [analyze, h]
  rfl

/-- A review with a model that depends on the prompt alone yields the same report, apart from
identifiers and the order of findings that are ranked alike, in whatever order the files of the diff
stand. -/
theorem analyze_sameUpToOrder (settings : Settings) (model : Option (Model Id)) (pr : PullRequest)
    {pieces pieces' : List String} (hperm : pieces.Perm pieces')
    (hpieces : ∀ d ∈ pieces, Diff.IsGitPiece d)
    (hapart : pieces.Pairwise fun d e => FilesApart (Chunk.ofDiff d) (Chunk.ofDiff e))
    (hsize : settings.limits.isExceededBy (String.join pieces) = false)
    (hfiles : (distinctPaths (Chunk.ofDiff (String.join pieces))).length ≤
      settings.limits.maxFiles) :
    let p := settings.pipeline .builtIn model
    ∃ report report', (p.analyze pr (String.join pieces)).run = some report ∧
      (p.analyze pr (String.join pieces')).run = some report' ∧
      ∀ ids ids', (report.identify ids).SameUpToOrder (report'.identify ids') := by
  intro p
  have hpieces' : ∀ d ∈ pieces', Diff.IsGitPiece d := fun d hd => hpieces d (hperm.mem_iff.2 hd)
  have hgroups : (pieces.map Chunk.ofDiff).Perm (pieces'.map Chunk.ofDiff) := hperm.map _
  have hsize' : settings.limits.isExceededBy (String.join pieces') = false := by
    rw [← Limits.isExceededBy_join_eq_of_perm hperm, hsize]
  rw [Diff.ofDiff_join hpieces] at hfiles
  have hchunks : p.chunksOf (String.join pieces) = (pieces.map Chunk.ofDiff).flatten := by
    rw [chunksOf, Diff.ofDiff_join hpieces]
    exact Limits.keep_eq_self hfiles
  have hchunks' : p.chunksOf (String.join pieces') = (pieces'.map Chunk.ofDiff).flatten := by
    rw [chunksOf, Diff.ofDiff_join hpieces']
    refine Limits.keep_eq_self ?_
    rw [← (distinctPaths_perm hgroups.flatten).length_eq]
    exact hfiles
  refine ⟨_, _, analyze_eq_report (p := p) hsize pr, analyze_eq_report (p := p) hsize' pr, ?_⟩
  rw [hchunks, hchunks']
  intro ids ids'
  refine Report.SameUpToOrder.identify ?_ ids ids'
  exact report_sameUpToOrder p (foundByChunk_heuristicFindings settings model)
    (foundByChunk_modelFindings p pr) hgroups (List.pairwise_map.2 hapart)

/-- Two files, the path of one being that of the other with a colon and a number behind it. -/
theorem analyze_sameUpToOrder_of_colon_in_path :
    let key := "diff --git a/k b/k\n@@ -0,0 +1,2 @@\n+AWS_ACCESS_KEY_ID\n+a.b\n"
    let access := "diff --git a/k:1 b/k:1\n@@ -0,0 +1 @@\n+c.d\n"
    let model : Model Id := ⟨"m", fun _ => .ok "a bug"⟩
    let p := ({} : Settings).pipeline .builtIn (some model)
    (Chunk.ofDiff (String.join [key, access])).map (·.filePath) = ["k", "k:1"] ∧
      (Chunk.ofDiff (String.join [access, key])).map (·.filePath) = ["k:1", "k"] ∧
      ∃ report report', (p.analyze {} (String.join [key, access])).run = some report ∧
        (p.analyze {} (String.join [access, key])).run = some report' ∧
        ∀ ids ids', (report.identify ids).SameUpToOrder (report'.identify ids') := by
  intro key access model p
  have hpieces : ∀ d ∈ [key, access], Diff.IsGitPiece d := by
    intro d hd
    rcases List.mem_pair.1 hd with rfl | rfl
    · exact ⟨⟨"a/k b/k\n@@ -0,0 +1,2 @@\n+AWS_ACCESS_KEY_ID\n+a.b\n".toList, by decide⟩,
        ⟨"diff --git a/k b/k\n@@ -0,0 +1,2 @@\n+AWS_ACCESS_KEY_ID\n+a.b".toList, by decide⟩⟩
    · exact ⟨⟨"a/k:1 b/k:1\n@@ -0,0 +1 @@\n+c.d\n".toList, by decide⟩,
        ⟨"diff --git a/k:1 b/k:1\n@@ -0,0 +1 @@\n+c.d".toList, by decide⟩⟩
  have hapart : [key, access].Pairwise fun d e =>
      FilesApart (Chunk.ofDiff d) (Chunk.ofDiff e) := by
    rw [List.pairwise_pair]
    unfold FilesApart
    decide
  have hboth : (Chunk.ofDiff (String.join [key, access])).map (·.filePath) = ["k", "k:1"] := by
    decide
  have hsize : ({} : Settings).limits.isExceededBy (String.join [key, access]) = false := by
    decide
  have hfiles : (distinctPaths (Chunk.ofDiff (String.join [key, access]))).length ≤
      ({} : Settings).limits.maxFiles := by
    decide
  exact ⟨hboth, by decide, analyze_sameUpToOrder {} (some model) {} (List.Perm.swap access key [])
    hpieces hapart hsize hfiles⟩

end Pipeline

end ReviewBot
