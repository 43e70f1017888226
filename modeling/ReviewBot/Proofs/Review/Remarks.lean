import ReviewBot.Proofs.Review.Raw

set_option autoImplicit false

/-!
# The remarks of a model in a report

All remarks about chunks of one file that begin at the same line have the same key, so merging keeps
one of them. It chooses by confidence, which grows with the class of the remark. So the line of the
replies that is left is the first one of the greatest class that any of their lines has
(`analyze_keeps_strongest_remark`), where the class of a line is the first one in the table of which
a trigger stands in the line (`RemarkClass.IsClassOf`).
-/

namespace ReviewBot

namespace Model

namespace RemarkClass

/-- A trigger of the class stands in the line, whatever the case of its letters. -/
def OccursIn (k : RemarkClass) (line : List Char) : Prop :=
  ∃ trigger ∈ k.triggers, trigger.toList <:+: Text.lower line

/-- The class is the first one in the table of which a trigger stands in the line. -/
def IsClassOf (k : RemarkClass) (line : List Char) : Prop :=
  k.OccursIn line ∧ ∃ front back, all = front ++ k :: back ∧ ∀ k' ∈ front, ¬ k'.OccursIn line

/-- The line `text` is of the class, no line is of a greater one, and no earlier line is of the same
one. -/
structure LeadsWith (k : RemarkClass) (text : List Char) (lines : List (List Char)) : Prop where
  isClassOf : k.IsClassOf text
  exists_split : ∃ front back, lines = front ++ text :: back ∧
    (∀ l ∈ front, ∀ k' : RemarkClass, k'.IsClassOf l → k'.severity.rank < k.severity.rank) ∧
    ∀ l ∈ back, ∀ k' : RemarkClass, k'.IsClassOf l → k'.severity.rank ≤ k.severity.rank

theorem claims_iff {k : RemarkClass} {line : List Char} :
    k.claims (Text.lower line) = true ↔ k.OccursIn line := by
  simp only [claims, List.any_eq_true, Text.occursIn_iff, OccursIn]

theorem ofLine?_eq_some_iff {line : List Char} {k : RemarkClass} :
    ofLine? line = some k ↔ k.IsClassOf line := by
  simp only [ofLine?, List.find?_eq_some_iff_append, Bool.not_eq_true', IsClassOf,
    ← claims_iff, Bool.not_eq_true]

theorem defined_confidence (k : RemarkClass) : k.confidence.isNaN = false := by
  cases k <;> decide

/-- A greater confidence goes with a greater severity. -/
theorem rank_lt_of_less {k k' : RemarkClass} (h : k'.confidence.less k.confidence = true) :
    k'.severity.rank < k.severity.rank := by
  revert h
  cases k' <;> cases k <;> decide

theorem rank_le_of_atMost {k k' : RemarkClass} (h : k'.confidence.AtMost k.confidence) :
    k'.severity.rank ≤ k.severity.rank := by
  revert h
  cases k' <;> cases k <;> decide

theorem IsClassOf.unique {k k' : RemarkClass} {line : List Char} (h : k.IsClassOf line)
    (h' : k'.IsClassOf line) : k = k' :=
  Option.some.inj ((ofLine?_eq_some_iff.2 h).symm.trans (ofLine?_eq_some_iff.2 h'))

theorem eq_of_rank_eq {k k' : RemarkClass} (h : k.severity.rank = k'.severity.rank) : k = k' := by
  revert h
  cases k <;> cases k' <;> decide

theorem LeadsWith.rank_le {k k' : RemarkClass} {text line : List Char} {lines : List (List Char)}
    (h : k.LeadsWith text lines) (hline : line ∈ lines) (hk : k'.IsClassOf line) :
    k'.severity.rank ≤ k.severity.rank := by
  obtain ⟨hclass, front, back, rfl, hfront, hback⟩ := h
  rcases List.mem_append.1 hline with hline | hline
  · exact Nat.le_of_lt (hfront line hline k' hk)
  · rcases List.mem_cons.1 hline with rfl | hline
    · obtain rfl := hk.unique hclass
      exact Nat.le_refl _
    · exact hback line hline k' hk

/-- At most one line leads. -/
theorem LeadsWith.unique {k k' : RemarkClass} {text text' : List Char} {lines : List (List Char)}
    (h : k.LeadsWith text lines) (h' : k'.LeadsWith text' lines) : k = k' ∧ text = text' := by
  have hmem : text ∈ lines := by
    obtain ⟨-, front, back, rfl, -, -⟩ := h
    simp
  have hmem' : text' ∈ lines := by
    obtain ⟨-, front, back, rfl, -, -⟩ := h'
    simp
  obtain rfl : k = k' :=
    eq_of_rank_eq (Nat.le_antisymm (h'.rank_le hmem h.isClassOf) (h.rank_le hmem' h'.isClassOf))
  refine ⟨rfl, ?_⟩
  -- Neither line stands before the other: all lines before a leading one are of lower classes.
  obtain ⟨hclass, front, back, rfl, hfront, -⟩ := h
  obtain ⟨hclass', front', back', e, hfront', -⟩ := h'
  rcases List.append_eq_append_iff.1 e with ⟨between, rfl, hrest⟩ | ⟨between, rfl, hrest⟩
  · cases between with
    | nil => exact (List.cons.inj hrest).1
    | cons l between =>
      obtain ⟨rfl, -⟩ := List.cons.inj hrest
      exact absurd (hfront' text (by simp) k hclass) (Nat.lt_irrefl _)
  · cases between with
    | nil => exact (List.cons.inj hrest).1.symm
    | cons l between =>
      obtain ⟨rfl, -⟩ := List.cons.inj hrest
      exact absurd (hfront text' (by simp) k hclass') (Nat.lt_irrefl _)

end RemarkClass

/-! ## The remarks about one place -/

theorem remark?_of_isClassOf {k : RemarkClass} {line : List Char} (h : k.IsClassOf line)
    (chunk : Chunk) : remark? chunk line = some (k.finding chunk line) := by
  rw [remark?, RemarkClass.ofLine?_eq_some_iff.2 h]
  rfl

theorem remark?_congr {a b : Chunk} (hpath : a.filePath = b.filePath)
    (hline : a.startLine = b.startLine) : remark? a = remark? b := by
  funext line
  unfold remark? RemarkClass.finding
  rw [hpath, hline]

/-- The champion of the remarks in lines is the remark of the line that leads. -/
theorem exists_leadsWith_of_champion {chunk : Chunk} {lines : List (List Char)} {f : Finding}
    (h : Finding.champion (lines.filterMap (remark? chunk)) = some f) :
    ∃ (k : RemarkClass) (text : List Char), k.LeadsWith text lines ∧ f = k.finding chunk text := by
  have hdefined : ∀ g ∈ lines.filterMap (remark? chunk), g.confidence.isNaN = false := by
    intro g hg
    obtain ⟨line, -, hline⟩ := List.mem_filterMap.1 hg
    obtain ⟨k, -, rfl⟩ := Option.map_eq_some_iff.1 hline
    exact k.defined_confidence
  have hmost := Finding.champion_atMost hdefined h
  obtain ⟨earlier, later, hsplit, hless⟩ := Finding.exists_less_before_champion hdefined h
  -- The lines before the one of the champion make the earlier remarks or none.
  obtain ⟨front, rest, rfl, hfront, hrest⟩ := List.filterMap_eq_append_iff.1 hsplit
  obtain ⟨silent, text, back, rfl, hsilent, htext, -⟩ := List.filterMap_eq_cons_iff.1 hrest
  obtain ⟨k, hk, rfl⟩ := Option.map_eq_some_iff.1 htext
  refine ⟨k, text, ⟨RemarkClass.ofLine?_eq_some_iff.1 hk, front ++ silent, back, by simp, ?_, ?_⟩,
    rfl⟩
  · intro l hl k' hk'
    have hremark := remark?_of_isClassOf hk' chunk
    rcases List.mem_append.1 hl with hl | hl
    · have hearlier : k'.finding chunk l ∈ earlier := by
        rw [← hfront]
        exact List.mem_filterMap.2 ⟨l, hl, hremark⟩
      exact RemarkClass.rank_lt_of_less (hless _ hearlier)
    · rw [hsilent l hl] at hremark
      simp at hremark
  · intro l hl k' hk'
    have hmem : k'.finding chunk l ∈
        (front ++ (silent ++ text :: back)).filterMap (remark? chunk) :=
      List.mem_filterMap.2 ⟨l, by simp [hl], remark?_of_isClassOf hk' chunk⟩
    exact RemarkClass.rank_le_of_atMost (hmost _ hmem)

/-- The lines of an answer; an error has none. -/
def linesOf : Except Error String → List (List Char)
  | .ok reply => replyLines reply
  | .error _ => []

/-- The lines of the answers about the chunks of a file that begin at a line, answer by answer. -/
def linesAt (path : String) (line : Nat) (chunks : List Chunk)
    (answers : List (Except Error String)) : List (List Char) :=
  ((chunks.zip answers).filter fun asked =>
    asked.1.filePath = path ∧ asked.1.startLine = line).flatMap fun asked => linesOf asked.2

theorem findingsOf_eq_filterMap (chunk : Chunk) (answer : Except Error String) :
    findingsOf chunk answer = (linesOf answer).filterMap (remark? chunk) := by
  cases answer with
  | error e => rfl
  | ok reply => rfl

end Model

namespace Finding

open Model

theorem placedAt_findingsOf (path : String) (line : Nat) (chunk : Chunk)
    (answer : Except Error String) :
    placedAt path line codeReview (findingsOf chunk answer) =
      if chunk.filePath = path ∧ chunk.startLine = line then findingsOf chunk answer else [] := by
  refine placedAt_eq_ite fun f hf => ?_
  obtain ⟨k, text, rfl⟩ := mem_findingsOf hf
  exact ⟨rfl, rfl, rfl⟩

/-- The remarks at the beginning of a chunk are those of the lines of the answers about the chunks
that begin there. -/
theorem placedAt_foundIn (chunk : Chunk) (chunks : List Chunk)
    (answers : List (Except Error String)) :
    placedAt chunk.filePath chunk.startLine codeReview (foundIn chunks answers) =
      (linesAt chunk.filePath chunk.startLine chunks answers).filterMap (remark? chunk) := by
  induction chunks generalizing answers with
  | nil => rfl
  | cons c rest ih =>
    cases answers with
    | nil => rfl
    | cons answer answers =>
      rw [foundIn_cons, placedAt_append, ih, placedAt_findingsOf, linesAt, linesAt,
        List.zip_cons_cons, List.filter_cons]
      by_cases hplace : c.filePath = chunk.filePath ∧ c.startLine = chunk.startLine
      · rw [if_pos hplace, if_pos (by simpa using hplace), List.flatMap_cons, List.filterMap_append,
          findingsOf_eq_filterMap, remark?_congr hplace.1 hplace.2]
      · rw [if_neg hplace, if_neg (by simpa using hplace), List.nil_append]

end Finding

namespace Pipeline

variable {σ : Type}

/-- What the model answers about the chunks in a run that begins in the state `s`. -/
def answers (p : Pipeline (StateM σ)) (pr : PullRequest) (chunks : List Chunk) (s : σ) :
    List (Except Error String) :=
  match p.model with
  | some model => ((model.answers pr chunks).run s).1
  | none => []

theorem modelFindings_eq_foundIn (p : Pipeline (StateM σ)) (pr : PullRequest) (chunks : List Chunk)
    (s : σ) :
    ((p.modelFindings pr chunks).run s).1 = Model.foundIn chunks (p.answers pr chunks s) := by
  unfold modelFindings answers
  cases p.model with
  | none =>
    rw [Model.foundIn, List.zip_nil_right]
    rfl
  | some model =>
    show ((model.review pr chunks).run s).1 =
      Model.foundIn chunks ((model.answers pr chunks).run s).1
    rw [Model.review_eq_map_answers]
    rfl

variable {settings : Settings} {model : Option (Model (StateM σ))}

/-- The built-in rules make no remarks. -/
theorem category_ne_codeReview_of_heuristicFindings {chunks : List Chunk} {f : Finding}
    (h : f ∈ (settings.pipeline .builtIn model).heuristicFindings chunks) :
    f.category ≠ Finding.codeReview := by
  obtain ⟨chunk, -, ⟨kind, rfl⟩ | ⟨index, -, rfl⟩⟩ := exists_chunk_of_heuristicFindings h
  · show Finding.security ≠ Finding.codeReview
    decide
  · show Finding.potentialBug ≠ Finding.codeReview
    decide

/-- The raw remarks at the beginning of a chunk. -/
theorem placedAt_rawFindings (pr : PullRequest) (diff : String) (s : σ) (chunk : Chunk) :
    let p := settings.pipeline .builtIn model
    Finding.placedAt chunk.filePath chunk.startLine Finding.codeReview (p.rawFindings pr diff s) =
      (Model.linesAt chunk.filePath chunk.startLine (p.chunksOf diff)
        (p.answers pr (p.chunksOf diff) s)).filterMap (Model.remark? chunk) := by
  intro p
  rw [rawFindings, Finding.placedAt_append,
    Finding.placedAt_eq_nil fun _ => category_ne_codeReview_of_heuristicFindings, List.nil_append,
    modelFindings_eq_foundIn, Finding.placedAt_foundIn]

/-- Wherever the model has found something the report has one remark. It is that of the line which
leads the lines of all answers about chunks that begin there. -/
theorem analyze_keeps_strongest_remark (settings : Settings) (model : Option (Model (StateM σ)))
    (pr : PullRequest) (diff : String) (s : σ)
    (hsize : settings.limits.isExceededBy diff = false) :
    let p := settings.pipeline .builtIn model
    let chunks := p.chunksOf diff
    ∃ report : Report, ((p.analyze pr diff).run s).1 = some report ∧
      ∀ (path : String) (line : Nat),
        (∃ f ∈ ((p.modelFindings pr chunks).run s).1, f.filePath = path ∧ f.lineNumber = line) →
          ∃ (k : Model.RemarkClass) (text : List Char) (f : Finding),
            k.LeadsWith text (Model.linesAt path line chunks (p.answers pr chunks s)) ∧
            Finding.placedAt path line Finding.codeReview report.findings = [f] ∧
            f.severity = k.severity ∧ f.message = String.ofList (Text.trim text) := by
  intro p chunks
  have hgraded : Finding.Graded (p.rawFindings pr diff s) := graded_rawFindings pr diff s
  obtain ⟨report, hrun, hfindings⟩ := analyze_run (p := p) hsize pr s
  refine ⟨report, hrun, ?_⟩
  rintro path line ⟨f, hf, rfl, rfl⟩
  have hraw : f ∈ p.rawFindings pr diff s := List.mem_append_right _ hf
  obtain ⟨chunk, -, k, text, rfl⟩ := exists_remark_of_modelFindings hf
  have hmerged : Finding.placedAt chunk.filePath chunk.startLine Finding.codeReview
      report.findings = (Finding.champion (Finding.placedAt chunk.filePath chunk.startLine
        Finding.codeReview (p.rawFindings pr diff s))).toList := by
    rw [hfindings]
    exact hgraded.placedAt_mergeAndRank hraw
  have hremark : k.finding chunk text ∈ Finding.placedAt chunk.filePath chunk.startLine
      Finding.codeReview (p.rawFindings pr diff s) :=
    Finding.mem_placedAt.2 ⟨hraw, rfl, rfl, rfl⟩
  obtain ⟨g, hg⟩ := Finding.champion_isSome_of_mem hremark
  rw [hg] at hmerged
  rw [placedAt_rawFindings] at hg
  obtain ⟨k', text', hleads, rfl⟩ := Model.exists_leadsWith_of_champion hg
  exact ⟨k', text', _, hleads, hmerged, rfl, rfl⟩

/-- Three hunks that begin at the same line. The model speaks of a warning and a bug, fails, and
then speaks of a danger and something critical: the danger is left. -/
theorem analyze_keeps_strongest_remark_of_three_hunks :
    let diff := "+++ b/a\n@@ -0,0 +2 @@\n+x\n@@ -9 +2 @@\n+y\n@@ -9 +2 @@\n+z\n"
    let model : Model (StateM Nat) :=
      ⟨"m", fun _ n => (if n = 0 then .ok "a warning\nBUG one"
        else if n = 1 then .error (.config "")
        else .ok "fine\n Danger: two \ncritical", n + 1)⟩
    let p := ({} : Settings).pipeline .builtIn (some model)
    ∃ report : Report, ((p.analyze {} diff).run 0).1 = some report ∧
      (Finding.placedAt "a" 2 Finding.codeReview report.findings).map
        (fun f => (f.severity, f.message)) = [(.critical, "Danger: two")] := by
  intro diff model p
  obtain ⟨report, hrun, hreport⟩ :=
    analyze_keeps_strongest_remark ({} : Settings) (some model) {} diff 0 (by decide)
  have hfound : ∃ f ∈ ((p.modelFindings {} (p.chunksOf diff)).run 0).1,
      f.filePath = "a" ∧ f.lineNumber = 2 := by decide +kernel
  obtain ⟨k, text, f, hleads, hremarks, hseverity, hmessage⟩ := hreport "a" 2 hfound
  have hchampion : (Finding.champion ((Model.linesAt "a" 2 (p.chunksOf diff)
      (p.answers {} (p.chunksOf diff) 0)).filterMap (Model.remark? default))).map
        (fun g => (g.severity, g.message)) = some (.critical, "Danger: two") := by
    decide +kernel
  obtain ⟨g, hg, hgraded⟩ := Option.map_eq_some_iff.1 hchampion
  obtain ⟨k', text', hleads', rfl⟩ := Model.exists_leadsWith_of_champion hg
  obtain ⟨rfl, rfl⟩ := hleads.unique hleads'
  refine ⟨report, hrun, ?_⟩
  rw [hremarks, List.map_singleton, hseverity, hmessage, ← hgraded]
  rfl

end Pipeline

end ReviewBot
