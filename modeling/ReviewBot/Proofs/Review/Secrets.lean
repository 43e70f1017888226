import ReviewBot.Proofs.Review.Raw

set_option autoImplicit false

/-!
# Credentials in a report

Credentials are all found with the same confidence, at the line where their chunk begins and in one
category. So merging keeps one of them for each such line, the one that is found first
(`analyze_reports_first_secret`), and the other kinds are lost.
-/

namespace ReviewBot

/-- The kind of credential that is found first in a chunk: of the kinds in the first line that has
any the first one in the table. -/
def Chunk.firstSecret? (chunk : Chunk) : Option SecretKind :=
  chunk.addedLines.findSome? fun line => SecretKind.all.find? (·.occursIn line)

/-- The chunks of a file that begin at a line. -/
def chunksAt (path : String) (line : Nat) (chunks : List Chunk) : List Chunk :=
  chunks.filter fun chunk => chunk.filePath = path ∧ chunk.startLine = line

/-- The kind of credential that is found first in the chunks of a file that begin at a line. -/
def firstSecretAt? (path : String) (line : Nat) (chunks : List Chunk) : Option SecretKind :=
  (chunksAt path line chunks).findSome? (·.firstSecret?)

namespace SecretKind

theorem finding_congr (kind : SecretKind) {a b : Chunk} (hpath : a.filePath = b.filePath)
    (hline : a.startLine = b.startLine) : kind.finding a = kind.finding b := by
  rw [finding, finding, hpath, hline]

theorem finding_injective {chunk : Chunk} {kind other : SecretKind}
    (h : kind.finding chunk = other.finding chunk) : kind = other := by
  have hmessage : "Potential " ++ kind.label ++ " detected in code" =
      "Potential " ++ other.label ++ " detected in code" := congrArg Finding.message h
  have hlabel : kind.label = other.label := by simpa using hmessage
  clear h hmessage
  -- No two kinds have the same label.
  cases kind <;> cases other <;> first | rfl | exact absurd hlabel (by decide)

end SecretKind

theorem head?_secretFindings (chunk : Chunk) :
    chunk.secretFindings.head? = chunk.firstSecret?.map (·.finding chunk) := by
  rw [Chunk.secretFindings, List.head?_flatMap, Chunk.firstSecret?, List.map_findSome?]
  congr 1
  funext line
  rw [List.head?_map, List.head?_filter]
  rfl

theorem head?_flatMap_secretFindings {chunk : Chunk} {chunks : List Chunk}
    (h : ∀ c ∈ chunks, c.filePath = chunk.filePath ∧ c.startLine = chunk.startLine) :
    (chunks.flatMap (·.secretFindings)).head? =
      (chunks.findSome? (·.firstSecret?)).map (·.finding chunk) := by
  rw [List.head?_flatMap]
  induction chunks with
  | nil => rfl
  | cons c rest ih =>
    obtain ⟨hpath, hline⟩ := h c List.mem_cons_self
    rw [List.findSome?_cons, List.findSome?_cons, head?_secretFindings]
    -- A chunk without credentials is passed over; in the first other one the search ends.
    cases c.firstSecret? with
    | none => exact ih fun c' hc' => h c' (List.mem_cons_of_mem _ hc')
    | some kind => exact congrArg some (kind.finding_congr hpath hline)

/-- The first credential at the place where a chunk begins. -/
theorem head?_secretFindings_chunksAt (chunk : Chunk) (chunks : List Chunk) :
    ((chunksAt chunk.filePath chunk.startLine chunks).flatMap (·.secretFindings)).head? =
      (firstSecretAt? chunk.filePath chunk.startLine chunks).map (·.finding chunk) := by
  refine head?_flatMap_secretFindings fun c hc => ?_
  simpa using (List.mem_filter.1 hc).2

theorem exists_firstSecretAt {chunk : Chunk} {chunks : List Chunk} (hchunk : chunk ∈ chunks)
    {f : Finding} (hf : f ∈ chunk.secretFindings) :
    ∃ first, firstSecretAt? chunk.filePath chunk.startLine chunks = some first := by
  have hat : chunk ∈ chunksAt chunk.filePath chunk.startLine chunks :=
    List.mem_filter.2 ⟨hchunk, by simp⟩
  have hhead := head?_secretFindings_chunksAt chunk chunks
  cases hfirst : firstSecretAt? chunk.filePath chunk.startLine chunks with
  | some first => exact ⟨first, rfl⟩
  | none =>
    rw [hfirst] at hhead
    have hnil := List.head?_eq_none_iff.1 hhead
    have hmem : f ∈ (chunksAt chunk.filePath chunk.startLine chunks).flatMap (·.secretFindings) :=
      List.mem_flatMap.2 ⟨chunk, hat, hf⟩
    rw [hnil] at hmem
    exact absurd hmem List.not_mem_nil

namespace Finding

/-- The security findings at a line of a file. -/
def securityAt (path : String) (line : Nat) (findings : List Finding) : List Finding :=
  findings.filter fun f => f.filePath = path ∧ f.lineNumber = line ∧ f.category = security

theorem securityAt_eq_placedAt (path : String) (line : Nat) (findings : List Finding) :
    securityAt path line findings = placedAt path line security findings := rfl

theorem placedAt_secretFindings (path : String) (line : Nat) (chunk : Chunk) :
    placedAt path line security chunk.secretFindings =
      if chunk.filePath = path ∧ chunk.startLine = line then chunk.secretFindings else [] := by
  refine placedAt_eq_ite fun f hf => ?_
  obtain ⟨_, -, kind, -, rfl⟩ := mem_secretFindings.1 hf
  exact ⟨rfl, rfl, rfl⟩

/-- Of the findings of the rules the security findings at a line are the credentials in the chunks
that begin there. -/
theorem placedAt_rules (path : String) (line : Nat) (chunks : List Chunk) :
    placedAt path line security
        (chunks.flatMap fun chunk => chunk.secretFindings ++ chunk.memberAccessFindings) =
      (chunksAt path line chunks).flatMap (·.secretFindings) := by
  induction chunks with
  | nil => rfl
  | cons chunk rest ih =>
    have hmember : placedAt path line security chunk.memberAccessFindings = [] := by
      refine placedAt_eq_nil fun f hf => ?_
      obtain ⟨index, -, rfl⟩ := mem_memberAccessFindings hf
      show potentialBug ≠ security
      decide
    rw [List.flatMap_cons, placedAt_append, placedAt_append, placedAt_secretFindings, hmember,
      List.append_nil, ih, chunksAt, chunksAt, List.filter_cons]
    by_cases hplace : chunk.filePath = path ∧ chunk.startLine = line
    · simp [hplace]
    · simp [hplace]

end Finding

namespace Pipeline

variable {σ : Type}

/-- The credentials found in the chunks that begin at a line are all raw security findings there. -/
theorem securityAt_rawFindings {settings : Settings} {model : Option (Model (StateM σ))}
    (hon : settings.app.heuristicsEnabled = true) (pr : PullRequest) (diff : String) (s : σ)
    (path : String) (line : Nat) :
    let p := settings.pipeline .builtIn model
    Finding.securityAt path line (p.rawFindings pr diff s) =
      (chunksAt path line (p.chunksOf diff)).flatMap (·.secretFindings) := by
  intro p
  have hmodel : Finding.placedAt path line Finding.security
      ((p.modelFindings pr (p.chunksOf diff)).run s).1 = [] := by
    refine Finding.placedAt_eq_nil fun f hf => ?_
    obtain ⟨chunk, -, k, text, rfl⟩ := exists_remark_of_modelFindings hf
    show Finding.codeReview ≠ Finding.security
    decide
  rw [Finding.securityAt_eq_placedAt, rawFindings, Finding.placedAt_append, hmodel,
    heuristicFindings_builtIn, hon, if_pos rfl, Finding.placedAt_rules, List.append_nil]

theorem mem_rawFindings_of_secret {settings : Settings} {model : Option (Model (StateM σ))}
    (hon : settings.app.heuristicsEnabled = true) (pr : PullRequest) {diff : String} (s : σ)
    {chunk : Chunk} (hchunk : chunk ∈ (settings.pipeline .builtIn model).chunksOf diff)
    {f : Finding} (hf : f ∈ chunk.secretFindings) :
    f ∈ (settings.pipeline .builtIn model).rawFindings pr diff s := by
  refine List.mem_append_left _ ?_
  rw [heuristicFindings_builtIn, hon, if_pos rfl, List.mem_flatMap]
  exact ⟨chunk, hchunk, List.mem_append_left _ hf⟩

/-- Where credentials are found, merging keeps the first one of them. -/
theorem securityAt_mergeAndRank {settings : Settings} {model : Option (Model (StateM σ))}
    (hon : settings.app.heuristicsEnabled = true) {pr : PullRequest} {diff : String} {s : σ}
    {kind : SecretKind} {chunk : Chunk}
    (hfound : kind.finding chunk ∈ (settings.pipeline .builtIn model).rawFindings pr diff s) :
    let p := settings.pipeline .builtIn model
    Finding.securityAt chunk.filePath chunk.startLine
        (Finding.mergeAndRank (p.rawFindings pr diff s)) =
      ((firstSecretAt? chunk.filePath chunk.startLine (p.chunksOf diff)).map
        (·.finding chunk)).toList := by
  intro p
  have hgraded : Finding.Graded (p.rawFindings pr diff s) := graded_rawFindings pr diff s
  have hsecrets : Finding.securityAt chunk.filePath chunk.startLine (p.rawFindings pr diff s) =
      (chunksAt chunk.filePath chunk.startLine (p.chunksOf diff)).flatMap (·.secretFindings) :=
    securityAt_rawFindings hon pr diff s chunk.filePath chunk.startLine
  have hsame : ∀ f ∈ Finding.securityAt chunk.filePath chunk.startLine
      (p.rawFindings pr diff s), f.confidence = Grade.secret.confidence := by
    intro f hf
    rw [hsecrets] at hf
    obtain ⟨c, -, hc⟩ := List.mem_flatMap.1 hf
    obtain ⟨_, -, other, -, rfl⟩ := mem_secretFindings.1 hc
    rfl
  have hmerged : Finding.securityAt chunk.filePath chunk.startLine
      (Finding.mergeAndRank (p.rawFindings pr diff s)) =
        (Finding.champion (Finding.securityAt chunk.filePath chunk.startLine
          (p.rawFindings pr diff s))).toList := hgraded.placedAt_mergeAndRank hfound
  -- None is more certain than another, so the champion of the place is the first one.
  rw [hmerged, Finding.champion_of_same_confidence hsame, hsecrets, head?_secretFindings_chunksAt]

/-- Of the credentials in the chunks of a file that begin at one line the report has the one that is
found first, and a kind that is found there is in the report exactly if it is the kind of that one.
-/
theorem analyze_reports_first_secret (settings : Settings) (model : Option (Model (StateM σ)))
    (pr : PullRequest) (diff : String) (s : σ)
    (hsize : settings.limits.isExceededBy diff = false)
    (hon : settings.app.heuristicsEnabled = true) :
    let p := settings.pipeline .builtIn model
    ∃ report : Report, ((p.analyze pr diff).run s).1 = some report ∧
      ∀ chunk ∈ p.chunksOf diff, ∀ line ∈ chunk.addedLines, ∀ kind : SecretKind,
        kind.occursIn line = true →
          ∃ first : SecretKind,
            firstSecretAt? chunk.filePath chunk.startLine (p.chunksOf diff) = some first ∧
            Finding.securityAt chunk.filePath chunk.startLine report.findings =
              [first.finding chunk] ∧
            (kind.finding chunk ∈ report.findings ↔ kind = first) := by
  intro p
  obtain ⟨report, hrun, hfindings⟩ := analyze_run (p := p) hsize pr s
  refine ⟨report, hrun, ?_⟩
  intro chunk hchunk line hline kind hkind
  have hsecret : kind.finding chunk ∈ chunk.secretFindings :=
    mem_secretFindings.2 ⟨line, hline, kind, hkind, rfl⟩
  obtain ⟨first, hfirst⟩ := exists_firstSecretAt hchunk hsecret
  have hkept : Finding.securityAt chunk.filePath chunk.startLine report.findings =
      ((firstSecretAt? chunk.filePath chunk.startLine (p.chunksOf diff)).map
        (·.finding chunk)).toList := by
    rw [hfindings]
    exact securityAt_mergeAndRank hon (mem_rawFindings_of_secret hon pr s hchunk hsecret)
  rw [hfirst] at hkept
  refine ⟨first, hfirst, hkept, ?_⟩
  -- The finding of a kind lies at the place itself, where only `first` is left.
  have hmem : kind.finding chunk ∈ report.findings ↔ kind.finding chunk ∈
      Finding.securityAt chunk.filePath chunk.startLine report.findings := by
    rw [Finding.securityAt_eq_placedAt, Finding.mem_placedAt]
    exact ⟨fun h => ⟨h, rfl, rfl, rfl⟩, fun h => h.1⟩
  rw [hmem, hkept]
  constructor
  · intro h
    exact SecretKind.finding_injective (List.mem_singleton.1 h)
  · rintro rfl
    exact List.mem_singleton_self _

/-- Of two hunks that begin at the same line only the first credential of the first one is reported.
-/
theorem analyze_reports_first_secret_of_two_hunks :
    let diff := "+++ b/a.py\n@@ -0,0 +2 @@\n+x\n+Aws_access_key_ID\n@@ -9 +2 @@\n+passwd: 'abcd'\n"
    let p := ({} : Settings).pipeline .builtIn (none : Option (Model (StateM Unit)))
    ∃ report : Report, ((p.analyze {} diff).run ()).1 = some report ∧
      (p.chunksOf diff).map (·.startLine) = [2, 2] ∧
      (Finding.securityAt "a.py" 2 report.findings).map (·.message) =
        ["Potential AWS_KEY detected in code"] := by
  intro diff p
  have hchunk : ∃ chunk ∈ p.chunksOf diff, chunk.filePath = "a.py" ∧ chunk.startLine = 2 ∧
      ∃ line ∈ chunk.addedLines, SecretKind.password.occursIn line = true := by
    decide +kernel
  have hfirst : firstSecretAt? "a.py" 2 (p.chunksOf diff) = some .awsKey := by
    decide +kernel
  obtain ⟨report, hrun, hreport⟩ :=
    analyze_reports_first_secret ({} : Settings) (none : Option (Model (StateM Unit))) {} diff ()
      (by decide) (by decide)
  obtain ⟨chunk, hmem, hpath, hstart, line, hline, hpassword⟩ := hchunk
  obtain ⟨first, hfirst', hkept, -⟩ := hreport chunk hmem line hline .password hpassword
  rw [hpath, hstart] at hfirst' hkept
  have hkind : first = .awsKey := Option.some.inj (hfirst'.symm.trans hfirst)
  refine ⟨report, hrun, by decide +kernel, ?_⟩
  rw [hkept, hkind]
  rfl

/-- A password beside a key: although its pattern occurs in an added line, no finding of the report
is about it. -/
theorem password_lost_beside_key :
    let diff := "+++ b/c.py\n@@ -0,0 +1 @@\n+aws_access_key_id = 1; password = \"letmein!\"\n"
    let p := ({} : Settings).pipeline .builtIn (none : Option (Model (StateM Unit)))
    p.limits.isExceededBy diff = false ∧
      (∃ chunk ∈ p.chunksOf diff, ∃ line ∈ chunk.addedLines,
        SecretKind.password.occursIn line = true) ∧
      ∃ report : Report, ((p.analyze {} diff).run ()).1 = some report ∧
        ∀ f ∈ report.findings,
          f.message ≠ "Potential " ++ SecretKind.password.label ++ " detected in code" := by
  intro diff p
  have hsize : p.limits.isExceededBy diff = false := by decide
  have hchampions : ∀ f ∈ p.rawFindings {} diff (),
      Finding.champion (Finding.withKey f.key (p.rawFindings {} diff ())) = some f →
        f.message ≠ "Potential " ++ SecretKind.password.label ++ " detected in code" := by
    rw [rawFindings, heuristicFindings_builtIn]
    decide +kernel
  obtain ⟨report, hrun, hfindings⟩ := analyze_run hsize {} ()
  refine ⟨hsize, by decide +kernel, report, hrun, ?_⟩
  intro f hf
  rw [hfindings] at hf
  exact hchampions f (Finding.mem_of_mem_mergeAndRank hf) (Finding.mem_mergeAndRank_iff.1 hf)

end Pipeline

end ReviewBot
