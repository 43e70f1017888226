import ReviewBot.Finding

set_option autoImplicit false

/-!
# Reports

A report is what a review of a pull request yields: the findings in order of presentation, and how
many there were at each stage.
-/

namespace ReviewBot

/-- What a review has counted. -/
structure Stats where
  /-- Different files that were looked at. -/
  files : Nat := 0
  /-- Chunks that were looked at. -/
  chunks : Nat := 0
  /-- Findings of rules before merging. -/
  heuristicFindings : Nat := 0
  /-- Findings of the model before merging. -/
  modelFindings : Nat := 0
  /-- Findings after merging. -/
  mergedFindings : Nat := 0
  /-- The model that was asked. -/
  model : Option String := none
  deriving DecidableEq, Inhabited

/-- What a review yields. -/
structure Report where
  /-- The findings in order of presentation. -/
  findings : List Finding
  /-- What has been counted. -/
  stats : Stats
  deriving DecidableEq, Inhabited

namespace Report

/-- Some finding is at least as serious as the threshold. -/
def reaches (r : Report) (threshold : Severity) : Bool :=
  r.findings.any (·.severity.meets threshold)

/-- Issues identifiers to the findings by their position. -/
def identify (ids : Nat → String) (r : Report) : Report :=
  { r with findings := r.findings.zipIdx.map fun (f, i) => { f with id := ids i } }

end Report

end ReviewBot
