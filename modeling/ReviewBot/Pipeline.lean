import ReviewBot.Diff.Limits
import ReviewBot.Diff.Parser
import ReviewBot.Merge
import ReviewBot.Model.Basic
import ReviewBot.Report.Basic
import ReviewBot.Rule.BuiltIn

set_option autoImplicit false

/-!
# From a diff to a report

A pipeline reads the diff, keeps what the limits allow, lets the rules and the model look at it and
merges what they find. Either branch may be absent. A diff above the size limit yields no report.
-/

namespace ReviewBot

/-- The parts of a review. -/
structure Pipeline (m : Type → Type) where
  /-- The rules, unless they are switched off. -/
  rules : Option RuleSet
  /-- The model, unless it is switched off. -/
  model : Option (Model m)
  /-- What is reviewed at all. -/
  limits : Limits

namespace Pipeline

variable {m : Type → Type}

/-- The chunks of a diff that are reviewed. -/
def chunksOf (p : Pipeline m) (diff : String) : List Chunk := p.limits.keep (Chunk.ofDiff diff)

/-- What the rules find. -/
def heuristicFindings (p : Pipeline m) (chunks : List Chunk) : List Finding :=
  match p.rules with
  | some rules => rules.review chunks
  | none => []

/-- What the model finds. -/
def modelFindings [Monad m] (p : Pipeline m) (pr : PullRequest) (chunks : List Chunk) :
    m (List Finding) :=
  match p.model with
  | some model => model.review pr chunks
  | none => pure []

/-- The report on chunks in which the rules and the model have found something. -/
def report (p : Pipeline m) (chunks : List Chunk) (byRules byModel : List Finding) : Report :=
  let findings := Finding.mergeAndRank (byRules ++ byModel)
  { findings := findings
    stats :=
      { files := (distinctPaths chunks).length
        chunks := chunks.length
        heuristicFindings := byRules.length
        modelFindings := byModel.length
        mergedFindings := findings.length
        model := p.model.map (·.name) } }

/-- Reviews a diff; there is no report when the diff is too large. -/
def analyze [Monad m] (p : Pipeline m) (pr : PullRequest) (diff : String) : m (Option Report) :=
  if p.limits.isExceededBy diff then pure none
  else do
    let chunks := p.chunksOf diff
    let byModel ← p.modelFindings pr chunks
    pure (some (p.report chunks (p.heuristicFindings chunks) byModel))

end Pipeline

end ReviewBot
