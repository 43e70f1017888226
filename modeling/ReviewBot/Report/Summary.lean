import ReviewBot.Numeric.Shortest
import ReviewBot.Report.Basic

set_option autoImplicit false

/-!
# The summary on the terminal

A report as plain text, two lines for each finding and a third for a suggestion.
-/

namespace ReviewBot

/-- A finding in the summary. -/
def Finding.summary (f : Finding) : String :=
  "[" ++ f.severity.label ++ "] " ++ f.filePath ++ ":" ++ toString f.lineNumber ++ " " ++
    f.category ++ " (confidence: " ++ f.confidence.percentText ++ "%)\n  " ++ f.message ++ "\n" ++
    (match f.suggestion with
      | some s => "  Suggestion: " ++ s ++ "\n"
      | none => "") ++ "\n"

/-- The counts in the summary. -/
def Stats.summary (s : Stats) : String :=
  "Model: " ++ s.model.getD "none" ++ " | Files: " ++ toString s.files ++ " | Chunks: " ++
    toString s.chunks ++ " | Findings: " ++ toString s.mergedFindings ++ " (heuristic: " ++
    toString s.heuristicFindings ++ ", llm: " ++ toString s.modelFindings ++ ")"

/-- The report as plain text. -/
def Report.summary (r : Report) : String :=
  "Review Results\n==============\n" ++ r.stats.summary ++ "\n\n" ++
    if r.findings.isEmpty then "No issues found.\n"
    else String.join (r.findings.map (·.summary))

end ReviewBot
