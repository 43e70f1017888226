import ReviewBot.Numeric.Shortest
import ReviewBot.Report.Basic

set_option autoImplicit false

/-!
# The comment on a pull request

The findings are published as one comment in Markdown, with one section for each finding. Every such
comment ends with `marker`, by which it is found again.
-/

namespace ReviewBot.Markdown

/-- Hidden text at the end of every published review. -/
def marker : String := "<!-- lookout:review -->"

/-- The number of findings of one severity, if there are any. -/
def count? (findings : List Finding) (s : Severity) : Option String :=
  let n := findings.countP (·.severity = s)
  if n = 0 then none else some (toString n ++ " " ++ s.smallLabel)

/-- How many findings there are, in all and of each severity. -/
def tally (findings : List Finding) : String :=
  "**" ++ toString findings.length ++ (if findings.length = 1 then " finding" else " findings") ++
    "**: " ++ ", ".intercalate (Severity.all.filterMap (count? findings))

/-- The heading of the finding number `i`. -/
def heading (i : Nat) (f : Finding) : String :=
  "### " ++ toString i ++ ". [" ++ f.severity.label ++ "] \x60" ++ f.filePath ++ ":" ++
    toString f.lineNumber ++ "\x60 · " ++ f.category

/-- What made a finding, in words. -/
def sourceText : FindingSource → String
  | .heuristic => "heuristic rule"
  | .llm => "LLM review"

/-- The section of the finding number `i`. -/
def finding (i : Nat) (f : Finding) : String :=
  heading i f ++ "\n\n" ++ f.message ++ "\n\n" ++
    (match f.suggestion with
      | some s => "> **Suggestion:** " ++ s ++ "\n\n"
      | none => "") ++
    "_Source: " ++ sourceText f.source ++ " · confidence " ++ f.confidence.percentText ++ "%_\n\n"

/-- The sections of findings, numbered from `i` on. -/
def sections (i : Nat) : List Finding → String
  | [] => ""
  | f :: rest => finding i f ++ sections (i + 1) rest

/-- The comment for findings in order of presentation. -/
def render (findings : List Finding) : String :=
  "## Code Review Analysis\n\n" ++
    (if findings.isEmpty then "No issues found in the analysed changes.\n\n"
     else tally findings ++ "\n\n" ++ sections 1 findings) ++
    marker ++ "\n"

end ReviewBot.Markdown

/-- The comment that publishes the report. -/
def ReviewBot.Report.markdown (r : ReviewBot.Report) : String :=
  ReviewBot.Markdown.render r.findings
