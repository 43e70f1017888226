import ReviewBot.Numeric.Binary64
import ReviewBot.Severity

set_option autoImplicit false

/-!
# Findings

A finding is one remark about one line of one file. Two findings count as the same remark when they
have the same `key`, which is made of the path, the line and the category.
-/

namespace ReviewBot

/-- What made a finding. -/
inductive FindingSource where
  /-- A rule. -/
  | heuristic
  /-- A language model. -/
  | llm
  deriving DecidableEq, Inhabited

/-- The name of the source in messages. -/
def FindingSource.label : FindingSource → String
  | .heuristic => "HEURISTIC"
  | .llm => "LLM"

/-- All sources of findings. -/
def FindingSource.all : List FindingSource := [.heuristic, .llm]

/-- One remark about one line of one file. -/
structure Finding where
  /-- Identifier; empty until one has been issued. -/
  id : String := ""
  /-- Path of the file. -/
  filePath : String
  /-- Line of the changed file. -/
  lineNumber : Nat
  /-- How serious it is. -/
  severity : Severity
  /-- Short name of the kind of remark. -/
  category : String
  /-- The remark. -/
  message : String
  /-- How to mend the line. -/
  suggestion : Option String := none
  /-- What made the finding. -/
  source : FindingSource
  /-- How certain the finding is, from zero to one. -/
  confidence : Binary64 := .zero
  /-- Findings with a greater number are presented earlier. -/
  precedence : Nat := 0
  deriving DecidableEq, Inhabited

namespace Finding

/-- Category of leaked credentials and other security problems. -/
def security : String := "SECURITY"

/-- Category of likely defects found by a pattern. -/
def potentialBug : String := "POTENTIAL_BUG"

/-- Category of the remarks of a model. -/
def codeReview : String := "CODE_REVIEW"

/-- Sets the confidence, moved into the range from zero to one. -/
def withConfidence (f : Finding) (confidence : Binary64) : Finding :=
  { f with confidence := confidence.clampUnit }

/-- The place and the kind of the remark as one text. -/
def key (f : Finding) : String :=
  f.filePath ++ ":" ++ toString f.lineNumber ++ ":" ++ f.category

end Finding

end ReviewBot
