import ReviewBot.Chunk
import ReviewBot.PullRequest
import ReviewBot.Text.Blank

set_option autoImplicit false

/-!
# What a model is asked

One prompt asks about one chunk of one pull request. It shows the added lines, the context and what
the author says about the pull request.
-/

namespace ReviewBot.Model

/-- The beginning of every prompt. -/
def preamble : String :=
  "You are an expert code reviewer. Analyze the following code change and provide specific, " ++
    "actionable feedback."

/-- The end of every prompt. -/
def answerFormat : String :=
  "Provide your review in a structured format:\n" ++
    "1. Issues Found (if any): List each issue with severity (CRITICAL, HIGH, MEDIUM, LOW)\n" ++
    "2. Suggestions for Improvement\n" ++
    "3. Positive Observations (if any)\n\n" ++
    "Be concise and focus on substantive issues."

/-- What the prompt says in place of the description; a blank one counts as missing. -/
def descriptionText (pr : PullRequest) : String :=
  match pr.description with
  | some d => if d.isBlank then "No description" else d
  | none => "No description"

/-- The question about a chunk. -/
def prompt (pr : PullRequest) (chunk : Chunk) : String :=
  preamble ++ "\n\nFile: " ++ chunk.filePath ++ "\nChange Type: " ++ chunk.change.label ++
    "\n\nChanged Code:\n" ++ "\n".intercalate chunk.addedLines ++
    "\n\nContext:\n" ++ chunk.context ++
    "\n\nPR Title: " ++ pr.title ++ "\nPR Description: " ++ descriptionText pr ++
    "\n\n" ++ answerFormat ++ "\n"

end ReviewBot.Model
