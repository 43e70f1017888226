import ReviewBot.Document.Fields
import ReviewBot.Finding
import ReviewBot.Json.Basic
import ReviewBot.Numeric.Unsigned

set_option autoImplicit false

/-!
# Findings as JSON
-/

namespace ReviewBot

/-- Reads the name of a severity; here case matters. -/
def Severity.ofDocument? : Document → Option Severity := Document.named? label all

/-- Reads the name of a source. -/
def FindingSource.ofDocument? : Document → Option FindingSource := Document.named? label all

namespace Finding

/-- The fields of a finding in order. -/
def fieldNames : List String :=
  ["id", "filePath", "lineNumber", "severity", "category", "message", "suggestion", "source",
   "confidence", "precedenceScore"]

/-- Reads a finding; the confidence is taken as it is given. -/
def ofDocument? (d : Document) : Option Finding := do
  match ← d.slots? .refused fieldNames with
  | [id, filePath, lineNumber, severity, category, message, suggestion, source, confidence,
      precedence] =>
    some
      { id := ← id.required? Document.string?
        filePath := ← filePath.required? Document.string?
        lineNumber := ← lineNumber.required? (Document.nat? maxWord)
        severity := ← severity.required? Severity.ofDocument?
        category := ← category.required? Document.string?
        message := ← message.required? Document.string?
        suggestion := ← suggestion.optional? Document.string?
        source := ← source.required? FindingSource.ofDocument?
        confidence := ← confidence.required? Document.binary64?
        precedence := ← precedence.required? (Document.nat? maxWord) }
  | _ => none

/-- The members of a finding, its identifier left out. -/
def members (f : Finding) : List (String × Json) :=
  [("filePath", .text f.filePath),
   ("lineNumber", .nat f.lineNumber),
   ("severity", .text f.severity.label),
   ("category", .text f.category),
   ("message", .text f.message),
   ("suggestion", .ofOption .text f.suggestion),
   ("source", .text f.source.label),
   ("confidence", .double f.confidence),
   ("precedenceScore", .nat f.precedence)]

/-- The finding as JSON. -/
def toJson (f : Finding) : Json := .object (("id", .text f.id) :: f.members)

/-- The finding as JSON, without an identifier. -/
def toAnonymousJson (f : Finding) : Json := .object f.members

end Finding

end ReviewBot
