import ReviewBot.Encoding.Finding
import ReviewBot.Report.Basic

set_option autoImplicit false

/-!
# Reports as JSON
-/

namespace ReviewBot

/-- The counts as JSON. -/
def Stats.toJson (s : Stats) : Json :=
  .object
    [("filesReviewed", .nat s.files),
     ("chunks", .nat s.chunks),
     ("heuristicFindings", .nat s.heuristicFindings),
     ("llmFindings", .nat s.modelFindings),
     ("mergedFindings", .nat s.mergedFindings),
     ("modelUsed", .ofOption .text s.model)]

namespace Report

/-- The report as JSON. -/
def toJson (r : Report) : Json :=
  .object [("findings", .array Finding.toJson r.findings), ("stats", r.stats.toJson)]

/-- The report as JSON, without the identifiers of findings. -/
def toAnonymousJson (r : Report) : Json :=
  .object [("findings", .array Finding.toAnonymousJson r.findings), ("stats", r.stats.toJson)]

end Report

end ReviewBot
