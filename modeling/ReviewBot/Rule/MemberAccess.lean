import ReviewBot.Numeric.Unsigned
import ReviewBot.Rule.Basic
import ReviewBot.Text.Blank
import ReviewBot.Text.Pattern
import ReviewBot.Text.Search
import ReviewBot.Text.Word

set_option autoImplicit false

/-!
# Unguarded member accesses

The rule reports added lines in which a member is accessed and nothing hints at a check of the
object before. A finding stands as many lines after the beginning of the chunk as its line has added
lines before it.
-/

namespace ReviewBot

namespace MemberAccess

open Text (Piece Pattern)

/-- A word character or a closing bracket, a point, and a name; blanks may stand around the point.
-/
def pattern : Pattern :=
  ⟨[[.one fun c => Text.isWord c || c == ']' || c == ')', .many Text.isBlank, .one (· == '.'),
     .many Text.isBlank, .atLeast 1 Text.isWord]]⟩

/-- What hints at a check before the access. -/
def guards : List String := ["?.", "try", "if"]

/-- A member is accessed in the line, and nothing hints at a check. -/
def isUnguarded (line : String) : Bool :=
  pattern.occursIn line.toList && !guards.any line.hasPart

/-- The report of the added line number `index`, counted from zero. -/
def finding (chunk : Chunk) (index : Nat) : Finding :=
  { filePath := chunk.filePath
    -- Line numbers end at the greatest word.
    lineNumber := min (chunk.startLine + index) maxWord
    severity := .high
    category := Finding.potentialBug
    message := "Potential null pointer dereference without null check"
    suggestion := some "Add null checks or use optional/safe navigation operators"
    source := .heuristic
    confidence := ⟨0x3FE6666666666666⟩ -- 0.7
    precedence := 500 }

end MemberAccess

/-- Reports unguarded member accesses in added lines. -/
def Rule.memberAccess : Rule where
  name := "NullPointerDetectionRule"
  priority := 500
  inspect chunk :=
    .found ((chunk.addedLines.zipIdx.filter fun line => MemberAccess.isUnguarded line.1).map
      fun line => MemberAccess.finding chunk line.2)

end ReviewBot
