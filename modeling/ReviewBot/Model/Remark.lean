import ReviewBot.Chunk
import ReviewBot.Finding
import ReviewBot.Text.Blank
import ReviewBot.Text.Lines
import ReviewBot.Text.Search

set_option autoImplicit false

/-!
# Findings in the reply of a model

A reply is free text. Each of its lines is put into the first class of which it contains a trigger,
whatever the case of the letters; a line without any trigger is no finding. The finding stands where
the chunk begins.
-/

namespace ReviewBot.Model

/-- How serious a line of a reply is. -/
inductive RemarkClass where
  | critical
  | high
  | medium
  deriving DecidableEq

namespace RemarkClass

/-- All classes in the order in which they are tried. -/
def all : List RemarkClass := [critical, high, medium]

/-- The texts that put a line into the class. -/
def triggers : RemarkClass → List String
  | critical => ["critical", "danger"]
  | high => ["high", "issue", "bug"]
  | medium => ["medium", "warning", "improve"]

/-- The severity of findings of the class. -/
def severity : RemarkClass → Severity
  | critical => .critical
  | high => .high
  | medium => .medium

/-- The confidence in findings of the class: 0.85, 0.8 and 0.75. -/
def confidence : RemarkClass → Binary64
  | critical => ⟨0x3FEB333333333333⟩
  | high => ⟨0x3FE999999999999A⟩
  | medium => ⟨0x3FE8000000000000⟩

/-- The precedence of findings of the class. -/
def precedence : RemarkClass → Nat
  | critical => 700
  | high => 650
  | medium => 600

/-- The line in small letters contains a trigger of the class. -/
def claims (k : RemarkClass) (small : List Char) : Bool :=
  k.triggers.any fun trigger => Text.occursIn trigger.toList small

/-- The class of a line. -/
def ofLine? (line : List Char) : Option RemarkClass :=
  let small := Text.lower line
  all.find? (·.claims small)

/-- The finding of a line of the class. -/
def finding (k : RemarkClass) (chunk : Chunk) (line : List Char) : Finding :=
  { filePath := chunk.filePath
    lineNumber := chunk.startLine
    severity := k.severity
    category := Finding.codeReview
    message := String.ofList (Text.trim line)
    source := .llm
    confidence := k.confidence
    precedence := k.precedence }

end RemarkClass

/-- The lines of a reply; every line feed ends one. -/
def replyLines (reply : String) : List (List Char) := Text.pieces '\n' reply.toList

/-- The finding of a line, if it has a class. -/
def remark? (chunk : Chunk) (line : List Char) : Option Finding :=
  (RemarkClass.ofLine? line).map (·.finding chunk line)

/-- The findings in a reply about a chunk. -/
def remarks (chunk : Chunk) (reply : String) : List Finding :=
  (replyLines reply).filterMap (remark? chunk)

end ReviewBot.Model
