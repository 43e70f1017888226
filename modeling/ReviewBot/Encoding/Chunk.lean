import ReviewBot.Chunk
import ReviewBot.Document.Fields
import ReviewBot.Json.Basic
import ReviewBot.Numeric.Unsigned

set_option autoImplicit false

/-!
# Chunks as JSON
-/

namespace ReviewBot

/-- Reads the name of a kind of change. -/
def ChangeKind.ofDocument? : Document → Option ChangeKind := Document.named? label all

namespace Chunk

/-- The fields of a chunk in order. -/
def fieldNames : List String :=
  ["filePath", "fileType", "startLine", "addedLines", "removedLines", "context", "changeType"]

/-- Reads a chunk. -/
def ofDocument? (d : Document) : Option Chunk := do
  match ← d.slots? .refused fieldNames with
  | [filePath, fileType, startLine, addedLines, removedLines, context, change] =>
    some
      { filePath := ← filePath.required? Document.string?
        fileType := ← fileType.required? Document.string?
        startLine := ← startLine.required? (Document.nat? maxWord)
        addedLines := ← addedLines.required? (Document.list? Document.string?)
        removedLines := ← removedLines.required? (Document.list? Document.string?)
        context := ← context.required? Document.string?
        change := ← change.required? ChangeKind.ofDocument? }
  | _ => none

/-- The chunk as JSON. -/
def toJson (c : Chunk) : Json :=
  .object
    [("filePath", .text c.filePath),
     ("fileType", .text c.fileType),
     ("startLine", .nat c.startLine),
     ("addedLines", .array .text c.addedLines),
     ("removedLines", .array .text c.removedLines),
     ("context", .text c.context),
     ("changeType", .text c.change.label)]

end Chunk

end ReviewBot
