import ReviewBot.Chunk
import ReviewBot.Diff.HunkHeader

set_option autoImplicit false

/-!
# Hunks

The content of a hunk is a list of added, removed and unchanged lines. While a hunk is open it keeps
account of how many lines its header still promises on either side; the account decides whether an
empty line, or one that looks like the header of the next file, still belongs to the hunk
(`OpenHunk.accept?`). `Chunk.ofHunk` is the chunk that a hunk of a file makes.
-/

namespace ReviewBot.Diff

/-- A line of a hunk without its sign. -/
inductive HunkLine where
  | added (text : List Char)
  | removed (text : List Char)
  | unchanged (text : List Char)
  deriving DecidableEq

namespace HunkLine

/-- The line with its sign in front. -/
def signed : HunkLine → List Char
  | added text => '+' :: text
  | removed text => '-' :: text
  | unchanged text => ' ' :: text

/-- The text of an added line. -/
def added? : HunkLine → Option String
  | added text => some (String.ofList text)
  | _ => none

/-- The text of a removed line. -/
def removed? : HunkLine → Option String
  | removed text => some (String.ofList text)
  | _ => none

/-- How many lines of the file before the change the line stands for. -/
def oldCount : HunkLine → Nat
  | added _ => 0
  | _ => 1

/-- How many lines of the file after the change the line stands for. -/
def newCount : HunkLine → Nat
  | removed _ => 0
  | _ => 1

/-- Reads a line with its sign. -/
def read? : List Char → Option HunkLine
  | '+' :: text => some (added text)
  | '-' :: text => some (removed text)
  | ' ' :: text => some (unchanged text)
  | _ => none

end HunkLine

/-- The context of a hunk: its lines with their signs, each closed by a line feed. -/
def contextOf (lines : List HunkLine) : List Char := lines.flatMap fun l => l.signed ++ ['\n']

/-- A hunk whose end has not been reached. -/
structure OpenHunk where
  /-- Line of the changed file at which the hunk begins. -/
  startLine : Nat
  /-- Lines before the change that the header still promises. -/
  oldLeft : Nat
  /-- Lines after the change that the header still promises. -/
  newLeft : Nat
  /-- The lines read so far, latest first. -/
  latest : List HunkLine

namespace OpenHunk

/-- The hunk that a header opens; a hunk at line zero begins at line one. -/
def ofHeader (h : HunkHeader) : OpenHunk := ⟨max h.newStart 1, h.oldCount, h.newCount, []⟩

/-- The header promises more lines. -/
def isOwed (h : OpenHunk) : Bool := 0 < h.oldLeft || 0 < h.newLeft

/-- Adds a line; lines beyond those promised are added too. -/
def push (h : OpenHunk) (l : HunkLine) : OpenHunk :=
  { h with
    oldLeft := h.oldLeft - l.oldCount
    newLeft := h.newLeft - l.newCount
    latest := l :: h.latest }

/-- The lines read so far, in order. -/
def lines (h : OpenHunk) : List HunkLine := h.latest.reverse

/-- The line could open the next file. -/
def looksLikeFileHeader (line : List Char) : Bool :=
  "---".toList.isPrefixOf line || "+++".toList.isPrefixOf line

/-- Takes a line as content of the hunk, or refuses it. A remark after a backslash is passed over.
An empty line is an unchanged empty line as long as lines are owed. What looks like the header of
a file is content only as long as lines are owed. -/
def accept? (h : OpenHunk) (line : List Char) : Option OpenHunk :=
  match line with
  | '\\' :: _ => some h
  | [] => if h.isOwed then some (h.push (.unchanged [])) else none
  | _ =>
    -- Once nothing is owed, three signs in a row are taken for the next file, not for content.
    if !h.isOwed && looksLikeFileHeader line then none else (HunkLine.read? line).map h.push

end OpenHunk

end ReviewBot.Diff

namespace ReviewBot

/-- The chunk of a hunk in a file, if the hunk adds or removes lines. -/
def Chunk.ofHunk? (path : String) (change : ChangeKind) (h : Diff.OpenHunk) : Option Chunk :=
  let added := h.lines.filterMap Diff.HunkLine.added?
  let removed := h.lines.filterMap Diff.HunkLine.removed?
  if added.isEmpty && removed.isEmpty then none
  else
    some
      { filePath := path
        fileType := fileTypeOf path
        startLine := h.startLine
        addedLines := added
        removedLines := removed
        context := String.ofList (Diff.contextOf h.lines)
        change := change }

end ReviewBot
