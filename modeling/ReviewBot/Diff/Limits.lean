import ReviewBot.Chunk

set_option autoImplicit false

/-!
# Limits on what is reviewed

A diff above the size limit is not reviewed at all. Of the chunks of a smaller diff those of the
first files are kept, up to the limit on files; chunks of later files are dropped.
-/

namespace ReviewBot

/-- Limits on a diff. -/
structure Limits where
  /-- The greatest size of a diff in bytes of UTF-8. -/
  maxDiffSize : Nat := 1048576
  /-- The greatest number of different files. -/
  maxFiles : Nat := 50
  deriving DecidableEq

/-- The first occurrences of the paths that are not among `seen`, in order. -/
def newPaths (seen : List String) : List Chunk → List String
  | [] => []
  | c :: rest =>
      if c.filePath ∈ seen then newPaths seen rest
      else c.filePath :: newPaths (c.filePath :: seen) rest

/-- The different paths of the chunks, in order of first occurrence. -/
def distinctPaths (chunks : List Chunk) : List String := newPaths [] chunks

namespace Limits

/-- The diff is too large. -/
def isExceededBy (l : Limits) (diff : String) : Bool := l.maxDiffSize < diff.utf8ByteSize

/-- The chunks of files that are among `seen` or still find room beside them. -/
def keepBeside (l : Limits) (seen : List String) : List Chunk → List Chunk
  | [] => []
  | c :: rest =>
      if c.filePath ∈ seen then c :: l.keepBeside seen rest
      else if seen.length < l.maxFiles then c :: l.keepBeside (c.filePath :: seen) rest
      else l.keepBeside seen rest

/-- The chunks of the first files. -/
def keep (l : Limits) (chunks : List Chunk) : List Chunk := l.keepBeside [] chunks

end Limits

end ReviewBot
