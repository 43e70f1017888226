import ReviewBot.Diff.Hunk
import ReviewBot.Text.Blank
import ReviewBot.Text.Lines

set_option autoImplicit false

/-!
# Reading diffs

A unified diff is read line by line. `Place` is what has been learnt of the file whose hunks follow,
`Reader` adds the hunk that is open. A line that the open hunk refuses is looked at as a header; a
header closes the open hunk before it changes the place, so a hunk always counts for the file whose
headers stand before it. Lines that are neither content nor header are passed over.
-/

namespace ReviewBot.Diff

/-- The path after the change in the tail of a `diff --git` line. -/
def gitPath? (tail : List Char) : Option (List Char) :=
  match Text.afterLast? " \"b/".toList tail with
  | some quoted => some (Text.dropEndWhile (· == '"') quoted)
  | none =>
    match Text.afterLast? " b/".toList tail with
    | some [] => none
    | path => path

/-- The path without the marker `a/` or `b/` of its side. -/
def stripSide (path : List Char) : List Char :=
  match path with
  | 'a' :: '/' :: rest => rest
  | 'b' :: '/' :: rest => rest
  | _ => path

/-- The path in a `---` or `+++` line; `none` when the file does not exist on that side. A tab
begins a remark. -/
def sidePath? (tail : List Char) : Option (List Char) :=
  let path := Text.dropAroundWhile (· == '"') (Text.trim (tail.takeWhile (· != '\t')))
  if path = "/dev/null".toList || path.isEmpty then none else some (stripSide path)

/-- What the headers read so far say about the file. -/
structure Place where
  /-- Path of the file that the hunks belong to. -/
  path : Option (List Char)
  /-- Path in the last `---` line. -/
  oldPath : Option (List Char)
  /-- What the change does to the file. -/
  change : ChangeKind
  /-- A `diff --git` line has been read, and no hunk header since. -/
  inGitSection : Bool
  deriving DecidableEq

namespace Place

/-- Nothing is known yet. -/
def start : Place := ⟨none, none, .modified, false⟩

/-- After a `diff --git` line, which forgets all earlier files. -/
def afterGitLine (tail : List Char) : Place := ⟨gitPath? tail, none, .modified, true⟩

/-- After a `---` line. Outside a git section it begins a new file. -/
def afterOldSide (p : Place) (tail : List Char) : Place :=
  -- Inside a git section the path is known from the git line and must not be forgotten here.
  let p := if p.inGitSection then p else { p with path := none, change := .modified }
  match sidePath? tail with
  | none => { p with change := .added }
  | some path => { p with oldPath := some path }

/-- After a `+++` line. A path that is known already stays. -/
def afterNewSide (p : Place) (tail : List Char) : Place :=
  match sidePath? tail with
  | none => { p with change := .deleted, path := p.path <|> p.oldPath }
  | some path => { p with path := p.path <|> some path }

end Place

/-- A header line of a diff, with what follows its marker. -/
inductive Header where
  | git (tail : List Char)
  | oldSide (tail : List Char)
  | newSide (tail : List Char)
  | hunk (line : List Char)
  deriving DecidableEq

/-- The header that a line is. -/
def Header.read? (line : List Char) : Option Header :=
  match "diff --git ".toList.isPrefixOf? line with
  | some tail => some (.git tail)
  | none =>
    match "--- ".toList.isPrefixOf? line with
    | some tail => some (.oldSide tail)
    | none =>
      match "+++ ".toList.isPrefixOf? line with
      | some tail => some (.newSide tail)
      | none => if "@@".toList.isPrefixOf line then some (.hunk line) else none

/-- A position between two lines of a diff. -/
structure Reader where
  /-- What is known of the file. -/
  place : Place
  /-- The open hunk. -/
  hunk : Option OpenHunk

namespace Reader

/-- The position before the first line. -/
def start : Reader := ⟨.start, none⟩

/-- The chunk that the open hunk makes when it is closed here; without a path there is none. -/
def pending (r : Reader) : List Chunk :=
  match r.hunk, r.place.path with
  | some h, some path => (Chunk.ofHunk? (String.ofList path) r.place.change h).toList
  | _, _ => []

/-- The position after a header; no hunk of an earlier header is open any more. -/
def afterHeader (p : Place) : Header → Reader
  | .git tail => ⟨.afterGitLine tail, none⟩
  | .oldSide tail => ⟨p.afterOldSide tail, none⟩
  | .newSide tail => ⟨p.afterNewSide tail, none⟩
  | .hunk line => ⟨{ p with inGitSection := false }, (HunkHeader.read? line).map .ofHeader⟩

/-- Reads one line. The chunks given are those that the line has completed, at most one. -/
def step (r : Reader) (line : List Char) : List Chunk × Reader :=
  match r.hunk.bind (·.accept? line) with
  | some h => ([], { r with hunk := some h })
  | none =>
    match Header.read? line with
    -- The open hunk is closed with the place as it was before the header.
    | some header => (r.pending, afterHeader r.place header)
    | none => ([], r)

/-- The chunks of the lines that are still to be read. -/
def chunks (r : Reader) : List (List Char) → List Chunk
  | [] => r.pending
  | line :: rest => (r.step line).1 ++ (r.step line).2.chunks rest

end Reader

end ReviewBot.Diff

namespace ReviewBot

/-- The chunks of a unified diff, in order. -/
def Chunk.ofDiff (diff : String) : List Chunk := Diff.Reader.start.chunks (Text.lines diff.toList)

end ReviewBot
