import Mathlib.Data.List.Induction
import ReviewBot.Proofs.Diff.ChunkForm

set_option autoImplicit false

/-!
# What the header of a hunk counts

The header of a hunk says how many lines the hunk covers on either side. As long as fewer have been
read on one side, every line with a sign is content, and an empty line is an unchanged one. The
counts do not end the hunk: it goes on until the next header, and lines with a sign still count as
its content, unless they could open the next file (`HunkHeader.content`). Each chunk of a text is
the content between a hunk header and the next header (`exists_header_of_mem_ofDiff`), so the counts
bound it only if no such line follows after they have been reached.
-/

namespace ReviewBot

namespace Chunk

/-- How many lines of the file before the change the chunk covers. -/
def oldLength (c : Chunk) : Nat := c.removedLines.length + (c.signedRows ' ').length

/-- How many lines of the file after the change the chunk covers. -/
def newLength (c : Chunk) : Nat := c.addedLines.length + (c.signedRows ' ').length

end Chunk

namespace Diff

/-- What a line is as content of a hunk that has all the lines which its header counts. -/
def HunkLine.surplus? (line : List Char) : Option HunkLine :=
  if OpenHunk.looksLikeFileHeader line then none else read? line

namespace HunkHeader

variable {header : HunkHeader}

/-- On one side there are fewer lines than the header counts. -/
def Promises (header : HunkHeader) (lines : List HunkLine) : Prop :=
  HunkLine.oldTotal lines < header.oldCount ∨ HunkLine.newTotal lines < header.newCount

instance (header : HunkHeader) (lines : List HunkLine) : Decidable (header.Promises lines) :=
  inferInstanceAs (Decidable (_ ∨ _))

/-- What a line is as content of a hunk that has the lines `lines` above it. -/
def contentAfter? (header : HunkHeader) (lines : List HunkLine) (line : List Char) :
    Option HunkLine :=
  if header.Promises lines then
    if line = [] then some (.unchanged []) else HunkLine.read? line
  else HunkLine.surplus? line

/-- The content of the lines `body` below the header. -/
def content (header : HunkHeader) (body : List (List Char)) : List HunkLine :=
  body.foldl (fun lines line => lines ++ (header.contentAfter? lines line).toList) []

/-- None of the lines `body` below the header ends the hunk: each is content or no header. -/
def StaysOpen (header : HunkHeader) (body : List (List Char)) : Prop :=
  ∀ front line back, body = front ++ line :: back →
    (header.contentAfter? (header.content front) line).isSome = true ∨ Header.read? line = none

/-- The lines `body` below the header go on to the next header, which is the first of the lines
`rest`, or to the end of the text. A line that is content is not looked at as a header. -/
structure Spans (header : HunkHeader) (body rest : List (List Char)) : Prop where
  staysOpen : header.StaysOpen body
  ends : ∀ line ∈ rest.head?,
    header.contentAfter? (header.content body) line = none ∧ (Header.read? line).isSome = true

theorem content_concat (header : HunkHeader) (body : List (List Char)) (line : List Char) :
    header.content (body ++ [line]) =
      header.content body ++ (header.contentAfter? (header.content body) line).toList := by
  rw [content, content, List.foldl_append, List.foldl_cons, List.foldl_nil]

theorem StaysOpen.concat {body : List (List Char)} (h : header.StaysOpen body) {line : List Char}
    (hline : (header.contentAfter? (header.content body) line).isSome = true ∨
      Header.read? line = none) : header.StaysOpen (body ++ [line]) := by
  intro front line' back e
  rcases List.eq_nil_or_concat back with rfl | ⟨back, last, rfl⟩
  · obtain ⟨rfl, hlast⟩ := List.append_inj' e rfl
    rw [← List.singleton_inj.1 hlast]
    exact hline
  · rw [List.concat_eq_append, ← List.cons_append, ← List.append_assoc] at e
    exact h front line' back (List.append_inj' e rfl).1

theorem Promises.of_append {front back : List HunkLine} (h : header.Promises (front ++ back)) :
    header.Promises front := by
  unfold Promises at h ⊢
  rw [HunkLine.oldTotal_append, HunkLine.newTotal_append] at h
  omega

/-- Below a hunk that has all its lines the lines with a sign are content that could not open the
next file, and nothing else is. -/
theorem content_append_of_complete {filled : List (List Char)}
    (h : ¬ header.Promises (header.content filled)) (trailing : List (List Char)) :
    header.content (filled ++ trailing) =
      header.content filled ++ trailing.filterMap HunkLine.surplus? := by
  induction trailing using List.reverseRecOn with
  | nil => simp
  | append_singleton trailing line ih =>
    have hcomplete : ¬ header.Promises
        (header.content filled ++ trailing.filterMap HunkLine.surplus?) :=
      fun hpromised => h hpromised.of_append
    have hlast : [line].filterMap HunkLine.surplus? = (HunkLine.surplus? line).toList := by
      rw [List.filterMap_cons]
      cases HunkLine.surplus? line <;> rfl
    rw [← List.append_assoc, content_concat, ih, contentAfter?, if_neg hcomplete,
      List.filterMap_append, List.append_assoc, hlast]

end HunkHeader

/-! ## The hunk that a header opens -/

namespace OpenHunk

variable {h h' : OpenHunk} {header : HunkHeader} {body : List (List Char)} {line : List Char}

/-- The hunk has been opened by the header, and `body` are the lines below it. -/
structure IsOpenedBy (h : OpenHunk) (header : HunkHeader) (body : List (List Char)) : Prop where
  startLine_eq : h.startLine = max header.newStart 1
  lines_eq : h.lines = header.content body
  oldLeft_eq : h.oldLeft = header.oldCount - HunkLine.oldTotal h.lines
  newLeft_eq : h.newLeft = header.newCount - HunkLine.newTotal h.lines
  staysOpen : header.StaysOpen body

theorem isOpenedBy_ofHeader (header : HunkHeader) : (ofHeader header).IsOpenedBy header [] where
  startLine_eq := rfl
  lines_eq := rfl
  oldLeft_eq := rfl
  newLeft_eq := rfl
  staysOpen := fun _ _ _ e => by simp at e

namespace IsOpenedBy

/-- Lines are owed as long as the header promises them. -/
theorem isOwed_iff (hh : h.IsOpenedBy header body) : h.isOwed = true ↔ header.Promises h.lines := by
  simp only [isOwed, Bool.or_eq_true, decide_eq_true_eq, hh.oldLeft_eq, hh.newLeft_eq,
    Nat.sub_pos_iff_lt]
  rfl

/-- The hunk takes the lines that are content, apart from remarks. -/
theorem accept?_eq (hh : h.IsOpenedBy header body) (hline : ∀ text, line ≠ '\\' :: text) :
    h.accept? line = (header.contentAfter? h.lines line).map h.push := by
  unfold accept? HunkHeader.contentAfter? HunkLine.surplus?
  by_cases howed : header.Promises h.lines
  · rw [if_pos howed, hh.isOwed_iff.2 howed]
    split
    · exact absurd rfl (hline _)
    · rfl
    · rename_i hne
      rw [if_neg hne]
      rfl
  · have hnot : h.isOwed = false := Bool.eq_false_iff.2 fun ho => howed (hh.isOwed_iff.1 ho)
    rw [if_neg howed, hnot]
    split
    · exact absurd rfl (hline _)
    · rfl
    · split <;> simp_all

/-- One more line below the header: the hunk has the content of the line, if it has any. -/
theorem concat (hh : h.IsOpenedBy header body)
    (hline : (header.contentAfter? h.lines line).isSome = true ∨ Header.read? line = none) :
    ((header.contentAfter? h.lines line).elim h h.push).IsOpenedBy header (body ++ [line]) := by
  rw [hh.lines_eq] at hline ⊢
  have hopen : header.StaysOpen (body ++ [line]) := hh.staysOpen.concat hline
  have hcontent := header.content_concat body line
  cases hl : header.contentAfter? (header.content body) line with
  | none =>
    rw [hl, Option.toList_none, List.append_nil] at hcontent
    have hlines : h.lines = header.content (body ++ [line]) := hh.lines_eq.trans hcontent.symm
    exact ⟨hh.startLine_eq, hlines, hh.oldLeft_eq, hh.newLeft_eq, hopen⟩
  | some l =>
    rw [hl, Option.toList_some, ← hh.lines_eq, ← lines_push] at hcontent
    refine ⟨hh.startLine_eq, hcontent.symm, ?_, ?_, hopen⟩
    · show h.oldLeft - l.oldCount = header.oldCount - HunkLine.oldTotal (h.push l).lines
      rw [lines_push, HunkLine.oldTotal_append, hh.oldLeft_eq, Nat.sub_sub]
      rfl
    · show h.newLeft - l.newCount = header.newCount - HunkLine.newTotal (h.push l).lines
      rw [lines_push, HunkLine.newTotal_append, hh.newLeft_eq, Nat.sub_sub]
      rfl

theorem of_accept? (hh : h.IsOpenedBy header body) (htaken : h.accept? line = some h') :
    h'.IsOpenedBy header (body ++ [line]) := by
  by_cases hremark : ∃ text, line = '\\' :: text
  · obtain ⟨text, rfl⟩ := hremark
    -- A remark is no content, and no header either.
    have hnone : header.contentAfter? h.lines ('\\' :: text) = none := by
      unfold HunkHeader.contentAfter? HunkLine.surplus?
      simp [HunkLine.read?]
    have hread : Header.read? ('\\' :: text) = none := rfl
    have hconcat := hh.concat (Or.inr hread)
    rw [hnone] at hconcat
    rw [accept?_remark] at htaken
    rw [← Option.some.inj htaken]
    exact hconcat
  · rw [hh.accept?_eq (not_exists.1 hremark)] at htaken
    obtain ⟨l, hl, rfl⟩ := Option.map_eq_some_iff.1 htaken
    have htakes : (header.contentAfter? h.lines line).isSome = true := by
      rw [hl]
      rfl
    have hconcat := hh.concat (Or.inl htakes)
    rw [hl] at hconcat
    exact hconcat

theorem contentAfter?_of_refused (hh : h.IsOpenedBy header body)
    (hrefused : h.accept? line = none) : header.contentAfter? h.lines line = none := by
  rw [hh.accept?_eq, Option.map_eq_none_iff] at hrefused
  · exact hrefused
  · rintro text rfl
    rw [accept?_remark] at hrefused
    simp at hrefused

theorem of_refused (hh : h.IsOpenedBy header body) (hrefused : h.accept? line = none)
    (hread : Header.read? line = none) : h.IsOpenedBy header (body ++ [line]) := by
  have hconcat := hh.concat (Or.inr hread)
  rw [hh.contentAfter?_of_refused hrefused] at hconcat
  exact hconcat

end IsOpenedBy

end OpenHunk

/-! ## Where the open hunk has been opened -/

namespace Reader

/-- The open hunk has been opened by a hunk header among the lines read so far, and the lines after
it are all below that header. -/
def IsOpened (read : List (List Char)) (r : Reader) : Prop :=
  ∀ h, r.hunk = some h → ∃ before opening header body, read = before ++ opening :: body ∧
    HunkHeader.read? opening = some header ∧ h.IsOpenedBy header body

theorem isOpened_start : start.IsOpened [] := by
  intro h hhunk
  simp [start] at hhunk

theorem IsOpened.step {read : List (List Char)} {r : Reader} (hr : r.IsOpened read)
    (line : List Char) : (r.step line).2.IsOpened (read ++ [line]) := by
  rcases r.step_cases line with ⟨h, h', hhunk, htaken, e⟩ | ⟨header, -, hread, e⟩ |
    ⟨hrefused, hread, e⟩
  · rw [e]
    intro h'' hopen
    rw [← Option.some.inj hopen]
    obtain ⟨before, opening, header, body, rfl, hheader, hh⟩ := hr h hhunk
    exact ⟨before, opening, header, body ++ [line], by simp, hheader, hh.of_accept? htaken⟩
  · rw [e]
    intro h hopen
    cases header with
    | git tail => simp [afterHeader] at hopen
    | oldSide tail => simp [afterHeader] at hopen
    | newSide tail => simp [afterHeader] at hopen
    | hunk line' =>
      obtain ⟨header, hheader, rfl⟩ := Option.map_eq_some_iff.1 hopen
      rw [Header.eq_of_read?_hunk hread] at hheader
      exact ⟨read, line, header, [], rfl, hheader, OpenHunk.isOpenedBy_ofHeader header⟩
  · rw [e]
    intro h hhunk
    obtain ⟨before, opening, header, body, rfl, hheader, hh⟩ := hr h hhunk
    exact ⟨before, opening, header, body ++ [line], by simp, hheader,
      hh.of_refused (hrefused h hhunk) hread⟩

end Reader

/-- Every chunk of a text is made of a hunk that one of the lines has opened and that goes on to the
next header. -/
theorem exists_opening_of_mem_ofDiff {diff : String} {c : Chunk} (hc : c ∈ Chunk.ofDiff diff) :
    ∃ before opening body after header h path,
      Text.lines diff.toList = before ++ opening :: (body ++ after) ∧
      HunkHeader.read? opening = some header ∧ header.Spans body after ∧
      OpenHunk.IsOpenedBy h header body ∧ h.IsSound ∧ c.IsMadeOf path h := by
  have hstep : ∀ front line back, Text.lines diff.toList = front ++ line :: back →
      ∀ r : Reader, r.IsSound ∧ r.IsOpened front →
        (r.step line).2.IsSound ∧ (r.step line).2.IsOpened (front ++ [line]) := by
    intro front line back e r hr
    have hline : line ∈ Text.lines diff.toList := by simp [e]
    exact ⟨hr.1.step (Text.not_mem_of_mem_lines hline), hr.2.step line⟩
  obtain ⟨front, back, r, hlines, ⟨hsound, hopened⟩, hpending, hends⟩ :=
    Reader.exists_position_of_mem_chunks hstep ⟨Reader.isSound_start, Reader.isOpened_start⟩ hc
  obtain ⟨h, path, hhunk, -, hmade⟩ := Reader.exists_hunk_of_mem_pending hpending
  obtain ⟨before, opening, header, body, rfl, hheader, hh⟩ := hopened h hhunk
  refine ⟨before, opening, body, back, header, h, String.ofList path, ?_, hheader, ?_, hh,
    hsound h hhunk, hmade⟩
  · rw [hlines, List.append_assoc, List.cons_append]
  · refine ⟨hh.staysOpen, fun line hline => ?_⟩
    obtain ⟨hrefused, hread⟩ := hends line hline
    rw [← hh.lines_eq]
    exact ⟨hh.contentAfter?_of_refused (hrefused h hhunk), hread⟩

/-! ## The content of a chunk -/

/-- The content of the lines `body` below the header makes the chunk. -/
structure HunkHeader.Makes (header : HunkHeader) (body : List (List Char)) (c : Chunk) : Prop where
  startLine_eq : c.startLine = max header.newStart 1
  contextRows_eq : c.contextRows = (header.content body).map HunkLine.signed
  oldLength_eq : c.oldLength = HunkLine.oldTotal (header.content body)
  newLength_eq : c.newLength = HunkLine.newTotal (header.content body)

theorem OpenHunk.IsOpenedBy.makes {h : OpenHunk} {header : HunkHeader} {body : List (List Char)}
    (hh : h.IsOpenedBy header body) (hs : h.IsSound) {path : String} {c : Chunk}
    (hmade : c.IsMadeOf path h) : header.Makes body c := by
  have hrows : c.contextRows = (header.content body).map HunkLine.signed := by
    rw [hs.contextRows_eq hmade, hh.lines_eq]
  have hunchanged : c.signedRows ' ' = (header.content body).filterMap HunkLine.unchanged? := by
    rw [Chunk.signedRows, hrows, List.filterMap_map]
    exact List.filterMap_congr fun l _ => l.isPrefixOf?_blank_signed
  constructor
  case startLine_eq => rw [hmade.startLine_eq, hh.startLine_eq]
  case contextRows_eq => exact hrows
  case oldLength_eq =>
    rw [Chunk.oldLength, hunchanged, hmade.removedLines_eq, hh.lines_eq, HunkLine.oldTotal_eq]
  case newLength_eq =>
    rw [Chunk.newLength, hunchanged, hmade.addedLines_eq, hh.lines_eq, HunkLine.newTotal_eq]

/-- Every chunk of a text is the content of the lines between a hunk header and the next header.
Once both counts of the header have been reached, each further line with a sign that could not open
the next file is content too and adds to the length of the chunk, and nothing else does. -/
theorem exists_header_of_mem_ofDiff {diff : String} {c : Chunk} (hc : c ∈ Chunk.ofDiff diff) :
    ∃ before opening body after header,
      Text.lines diff.toList = before ++ opening :: (body ++ after) ∧
      HunkHeader.read? opening = some header ∧ header.Spans body after ∧ header.Makes body c ∧
      ∀ filled trailing, body = filled ++ trailing →
        HunkLine.oldTotal (header.content filled) = header.oldCount →
        HunkLine.newTotal (header.content filled) = header.newCount →
          c.oldLength =
            header.oldCount + HunkLine.oldTotal (trailing.filterMap HunkLine.surplus?) ∧
          c.newLength =
            header.newCount + HunkLine.newTotal (trailing.filterMap HunkLine.surplus?) := by
  obtain ⟨before, opening, body, after, header, h, path, hlines, hheader, hspans, hh, hs, hmade⟩ :=
    exists_opening_of_mem_ofDiff hc
  have hmakes : header.Makes body c := hh.makes hs hmade
  refine ⟨before, opening, body, after, header, hlines, hheader, hspans, hmakes, ?_⟩
  rintro filled trailing rfl hold hnew
  have hcomplete : ¬ header.Promises (header.content filled) := by
    rw [HunkHeader.Promises, hold, hnew]
    omega
  rw [hmakes.oldLength_eq, hmakes.newLength_eq,
    HunkHeader.content_append_of_complete hcomplete, HunkLine.oldTotal_append,
    HunkLine.newTotal_append, hold, hnew]
  exact ⟨rfl, rfl⟩

/-- A hunk of one line on either side: an empty line and a line of three signs below it are passed
over, and the line after them is content. -/
theorem exists_header_of_mem_ofDiff_of_surplus :
    let diff := "+++ b/x\n@@ -1 +1 @@\n-a\n+b\n\n---c\n+d\n--- e\n"
    ∃ c ∈ Chunk.ofDiff diff, ∃ (header : HunkHeader) (body : List (List Char)),
      header.Makes body c ∧ header = ⟨1, 1, 1⟩ ∧ c.oldLength = 1 ∧ c.newLength = 2 := by
  intro diff
  have hchunk : ∃ c ∈ Chunk.ofDiff diff, c.oldLength = 1 ∧ c.newLength = 2 := by decide
  have honly : (Text.lines diff.toList).filterMap HunkHeader.read? = [⟨1, 1, 1⟩] := by decide
  obtain ⟨c, hc, hold, hnew⟩ := hchunk
  obtain ⟨before, opening, body, after, header, hlines, hheader, -, hmakes, -⟩ :=
    exists_header_of_mem_ofDiff hc
  have hmem : header ∈ (Text.lines diff.toList).filterMap HunkHeader.read? :=
    List.mem_filterMap.2 ⟨opening, by simp [hlines], hheader⟩
  rw [honly] at hmem
  exact ⟨c, hc, header, body, hmakes, List.mem_singleton.1 hmem, hold, hnew⟩

/-- A mail signature below a complete hunk: the only hunk header of the text counts one line before
the change, but the chunk covers two, the second of which is the signature. -/
theorem signature_below_hunk_is_content :
    let diff := "--- a/x\n+++ b/x\n@@ -1 +1 @@\n-a\n+b\n-- \n2.40.1\n"
    ∃ c ∈ Chunk.ofDiff diff, c.removedLines = ["a", "- "] ∧
      ∀ header ∈ (Text.lines diff.toList).filterMap HunkHeader.read?,
        header.oldCount < c.oldLength := by
  decide

end Diff

end ReviewBot
