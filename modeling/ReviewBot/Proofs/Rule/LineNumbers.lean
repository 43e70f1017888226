import ReviewBot.Proofs.Diff.WrittenHunk
import ReviewBot.Proofs.Rule.BuiltIn

set_option autoImplicit false

/-!
# Line numbers of unguarded member accesses

In the changed file the added and the unchanged lines of a hunk follow each other from its first
line on. The rule on member accesses numbers the added lines alone: the report of an added line
stands as many lines below the beginning of the hunk as there are added lines before it. So the
report stands at its line exactly if no unchanged line of the hunk comes before that line
(`lineNumber_memberAccess_eq_iff`).
-/

namespace ReviewBot

namespace Diff

namespace HunkLine

/-- The texts of the added lines. -/
def addedTexts (lines : List HunkLine) : List String := lines.filterMap added?

theorem addedTexts_append (front back : List HunkLine) :
    addedTexts (front ++ back) = addedTexts front ++ addedTexts back :=
  List.filterMap_append

/-- Every added line is a line of the changed file. -/
theorem length_addedTexts_le (lines : List HunkLine) :
    (addedTexts lines).length ≤ newTotal lines := by
  induction lines with
  | nil => exact Nat.le_refl 0
  | cons line rest ih =>
    cases line with
    | added text =>
      show (addedTexts rest).length + 1 ≤ 1 + newTotal rest
      omega
    | removed text =>
      show (addedTexts rest).length ≤ 0 + newTotal rest
      omega
    | unchanged text =>
      show (addedTexts rest).length ≤ 1 + newTotal rest
      omega

/-- The other lines of the changed file are the unchanged ones. -/
theorem length_addedTexts_eq_iff (lines : List HunkLine) :
    (addedTexts lines).length = newTotal lines ↔ ∀ text, unchanged text ∉ lines := by
  induction lines with
  | nil =>
    constructor
    · intro _ text
      exact List.not_mem_nil
    · intro _
      rfl
  | cons line rest ih =>
    have hle := length_addedTexts_le rest
    cases line with
    | added text =>
      have hcons : (addedTexts (added text :: rest)).length = newTotal (added text :: rest) ↔
          (addedTexts rest).length = newTotal rest := by
        show (addedTexts rest).length + 1 = 1 + newTotal rest ↔ _
        omega
      rw [hcons, ih]
      simp
    | removed text =>
      have hcons : (addedTexts (removed text :: rest)).length = newTotal (removed text :: rest) ↔
          (addedTexts rest).length = newTotal rest := by
        show (addedTexts rest).length = 0 + newTotal rest ↔ _
        omega
      rw [hcons, ih]
      simp
    | unchanged text =>
      constructor
      · intro h
        have hlonger : (addedTexts rest).length = 1 + newTotal rest := h
        omega
      · intro h
        exact absurd List.mem_cons_self (h text)

end HunkLine

/-- The number in the changed file of the line of a hunk that follows the lines `front`. -/
def WrittenHunk.newNumber (w : WrittenHunk) (front : List HunkLine) : Nat :=
  w.newStart + HunkLine.newTotal front

end Diff

namespace MemberAccess

/-- How many of the added lines are reported. -/
def reportedTotal (lines : List Diff.HunkLine) : Nat :=
  (Diff.HunkLine.addedTexts lines).countP isUnguarded

theorem length_filter_zipIdx (texts : List String) (first : Nat) :
    ((texts.zipIdx first).filter fun line => isUnguarded line.1).length =
      texts.countP isUnguarded := by
  have hmap : ((texts.zipIdx first).map Prod.fst).countP isUnguarded =
      (texts.zipIdx first).countP fun line => isUnguarded line.1 := List.countP_map
  rw [← List.countP_eq_length_filter, ← hmap, List.zipIdx_map_fst]

end MemberAccess

namespace Chunk

/-- One report for each added line with an unguarded member access. -/
theorem length_memberAccessFindings (chunk : Chunk) :
    chunk.memberAccessFindings.length = chunk.addedLines.countP MemberAccess.isUnguarded := by
  rw [memberAccessFindings, List.length_map, MemberAccess.length_filter_zipIdx]

/-- The report of an added line counts the added lines before it. -/
theorem getElem?_memberAccessFindings {chunk : Chunk} {front back : List String} {text : String}
    (hlines : chunk.addedLines = front ++ text :: back)
    (hreported : MemberAccess.isUnguarded text = true) :
    chunk.memberAccessFindings[front.countP MemberAccess.isUnguarded]? =
      some (MemberAccess.finding chunk front.length) := by
  have hfront := MemberAccess.length_filter_zipIdx front 0
  have hkept : chunk.addedLines.zipIdx.filter (fun line => MemberAccess.isUnguarded line.1) =
      front.zipIdx.filter (fun line => MemberAccess.isUnguarded line.1) ++
        (text, front.length) ::
          (back.zipIdx (front.length + 1)).filter fun line => MemberAccess.isUnguarded line.1 := by
    rw [hlines, List.zipIdx_append, List.zipIdx_cons, List.filter_append, Nat.zero_add]
    refine congrArg _ (List.filter_cons_of_pos ?_)
    exact hreported
  rw [memberAccessFindings, hkept, List.getElem?_map, ← hfront,
    List.getElem?_append_right (Nat.le_refl _), Nat.sub_self]
  rfl

end Chunk

open Diff (HunkLine WrittenHunk Completes Reader)

/-- Wherever a hunk stands in a file, it is read as its chunk, and the rule makes one report for
each of its added lines with an unguarded member access, in order. The report of an added line
counts the added lines of the hunk before it, so it stands at the number of that line in the changed
file exactly if no unchanged line of the hunk comes before. -/
theorem lineNumber_memberAccess_eq_iff {w : WrittenHunk} {path : List Char} {change : ChangeKind}
    {chunk : Chunk} (hchunk : w.chunk? (String.ofList path) change = some chunk)
    (hstart : 1 ≤ w.newStart) (hend : w.newStart + HunkLine.newTotal w.contents ≤ maxWord)
    {front back : List HunkLine} {text : List Char}
    (hline : w.contents = front ++ .added text :: back)
    (hreported : MemberAccess.isUnguarded (String.ofList text) = true) :
    Completes (Reader.IsIn path change) (w.rows.map Text.closed) [chunk]
        (Reader.IsIn path change) ∧
      (Rule.memberAccess.inspect chunk).findings.length =
        MemberAccess.reportedTotal w.contents ∧
      ∃ f, (Rule.memberAccess.inspect chunk).findings[MemberAccess.reportedTotal front]? = some f ∧
        f.filePath = String.ofList path ∧
        f.lineNumber = w.newStart + (HunkLine.addedTexts front).length ∧
        (f.lineNumber = w.newNumber front ↔ ∀ same, HunkLine.unchanged same ∉ front) := by
  have hcompletes := w.completes_rows path change
  rw [hchunk] at hcompletes
  unfold WrittenHunk.chunk? at hchunk
  split at hchunk
  · simp at hchunk
  · have hpath : chunk.filePath = String.ofList path := by
      rw [← Option.some.inj hchunk]
    have hfirst : chunk.startLine = w.newStart := by
      rw [← Option.some.inj hchunk]
      exact Nat.max_eq_left hstart
    have hadded : chunk.addedLines = HunkLine.addedTexts w.contents := by
      rw [← Option.some.inj hchunk]
      rfl
    refine ⟨hcompletes, ?_, ?_⟩
    · show chunk.memberAccessFindings.length = _
      rw [chunk.length_memberAccessFindings, hadded]
      rfl
    · have hsplit : chunk.addedLines =
          HunkLine.addedTexts front ++ String.ofList text :: HunkLine.addedTexts back := by
        rw [hadded, hline, HunkLine.addedTexts_append]
        rfl
      -- The added lines before this one are lines of the hunk, so the number is within the limit.
      have hlimit : w.newStart + (HunkLine.addedTexts front).length ≤ maxWord := by
        have hfront := HunkLine.length_addedTexts_le front
        rw [hline, HunkLine.newTotal_append] at hend
        omega
      have hnumber : (MemberAccess.finding chunk (HunkLine.addedTexts front).length).lineNumber =
          w.newStart + (HunkLine.addedTexts front).length := by
        show min (chunk.startLine + (HunkLine.addedTexts front).length) maxWord = _
        rw [hfirst]
        exact Nat.min_eq_left hlimit
      refine ⟨_, Chunk.getElem?_memberAccessFindings hsplit hreported, hpath, hnumber, ?_⟩
      rw [hnumber, ← HunkLine.length_addedTexts_eq_iff]
      exact Nat.add_left_cancel_iff

/-- A report before an unchanged line stands at its line, and one after it a line too high. -/
theorem lineNumber_memberAccess_of_unchanged_between :
    let w : WrittenHunk :=
      { oldStart := 7, newStart := 7, heading := []
        body := [.content (.removed "x".toList), .content (.added "a.b".toList),
          .content (.unchanged "y".toList), .content (.added "c.d".toList)]
        oldStart_le := by decide, newStart_le := by decide, oldTotal_le := by decide
        newTotal_le := by decide, heading_single := by decide
        body_single := by
          simp only [List.forall_mem_cons]
          exact ⟨⟨by decide, by decide⟩, ⟨by decide, by decide⟩, ⟨by decide, by decide⟩,
            ⟨by decide, by decide⟩, by simp⟩ }
    ∃ chunk f g, w.chunk? "f.js" .modified = some chunk ∧
      (Rule.memberAccess.inspect chunk).findings = [f, g] ∧
      f.lineNumber = w.newNumber [.removed "x".toList] ∧
      g.lineNumber ≠ w.newNumber [.removed "x".toList, .added "a.b".toList,
        .unchanged "y".toList] := by
  intro w
  have hchunk : w.chunk? (String.ofList "f.js".toList) .modified = some
      { filePath := "f.js", fileType := "js", startLine := 7, addedLines := ["a.b", "c.d"]
        removedLines := ["x"], context := "-x\n+a.b\n y\n+c.d\n", change := .modified } := by
    decide +kernel
  have hab : MemberAccess.isUnguarded (String.ofList "a.b".toList) = true := by decide +kernel
  have hcd : MemberAccess.isUnguarded (String.ofList "c.d".toList) = true := by decide +kernel
  have hfirstLine : w.contents = [.removed "x".toList] ++ .added "a.b".toList ::
      [.unchanged "y".toList, .added "c.d".toList] := rfl
  have hsecondLine : w.contents = [.removed "x".toList, .added "a.b".toList,
      .unchanged "y".toList] ++ .added "c.d".toList :: [] := rfl
  obtain ⟨-, hcount, f, hf, -, -, hfirst⟩ :=
    lineNumber_memberAccess_eq_iff hchunk (by decide) (by decide) hfirstLine hab
  obtain ⟨-, -, g, hg, -, -, hsecond⟩ :=
    lineNumber_memberAccess_eq_iff hchunk (by decide) (by decide) hsecondLine hcd
  have htotal : MemberAccess.reportedTotal w.contents = 2 := by decide +kernel
  have hsecondIndex : MemberAccess.reportedTotal
      [.removed "x".toList, .added "a.b".toList, .unchanged "y".toList] = 1 := by decide +kernel
  rw [htotal] at hcount
  rw [hsecondIndex] at hg
  obtain ⟨f', g', hboth⟩ := List.length_eq_two.1 hcount
  rw [hboth] at hf hg
  have hf' : f' = f := Option.some.inj hf
  have hg' : g' = g := Option.some.inj hg
  refine ⟨_, f, g, hchunk, ?_, hfirst.2 (by simp), fun h => ?_⟩
  · rw [hboth, hf', hg']
  · exact hsecond.1 h "y".toList (by simp)

/-- The only added line is the second line of the changed file, and it is reported at the first. -/
theorem memberAccess_misnumbered_after_unchanged :
    let diff := "diff --git a/f.js b/f.js\n--- a/f.js\n+++ b/f.js\n@@ -1,1 +1,2 @@\n let x;\n+a.b\n"
    ((Chunk.ofDiff diff).flatMap fun chunk =>
        (Rule.memberAccess.inspect chunk).findings.map (·.lineNumber)) = [1] ∧
      1 + HunkLine.newTotal [.unchanged "let x;".toList] = 2 := by
  decide +kernel

end ReviewBot
