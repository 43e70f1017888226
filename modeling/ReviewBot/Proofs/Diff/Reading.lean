import Mathlib.Data.List.Basic
import ReviewBot.Diff.Parser
import ReviewBot.Proofs.Diff.HunkLine

set_option autoImplicit false

/-!
# Stretches of a diff

`Reads r rows cs r'` says that reading the lines `rows` takes the reader from `r` to `r'` and
completes the chunks `cs`. Stretches can be put together (`Reads.append`). The chunks of a whole
diff are the completed ones and the one that is pending at the end (`Reads.chunks_eq`). An open hunk
refuses every line that begins with anything but a sign or a backslash, so git lines and hunk
headers are read as headers at every position (`step_gitLine`, `step_hunkLine`); the sides of a file
are read as headers where no line of the open hunk is owed (`step_oldSide`, `step_newSide`).

`Completes pre rows chunks post` is the specification of a stretch for all positions at once: from a
position with `pre` the lines complete `chunks` and lead to one with `post`.
-/

namespace ReviewBot.Diff

/-- Reading lines takes the reader from one position to another and completes chunks. -/
inductive Reads : Reader → List (List Char) → List Chunk → Reader → Prop
  | nil (r : Reader) : Reads r [] [] r
  | cons {r r' : Reader} {line : List Char} {rows : List (List Char)} {cs : List Chunk} :
      Reads (r.step line).2 rows cs r' → Reads r (line :: rows) ((r.step line).1 ++ cs) r'

theorem Reads.of_step {r r' r'' : Reader} {line : List Char} {rows : List (List Char)}
    {now later : List Chunk} (hstep : r.step line = (now, r')) (h : Reads r' rows later r'') :
    Reads r (line :: rows) (now ++ later) r'' := by
  have hcons : Reads r (line :: rows) ((r.step line).1 ++ later) r'' := by
    refine Reads.cons ?_
    rw [hstep]
    exact h
  rw [hstep] at hcons
  exact hcons

theorem Reads.append {r r' r'' : Reader} {xs ys : List (List Char)} {cs ds : List Chunk}
    (hx : Reads r xs cs r') (hy : Reads r' ys ds r'') :
    Reads r (xs ++ ys) (cs ++ ds) r'' := by
  induction hx with
  | nil r => exact hy
  | cons _ ih =>
    rw [List.cons_append, List.append_assoc]
    exact Reads.cons (ih hy)

/-- The chunks of a diff are those that are completed while it is read, and the one that its end
completes. -/
theorem Reads.chunks_eq {r r' : Reader} {rows : List (List Char)} {cs : List Chunk}
    (h : Reads r rows cs r') : r.chunks rows = cs ++ r'.pending := by
  induction h with
  | nil r => rfl
  | cons _ ih => rw [Reader.chunks, ih, List.append_assoc]

namespace OpenHunk

theorem lines_push (h : OpenHunk) (l : HunkLine) : (h.push l).lines = h.lines ++ [l] := by
  simp [lines, push]

/-- Only signs and backslashes begin the content of a hunk. -/
theorem accept?_eq_none (h : OpenHunk) {c : Char} (hc : c ∉ ['\\', '+', '-', ' '])
    (tail : List Char) : h.accept? (c :: tail) = none := by
  simp only [List.mem_cons, List.not_mem_nil, or_false, not_or] at hc
  obtain ⟨hback, hplus, hminus, hblank⟩ := hc
  have hread : HunkLine.read? (c :: tail) = none := by
    unfold HunkLine.read?
    split <;> simp_all
  unfold accept?
  split
  · simp_all
  · simp_all
  · split
    · rfl
    · rw [hread]
      rfl

/-- What comes of the lines that a hunk takes. -/
inductive Takes (h : OpenHunk) : List Char → OpenHunk → Prop
  | remark (text : List Char) : Takes h ('\\' :: text) h
  | blank : h.isOwed = true → Takes h [] (h.push (.unchanged []))
  | content (l : HunkLine) : (h.isOwed = true ∨ looksLikeFileHeader l.signed = false) →
      Takes h l.signed (h.push l)

/-- A line that is taken is a remark, an empty line that is owed, or a line with its sign. -/
theorem takes_of_accept? {h h' : OpenHunk} {line : List Char} (e : h.accept? line = some h') :
    h.Takes line h' := by
  unfold accept? at e
  split at e
  · rw [← Option.some.inj e]
    exact .remark _
  · split at e
    · rename_i howed
      rw [← Option.some.inj e]
      exact .blank howed
    · simp at e
  · split at e
    · simp at e
    · rename_i hheader
      obtain ⟨l, hread, rfl⟩ := Option.map_eq_some_iff.1 e
      rw [← HunkLine.signed_of_read? hread] at hheader ⊢
      refine .content l ?_
      rw [Bool.and_eq_true, Bool.not_eq_true', not_and_or] at hheader
      simpa using hheader

/-- A remark is passed over. -/
theorem accept?_remark (h : OpenHunk) (text : List Char) : h.accept? ('\\' :: text) = some h :=
  rfl

theorem isOwed_of_count_le (h : OpenHunk) (l : HunkLine) (hold : l.oldCount ≤ h.oldLeft)
    (hnew : l.newCount ≤ h.newLeft) : h.isOwed = true := by
  cases l with
  | added text =>
    simp only [HunkLine.newCount] at hnew
    simp only [isOwed, Bool.or_eq_true, decide_eq_true_eq]
    omega
  | removed text =>
    simp only [HunkLine.oldCount] at hold
    simp only [isOwed, Bool.or_eq_true, decide_eq_true_eq]
    omega
  | unchanged text =>
    simp only [HunkLine.oldCount] at hold
    simp only [isOwed, Bool.or_eq_true, decide_eq_true_eq]
    omega

/-- Where nothing is owed, what looks like the header of a file is refused. -/
theorem accept?_eq_none_of_not_owed {h : OpenHunk} (howed : h.isOwed = false) {c : Char}
    {line : List Char} (hc : c ≠ '\\') (hlook : looksLikeFileHeader (c :: line) = true) :
    h.accept? (c :: line) = none := by
  unfold accept?
  split
  · rename_i e
    exact absurd (List.cons.inj e).1 hc
  · rename_i e
    simp at e
  · rw [howed, hlook]
    rfl

/-- A line that the header still promises is content, whatever it looks like. -/
theorem accept?_signed (h : OpenHunk) (l : HunkLine) (hold : l.oldCount ≤ h.oldLeft)
    (hnew : l.newCount ≤ h.newLeft) : h.accept? l.signed = some (h.push l) := by
  have howed : h.isOwed = true := isOwed_of_count_le h l hold hnew
  cases l with
  | added text => simp [accept?, HunkLine.signed, HunkLine.read?, howed]
  | removed text => simp [accept?, HunkLine.signed, HunkLine.read?, howed]
  | unchanged text => simp [accept?, HunkLine.signed, HunkLine.read?, howed]

end OpenHunk

namespace Header

theorem read?_gitLine (tail : List Char) :
    Header.read? ("diff --git ".toList ++ tail) = some (.git tail) :=
  rfl

theorem read?_oldSide (tail : List Char) :
    Header.read? ("--- ".toList ++ tail) = some (.oldSide tail) :=
  rfl

theorem read?_newSide (tail : List Char) :
    Header.read? ("+++ ".toList ++ tail) = some (.newSide tail) :=
  rfl

theorem read?_hunkLine (tail : List Char) :
    Header.read? ("@@".toList ++ tail) = some (.hunk ("@@".toList ++ tail)) :=
  rfl

/-- The line that is read as a header. -/
def line : Header → List Char
  | git tail => "diff --git ".toList ++ tail
  | oldSide tail => "--- ".toList ++ tail
  | newSide tail => "+++ ".toList ++ tail
  | hunk line => line

theorem line_of_read? {row : List Char} {header : Header} (h : Header.read? row = some header) :
    header.line = row := by
  rw [Header.read?] at h
  split at h
  · rename_i tail htail
    obtain rfl := Option.some.inj h
    exact List.isPrefixOf?_eq_some_iff_append_eq.1 htail
  · split at h
    · rename_i tail htail
      obtain rfl := Option.some.inj h
      exact List.isPrefixOf?_eq_some_iff_append_eq.1 htail
    · split at h
      · rename_i tail htail
        obtain rfl := Option.some.inj h
        exact List.isPrefixOf?_eq_some_iff_append_eq.1 htail
      · split at h
        · obtain rfl := Option.some.inj h
          rfl
        · cases h

/-- A hunk header is read as the whole line. -/
theorem eq_of_read?_hunk {line line' : List Char} (h : Header.read? line = some (.hunk line')) :
    line' = line :=
  line_of_read? h

/-- A line with none of the four markers at its beginning is no header. -/
theorem read?_eq_none {line : List Char}
    (h : ∀ marker ∈ ["diff --git ", "--- ", "+++ ", "@@"], ¬ marker.toList <+: line) :
    Header.read? line = none := by
  have hnone : ∀ marker ∈ ["diff --git ", "--- ", "+++ "],
      marker.toList.isPrefixOf? line = none := by
    intro marker hm
    rw [Option.eq_none_iff_forall_ne_some]
    intro tail htail
    rw [List.isPrefixOf?_eq_some_iff_append_eq] at htail
    exact h marker (List.mem_append_left ["@@"] hm) ⟨tail, htail⟩
  have hat : "@@".toList.isPrefixOf line = false := by
    rw [Bool.eq_false_iff]
    intro hp
    exact h "@@" (by simp) (List.isPrefixOf_iff_prefix.1 hp)
  rw [Header.read?, hnone _ (by simp), hnone _ (by simp), hnone _ (by simp), hat]
  rfl

end Header

namespace Reader

/-- The open hunk, if there is one, does not take the line. -/
def Refuses (r : Reader) (line : List Char) : Prop :=
  ∀ h, r.hunk = some h → h.accept? line = none

/-- A line goes on with the open hunk, or it is a header that completes the open hunk, or it is
passed over. -/
theorem step_cases (r : Reader) (line : List Char) :
    (∃ h h', r.hunk = some h ∧ h.accept? line = some h' ∧
        r.step line = ([], { r with hunk := some h' })) ∨
      (∃ header, r.Refuses line ∧ Header.read? line = some header ∧
        r.step line = (r.pending, afterHeader r.place header)) ∨
      r.Refuses line ∧ Header.read? line = none ∧ r.step line = ([], r) := by
  cases haccept : r.hunk.bind (·.accept? line) with
  | some h' =>
    obtain ⟨h, hhunk, htaken⟩ := Option.bind_eq_some_iff.1 haccept
    refine Or.inl ⟨h, h', hhunk, htaken, ?_⟩
    rw [step, haccept]
  | none =>
    have hrefused : r.Refuses line := Option.bind_eq_none_iff.1 haccept
    cases hread : Header.read? line with
    | some header =>
      refine Or.inr (Or.inl ⟨header, hrefused, rfl, ?_⟩)
      rw [step, haccept, hread]
    | none =>
      refine Or.inr (Or.inr ⟨hrefused, rfl, ?_⟩)
      rw [step, haccept, hread]

/-- A line completes at most what is pending before it, and only a header does so. -/
theorem mem_step {r : Reader} {line : List Char} {c : Chunk} (h : c ∈ (r.step line).1) :
    c ∈ r.pending ∧ r.Refuses line ∧ (Header.read? line).isSome = true := by
  rcases r.step_cases line with ⟨_, _, -, -, e⟩ | ⟨header, hrefused, hread, e⟩ | ⟨-, -, e⟩
  · rw [e] at h
    exact absurd h List.not_mem_nil
  · rw [e] at h
    refine ⟨h, hrefused, ?_⟩
    rw [hread]
    rfl
  · rw [e] at h
    exact absurd h List.not_mem_nil

/-- The open hunk ends here: the lines that follow begin with a header that is not content of the
hunk, or there are none. -/
def EndsBefore (r : Reader) (rows : List (List Char)) : Prop :=
  ∀ line ∈ rows.head?, r.Refuses line ∧ (Header.read? line).isSome = true

/-- Every chunk of a diff is pending at some position, where it is completed, and what holds at the
beginning and is kept by each line holds of what has been read up to that position. -/
theorem exists_position_of_mem_chunks {I : List (List Char) → Reader → Prop}
    {rows : List (List Char)}
    (hstep : ∀ front line back, rows = front ++ line :: back →
      ∀ r, I front r → I (front ++ [line]) (r.step line).2)
    {r : Reader} (hr : I [] r) {c : Chunk} (h : c ∈ r.chunks rows) :
    ∃ front back r', rows = front ++ back ∧ I front r' ∧ c ∈ r'.pending ∧ r'.EndsBefore back := by
  -- Induction over the lines, with what has been read before them as part of the invariant.
  induction rows generalizing r I with
  | nil => exact ⟨[], [], r, rfl, hr, h, fun _ hline => by simp at hline⟩
  | cons line rows ih =>
    rw [chunks, List.mem_append] at h
    rcases h with h | h
    · obtain ⟨hpending, hends⟩ := mem_step h
      refine ⟨[], line :: rows, r, rfl, hr, hpending, fun line' hline' => ?_⟩
      rw [← Option.some.inj hline']
      exact hends
    · obtain ⟨front, back, r', hrows, hI, hpending, hends⟩ :=
        ih (I := fun front => I (line :: front))
          (fun front line' back e => hstep (line :: front) line' back (by rw [e, List.cons_append]))
          (hstep [] line rows rfl r hr) h
      exact ⟨line :: front, back, r', by rw [hrows, List.cons_append], hI, hpending, hends⟩

/-- Every chunk of a diff is pending at some position, and what holds at the beginning and is kept
by each line holds at that position. -/
theorem exists_pending_of_mem_chunks {I : Reader → Prop} {rows : List (List Char)}
    (hstep : ∀ r, ∀ line ∈ rows, I r → I (r.step line).2) {r : Reader} (hr : I r) {c : Chunk}
    (h : c ∈ r.chunks rows) : ∃ r', I r' ∧ c ∈ r'.pending := by
  obtain ⟨_, _, r', -, hr', hpending, -⟩ :=
    exists_position_of_mem_chunks (I := fun _ => I)
      (fun front line back e r => hstep r line (by simp [e])) hr h
  exact ⟨r', hr', hpending⟩

theorem step_content {p : Place} {h h' : OpenHunk} {line : List Char}
    (hline : h.accept? line = some h') : step ⟨p, some h⟩ line = ([], ⟨p, some h'⟩) := by
  simp [step, hline]

/-- A header that the open hunk does not take closes it. -/
theorem step_header {r : Reader} {line : List Char} {header : Header}
    (hread : Header.read? line = some header)
    (hrefused : r.Refuses line) :
    r.step line = (r.pending, afterHeader r.place header) := by
  have hnone : r.hunk.bind (·.accept? line) = none := Option.bind_eq_none_iff.2 hrefused
  simp [step, hnone, hread]

/-- A git line begins a new file at every position. -/
theorem step_gitLine (r : Reader) (tail : List Char) :
    r.step ("diff --git ".toList ++ tail) = (r.pending, ⟨.afterGitLine tail, none⟩) := by
  refine step_header (Header.read?_gitLine tail) fun h _ => ?_
  exact h.accept?_eq_none (c := 'd') (by decide) ("iff --git ".toList ++ tail)

/-- A line that begins with two at signs is a hunk header at every position. -/
theorem step_hunkLine (r : Reader) (tail : List Char) :
    r.step ("@@".toList ++ tail) =
      (r.pending, ⟨{ r.place with inGitSection := false },
        (HunkHeader.read? ("@@".toList ++ tail)).map .ofHeader⟩) := by
  refine step_header (Header.read?_hunkLine tail) fun h _ => ?_
  exact h.accept?_eq_none (c := '@') (by decide) ('@' :: tail)

/-- No line of the open hunk is owed. -/
def NothingOwed (r : Reader) : Prop := ∀ h, r.hunk = some h → h.isOwed = false

theorem nothingOwed_of_no_hunk (p : Place) : NothingOwed ⟨p, none⟩ := by
  intro h hh
  simp at hh

/-- Where nothing is owed, a file begins with its side before the change. -/
theorem step_oldSide {r : Reader} (hr : r.NothingOwed) (tail : List Char) :
    r.step ("--- ".toList ++ tail) = (r.pending, ⟨r.place.afterOldSide tail, none⟩) := by
  refine step_header (Header.read?_oldSide tail) fun h hh => ?_
  exact OpenHunk.accept?_eq_none_of_not_owed (hr h hh) (c := '-') (by decide) rfl

/-- Where nothing is owed, the side after the change is read as such. -/
theorem step_newSide {r : Reader} (hr : r.NothingOwed) (tail : List Char) :
    r.step ("+++ ".toList ++ tail) = (r.pending, ⟨r.place.afterNewSide tail, none⟩) := by
  refine step_header (Header.read?_newSide tail) fun h hh => ?_
  exact OpenHunk.accept?_eq_none_of_not_owed (hr h hh) (c := '+') (by decide) rfl

/-- A line that is no header is passed over while no hunk is open. -/
theorem step_other (p : Place) {line : List Char} (h : Header.read? line = none) :
    step ⟨p, none⟩ line = ([], ⟨p, none⟩) := by
  simp [step, h]

end Reader

/-! ## Specifications of stretches -/

/-- From each position with `pre`, the lines complete the chunk that is pending there and then
`chunks`, the last of which may be pending at the end, where `post` holds. -/
def Completes (pre : Reader → Prop) (rows : List (List Char)) (chunks : List Chunk)
    (post : Reader → Prop) : Prop :=
  ∀ r, pre r → ∃ cs r', Reads r rows cs r' ∧ cs ++ r'.pending = r.pending ++ chunks ∧ post r'

namespace Completes

variable {pre mid post : Reader → Prop} {xs ys : List (List Char)} {cs ds : List Chunk}

theorem nil : Completes pre [] [] pre := fun r hr => ⟨[], r, Reads.nil r, by simp, hr⟩

theorem append (hx : Completes pre xs cs mid) (hy : Completes mid ys ds post) :
    Completes pre (xs ++ ys) (cs ++ ds) post := by
  intro r hr
  obtain ⟨cs', r', hreads, hpending, hmid⟩ := hx r hr
  obtain ⟨ds', r'', hreads', hpending', hpost⟩ := hy r' hmid
  refine ⟨cs' ++ ds', r'', hreads.append hreads', ?_, hpost⟩
  rw [List.append_assoc, hpending', ← List.append_assoc, hpending, List.append_assoc]

/-- Stretches that keep an assertion keep it together. -/
theorem flatMap {α : Type} {rows : α → List (List Char)} {chunks : α → List Chunk} {items : List α}
    (h : ∀ a ∈ items, Completes pre (rows a) (chunks a) pre) :
    Completes pre (items.flatMap rows) (items.flatMap chunks) pre := by
  induction items with
  | nil => exact nil
  | cons a items ih =>
    rw [List.flatMap_cons, List.flatMap_cons]
    exact (h a List.mem_cons_self).append (ih fun b hb => h b (List.mem_cons_of_mem a hb))

theorem mono {pre' post' : Reader → Prop} (h : Completes pre xs cs post)
    (hpre : ∀ r, pre' r → pre r) (hpost : ∀ r, post r → post' r) :
    Completes pre' xs cs post' := by
  intro r hr
  obtain ⟨cs', r', hreads, hpending, hr'⟩ := h r (hpre r hr)
  exact ⟨cs', r', hreads, hpending, hpost r' hr'⟩

/-- A line after which no hunk is open completes what is pending before it. -/
theorem of_step {line : List Char} (place : Reader → Place)
    (h : ∀ r, pre r → r.step line = (r.pending, ⟨place r, none⟩) ∧ post ⟨place r, none⟩) :
    Completes pre [line] [] post := by
  intro r hr
  obtain ⟨hstep, hpost⟩ := h r hr
  exact ⟨_, _, Reads.of_step hstep (Reads.nil _), List.append_nil _, hpost⟩

/-- A diff that is written from parts which keep an assertion has the chunks of all parts. -/
theorem ofDiff_written {α : Type} {rows : α → List (List Char)} {chunks : α → List Chunk}
    {items : List α} (hfeed : ∀ a ∈ items, ∀ row ∈ rows a, '\n' ∉ row)
    (h : ∀ a ∈ items, Completes pre ((rows a).map Text.closed) (chunks a) pre)
    (hstart : pre .start) :
    Chunk.ofDiff (String.ofList (Text.written (items.flatMap rows))) = items.flatMap chunks := by
  have hrows : ∀ row ∈ items.flatMap rows, '\n' ∉ row := by
    intro row hrow
    obtain ⟨a, ha, hrow⟩ := List.mem_flatMap.1 hrow
    exact hfeed a ha row hrow
  obtain ⟨cs', r', hreads, hpending, -⟩ := flatMap h .start hstart
  rw [Chunk.ofDiff, String.toList_ofList, Text.lines_written hrows, List.map_flatMap,
    hreads.chunks_eq, hpending]
  rfl

end Completes

end ReviewBot.Diff
