import ReviewBot.Diff.Hunk
import ReviewBot.Proofs.Text.Lines

set_option autoImplicit false

/-!
# Lines of hunks

What a line of a hunk says apart from its sign, how many lines of either side a list of them stands
for, and how lines are read off rows that begin with a sign.
-/

namespace ReviewBot.Diff

namespace HunkLine

/-- The line without its sign. -/
def text : HunkLine → List Char
  | added text => text
  | removed text => text
  | unchanged text => text

/-- How many lines of the file before the change the lines stand for. -/
def oldTotal : List HunkLine → Nat
  | [] => 0
  | line :: rest => line.oldCount + oldTotal rest

/-- How many lines of the file after the change the lines stand for. -/
def newTotal : List HunkLine → Nat
  | [] => 0
  | line :: rest => line.newCount + newTotal rest

theorem oldTotal_append (front back : List HunkLine) :
    oldTotal (front ++ back) = oldTotal front + oldTotal back := by
  induction front with
  | nil => exact (Nat.zero_add _).symm
  | cons line rest ih =>
    rw [List.cons_append, oldTotal, oldTotal, ih]
    omega

theorem newTotal_append (front back : List HunkLine) :
    newTotal (front ++ back) = newTotal front + newTotal back := by
  induction front with
  | nil => exact (Nat.zero_add _).symm
  | cons line rest ih =>
    rw [List.cons_append, newTotal, newTotal, ih]
    omega

/-- The text of an unchanged line. -/
def unchanged? : HunkLine → Option String
  | unchanged text => some (String.ofList text)
  | _ => none

/-- Before the change there are the removed and the unchanged lines. -/
theorem oldTotal_eq (lines : List HunkLine) :
    oldTotal lines = (lines.filterMap removed?).length + (lines.filterMap unchanged?).length := by
  induction lines with
  | nil => rfl
  | cons line rest ih =>
    rw [oldTotal, ih]
    cases line with
    | added text => exact Nat.zero_add _
    | removed text =>
      show 1 + _ = ((rest.filterMap removed?).length + 1) + (rest.filterMap unchanged?).length
      omega
    | unchanged text =>
      show 1 + _ = (rest.filterMap removed?).length + ((rest.filterMap unchanged?).length + 1)
      omega

/-- After the change there are the added and the unchanged lines. -/
theorem newTotal_eq (lines : List HunkLine) :
    newTotal lines = (lines.filterMap added?).length + (lines.filterMap unchanged?).length := by
  induction lines with
  | nil => rfl
  | cons line rest ih =>
    rw [newTotal, ih]
    cases line with
    | added text =>
      show 1 + _ = ((rest.filterMap added?).length + 1) + (rest.filterMap unchanged?).length
      omega
    | removed text => exact Nat.zero_add _
    | unchanged text =>
      show 1 + _ = (rest.filterMap added?).length + ((rest.filterMap unchanged?).length + 1)
      omega

/-- The line as it is read when a line feed closes it: a carriage return at its end belongs to the
ending. -/
def ended : HunkLine → HunkLine
  | added text => added (Text.closed text)
  | removed text => removed (Text.closed text)
  | unchanged text => unchanged (Text.closed text)

@[simp] theorem oldCount_ended (l : HunkLine) : l.ended.oldCount = l.oldCount := by
  cases l <;> rfl

@[simp] theorem newCount_ended (l : HunkLine) : l.ended.newCount = l.newCount := by
  cases l <;> rfl

theorem oldTotal_map_ended (lines : List HunkLine) :
    oldTotal (lines.map ended) = oldTotal lines := by
  induction lines with
  | nil => rfl
  | cons l lines ih => rw [List.map_cons, oldTotal, oldTotal, oldCount_ended, ih]

theorem newTotal_map_ended (lines : List HunkLine) :
    newTotal (lines.map ended) = newTotal lines := by
  induction lines with
  | nil => rfl
  | cons l lines ih => rw [List.map_cons, newTotal, newTotal, newCount_ended, ih]

theorem ended_eq_self {l : HunkLine} (h : Text.IsLine l.text) : l.ended = l := by
  have hclosed : Text.closed l.text = l.text := Text.closed_of_getLast?_ne h.no_return
  cases l with
  | added text => exact congrArg added hclosed
  | removed text => exact congrArg removed hclosed
  | unchanged text => exact congrArg unchanged hclosed

/-- The signs of lines. -/
def signs : List Char := ['+', '-', ' ']

/-- A line with its sign is the sign and the text. -/
theorem exists_signed_eq (l : HunkLine) : ∃ sign ∈ signs, l.signed = sign :: l.text := by
  cases l with
  | added text => exact ⟨'+', by decide, rfl⟩
  | removed text => exact ⟨'-', by decide, rfl⟩
  | unchanged text => exact ⟨' ', by decide, rfl⟩

/-- A carriage return at the end of a row is at the end of its text. -/
theorem closed_signed (l : HunkLine) : Text.closed l.signed = l.ended.signed := by
  cases l with
  | added text => exact Text.closed_append (show ['+'].getLast? ≠ some '\r' by decide) text
  | removed text => exact Text.closed_append (show ['-'].getLast? ≠ some '\r' by decide) text
  | unchanged text => exact Text.closed_append (show [' '].getLast? ≠ some '\r' by decide) text

theorem not_mem_signed {l : HunkLine} {c : Char} (hsign : c ∉ signs) (h : c ∉ l.text) :
    c ∉ l.signed := by
  obtain ⟨sign, hmem, e⟩ := l.exists_signed_eq
  rw [e, List.mem_cons, not_or]
  refine ⟨?_, h⟩
  rintro rfl
  exact hsign hmem

/-- A line is read only from its signed form. -/
theorem signed_of_read? {row : List Char} {l : HunkLine} (h : read? row = some l) :
    l.signed = row := by
  unfold read? at h
  split at h
  · rw [← Option.some.inj h]
    rfl
  · rw [← Option.some.inj h]
    rfl
  · rw [← Option.some.inj h]
    rfl
  · simp at h

theorem text_of_added? {l : HunkLine} {s : String} (h : l.added? = some s) :
    l.text = s.toList := by
  cases l with
  | added text =>
    rw [← Option.some.inj h, String.toList_ofList]
    rfl
  | removed text => simp [added?] at h
  | unchanged text => simp [added?] at h

theorem text_of_removed? {l : HunkLine} {s : String} (h : l.removed? = some s) :
    l.text = s.toList := by
  cases l with
  | added text => simp [removed?] at h
  | removed text =>
    rw [← Option.some.inj h, String.toList_ofList]
    rfl
  | unchanged text => simp [removed?] at h

/-- The rows with a plus sign are the added lines. -/
theorem isPrefixOf?_plus_signed (l : HunkLine) :
    (['+'].isPrefixOf? l.signed).map String.ofList = l.added? := by
  cases l <;> rfl

/-- The rows with a minus sign are the removed lines. -/
theorem isPrefixOf?_minus_signed (l : HunkLine) :
    (['-'].isPrefixOf? l.signed).map String.ofList = l.removed? := by
  cases l <;> rfl

/-- The rows with a blank are the unchanged lines. -/
theorem isPrefixOf?_blank_signed (l : HunkLine) :
    ([' '].isPrefixOf? l.signed).map String.ofList = l.unchanged? := by
  cases l <;> rfl

end HunkLine

/-- A context is the signed lines as rows of a text. -/
theorem contextOf_eq_written (lines : List HunkLine) :
    contextOf lines = Text.written (lines.map HunkLine.signed) := by
  rw [contextOf, Text.written, List.flatMap_map]

end ReviewBot.Diff
