import ReviewBot.Text.Lines

set_option autoImplicit false

/-!
# Reading written lines

A row of characters without a line feed, closed by a line feed, is read as one line, less a carriage
return at its end (`closed`). A text that is written line by line is read as these lines
(`lines_written`). Two texts are read apart from each other when the first one ends with a line feed
(`lines_append`). Division at the line feeds gives written rows back as they are (`pieces_written`),
and division at another separator gives back what it stands between (`pieces_intercalate`).
-/

namespace ReviewBot.Text

/-- The line that is read when a line feed closes `l`. -/
def closed (l : List Char) : List Char := closeLine l.reverse

/-- The text of rows that are closed by a line feed each. -/
def written (rows : List (List Char)) : List Char := rows.flatMap fun row => row ++ ['\n']

/-- The row holds no line feed, and no carriage return that would count as part of its ending. -/
structure IsLine (l : List Char) : Prop where
  no_feed : '\n' ∉ l
  no_return : l.getLast? ≠ some '\r'

theorem closeLine_of_head?_ne {current : List Char} (h : current.head? ≠ some '\r') :
    closeLine current = current.reverse := by
  unfold closeLine
  split
  · simp at h
  · rfl

theorem closed_of_getLast?_ne {l : List Char} (h : l.getLast? ≠ some '\r') : closed l = l := by
  have hr : l.reverse.head? ≠ some '\r' := by simpa using h
  simp [closed, closeLine_of_head?_ne hr]

theorem closed_of_not_mem {l : List Char} (h : '\r' ∉ l) : closed l = l :=
  closed_of_getLast?_ne fun hlast => h (List.mem_of_getLast? hlast)

/-- A row that is written before a row without a carriage return at its end stays as it is. -/
theorem closed_append {front : List Char} (h : front.getLast? ≠ some '\r') (back : List Char) :
    closed (front ++ back) = front ++ closed back := by
  cases hb : back.reverse with
  | nil =>
    have hnil : back = [] := by simpa using hb
    subst hnil
    simpa [closed, closeLine] using closed_of_getLast?_ne h
  | cons c rest =>
    have hback : back = rest.reverse ++ [c] := by simpa using congrArg List.reverse hb
    subst hback
    by_cases hc : c = '\r'
    · subst hc
      simp [closed, closeLine]
    · have h1 : ((rest.reverse ++ [c])).getLast? ≠ some '\r' := by simpa using hc
      have h2 : (front ++ (rest.reverse ++ [c])).getLast? ≠ some '\r' := by simpa using hc
      rw [closed_of_getLast?_ne h1, closed_of_getLast?_ne h2]

theorem closed_prefix (l : List Char) : closed l <+: l := by
  by_cases h : l.getLast? = some '\r'
  · obtain ⟨front, rfl⟩ := List.getLast?_eq_some_iff.1 h
    exact ⟨['\r'], by simp [closed, closeLine]⟩
  · exact ⟨[], by rw [List.append_nil, closed_of_getLast?_ne h]⟩

theorem linesFrom_append {l : List Char} (h : '\n' ∉ l) (current rest : List Char) :
    linesFrom current (l ++ rest) = linesFrom (l.reverse ++ current) rest := by
  induction l generalizing current with
  | nil => rfl
  | cons c l ih =>
    simp only [List.mem_cons, not_or] at h
    obtain ⟨hc, hl⟩ := h
    rw [List.cons_append, linesFrom, if_neg (Ne.symm hc), ih hl]
    simp

/-- The first line of a text ends at the first line feed. -/
theorem lines_row_append {l : List Char} (h : '\n' ∉ l) (rest : List Char) :
    lines (l ++ '\n' :: rest) = closed l :: lines rest := by
  unfold lines
  rw [linesFrom_append h]
  simp [linesFrom, closed]

/-- Rows that are written one after the other are read as the lines that they make. -/
theorem lines_written {rows : List (List Char)} (h : ∀ row ∈ rows, '\n' ∉ row) :
    lines (written rows) = rows.map closed := by
  induction rows with
  | nil => rfl
  | cons row rows ih =>
    have hrow : '\n' ∉ row := h row List.mem_cons_self
    have hrows : ∀ r ∈ rows, '\n' ∉ r := fun r hr => h r (List.mem_cons_of_mem _ hr)
    have e : written (row :: rows) = row ++ '\n' :: written rows := by simp [written]
    rw [e, lines_row_append hrow, ih hrows, List.map_cons]

theorem linesFrom_append_feed (current s rest : List Char) :
    linesFrom current (s ++ '\n' :: rest) = linesFrom current (s ++ ['\n']) ++ lines rest := by
  induction s generalizing current with
  | nil => simp [linesFrom, lines]
  | cons c s ih =>
    rw [List.cons_append, List.cons_append, linesFrom, linesFrom]
    by_cases hc : c = '\n'
    · rw [if_pos hc, if_pos hc, ih, List.cons_append]
    · rw [if_neg hc, if_neg hc, ih]

/-- A text that is empty or ends with a line feed is read apart from what follows it. -/
theorem lines_append {s : List Char} (h : s = [] ∨ ['\n'] <:+ s) (rest : List Char) :
    lines (s ++ rest) = lines s ++ lines rest := by
  rcases h with rfl | ⟨front, rfl⟩
  · rfl
  · rw [List.append_assoc]
    exact linesFrom_append_feed [] front rest

/-- Texts that are empty or end with a line feed are read one by one. -/
theorem lines_flatten {texts : List (List Char)} (h : ∀ s ∈ texts, s = [] ∨ ['\n'] <:+ s) :
    lines texts.flatten = texts.flatMap lines := by
  induction texts with
  | nil => rfl
  | cons s rest ih =>
    rw [List.flatten_cons, lines_append (h s List.mem_cons_self),
      ih fun t ht => h t (List.mem_cons_of_mem s ht), List.flatMap_cons]

/-- What a text begins with begins its first line, unless a line ends within it. -/
theorem exists_lines_append {front : List Char} (hne : front ≠ []) (hfeed : '\n' ∉ front)
    (hreturn : front.getLast? ≠ some '\r') (back : List Char) :
    ∃ tail rows, lines (front ++ back) = (front ++ tail) :: rows := by
  by_cases h : '\n' ∈ back
  · obtain ⟨l, rest, rfl, hl⟩ := List.eq_append_cons_of_mem h
    have hrow : '\n' ∉ front ++ l := by simp [hfeed, hl]
    refine ⟨closed l, lines rest, ?_⟩
    rw [← List.append_assoc, lines_row_append hrow, closed_append hreturn]
  · have hrow : '\n' ∉ front ++ back := by simp [hfeed, h]
    refine ⟨back, [], ?_⟩
    have hread := linesFrom_append hrow [] []
    rw [List.append_nil, List.append_nil] at hread
    rw [lines, hread, linesFrom]
    simp [hne]

/-! ## No line feed inside a line -/

theorem not_mem_closeLine {c : Char} {current : List Char} (h : c ∉ current) :
    c ∉ closeLine current := by
  unfold closeLine
  split
  · rw [List.mem_reverse]
    exact fun hc => h (List.mem_cons_of_mem _ hc)
  · rwa [List.mem_reverse]

theorem not_mem_linesFrom (current s : List Char) (h : '\n' ∉ current) :
    ∀ line ∈ linesFrom current s, '\n' ∉ line := by
  induction s generalizing current with
  | nil =>
    intro line hline
    rw [linesFrom] at hline
    split at hline
    · exact absurd hline List.not_mem_nil
    · rw [List.mem_singleton.1 hline, List.mem_reverse]
      exact h
  | cons c s ih =>
    intro line hline
    rw [linesFrom] at hline
    split at hline
    · rcases List.mem_cons.1 hline with rfl | hline
      · exact not_mem_closeLine h
      · exact ih [] List.not_mem_nil line hline
    · rename_i hc
      refine ih (c :: current) ?_ line hline
      rw [List.mem_cons, not_or]
      exact ⟨Ne.symm hc, h⟩

/-- No line holds a line feed. -/
theorem not_mem_of_mem_lines {s line : List Char} (h : line ∈ lines s) : '\n' ∉ line :=
  not_mem_linesFrom [] s List.not_mem_nil line h

/-! ## Division at the line feeds -/

theorem pieces_append_cons {sep : Char} {row : List Char} (h : sep ∉ row) (rest : List Char) :
    pieces sep (row ++ sep :: rest) = row :: pieces sep rest := by
  induction row with
  | nil => simp [pieces]
  | cons c row ih =>
    simp only [List.mem_cons, not_or] at h
    obtain ⟨hc, hrow⟩ := h
    rw [List.cons_append, pieces, if_neg (Ne.symm hc), ih hrow]

theorem pieces_eq_singleton {sep : Char} {row : List Char} (h : sep ∉ row) :
    pieces sep row = [row] := by
  induction row with
  | nil => rfl
  | cons c row ih =>
    simp only [List.mem_cons, not_or] at h
    obtain ⟨hc, hrow⟩ := h
    rw [pieces, if_neg (Ne.symm hc), ih hrow]

/-- No piece holds the separator. -/
theorem not_mem_of_mem_pieces {sep : Char} {s piece : List Char} (h : piece ∈ pieces sep s) :
    sep ∉ piece := by
  induction s generalizing piece with
  | nil =>
    rw [List.mem_singleton.1 h]
    exact List.not_mem_nil
  | cons c s ih =>
    rw [pieces] at h
    split at h
    · rcases List.mem_cons.1 h with rfl | h
      · exact List.not_mem_nil
      · exact ih h
    · rename_i hc
      split at h
      · rename_i first others hpieces
        rw [hpieces] at ih
        rcases List.mem_cons.1 h with rfl | h
        · rw [List.mem_cons, not_or]
          exact ⟨Ne.symm hc, ih List.mem_cons_self⟩
        · exact ih (List.mem_cons_of_mem _ h)
      · rw [List.mem_singleton.1 h, List.mem_singleton]
        exact Ne.symm hc

/-- Division at the line feeds gives back rows that are written one after the other; nothing follows
the last line feed. -/
theorem pieces_written {rows : List (List Char)} (h : ∀ row ∈ rows, '\n' ∉ row) :
    pieces '\n' (written rows) = rows ++ [[]] := by
  induction rows with
  | nil => rfl
  | cons row rows ih =>
    have hrow : '\n' ∉ row := h row List.mem_cons_self
    have hrows : ∀ r ∈ rows, '\n' ∉ r := fun r hr => h r (List.mem_cons_of_mem _ hr)
    have e : written (row :: rows) = row ++ '\n' :: written rows := by simp [written]
    rw [e, pieces_append_cons hrow, ih hrows, List.cons_append]

theorem not_mem_intercalate {c : Char} {sep : List Char} (hsep : c ∉ sep)
    {rows : List (List Char)} (h : ∀ row ∈ rows, c ∉ row) : c ∉ sep.intercalate rows := by
  induction rows with
  | nil => exact List.not_mem_nil
  | cons row rows ih =>
    have hrow : c ∉ row := h row List.mem_cons_self
    have hrows : ∀ r ∈ rows, c ∉ r := fun r hr => h r (List.mem_cons_of_mem _ hr)
    cases rows with
    | nil => rwa [List.intercalate_singleton]
    | cons next rows =>
      rw [List.intercalate_cons_cons]
      simp [hsep, hrow, ih hrows]

/-- Division at a separator that stands between rows gives the rows back, each after the gap that
follows the separator. -/
theorem pieces_intercalate {sep : Char} {gap : List Char} (hgap : sep ∉ gap)
    {rows : List (List Char)} (hne : rows ≠ []) (h : ∀ row ∈ rows, sep ∉ row) :
    pieces sep (gap ++ (sep :: gap).intercalate rows) = rows.map (gap ++ ·) := by
  induction rows with
  | nil => exact absurd rfl hne
  | cons row rows ih =>
    have hrow : sep ∉ gap ++ row := by simp [hgap, h row List.mem_cons_self]
    have hrows : ∀ r ∈ rows, sep ∉ r := fun r hr => h r (List.mem_cons_of_mem _ hr)
    cases rows with
    | nil => rw [List.intercalate_singleton, pieces_eq_singleton hrow, List.map_singleton]
    | cons next rows =>
      have hsplit : gap ++ (sep :: gap).intercalate (row :: next :: rows) =
          (gap ++ row) ++ sep :: (gap ++ (sep :: gap).intercalate (next :: rows)) := by
        rw [List.intercalate_cons_cons]
        simp
      rw [hsplit, pieces_append_cons hrow, ih (List.cons_ne_nil _ _) hrows]
      rfl

end ReviewBot.Text
