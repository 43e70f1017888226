import ReviewBot.Proofs.Report.Tally

set_option autoImplicit false

/-!
# The sections of a comment

A comment is written row by row (`Markdown.rows`), and as long as no text of a finding holds a line
feed, its lines are these rows (`Markdown.linesOf_render`). A line begins as headings of sections do
if it is the heading of a finding, or a message that begins so itself, since messages are written as
they are (`Markdown.filter_linesOf_render`). So the headings stand alone exactly if there is no such
message (`Markdown.flatMap_openingLines_eq_iff`).
-/

namespace ReviewBot

/-- No text of the finding holds a line feed. -/
structure Finding.IsSingleLine (f : Finding) : Prop where
  filePath : '\n' ∉ f.filePath.toList
  category : '\n' ∉ f.category.toList
  message : '\n' ∉ f.message.toList
  suggestion : ∀ text, f.suggestion = some text → '\n' ∉ text.toList

theorem Binary64.feed_not_mem_wholeText (x : Binary64) : '\n' ∉ x.wholeText.toList := by
  have hsign : '\n' ∉ (if x.negative then "-" else "").toList := by
    split
    · decide
    · decide
  rw [wholeText]
  by_cases hnan : x.isNaN = true
  · rw [if_pos hnan]
    decide
  · rw [if_neg hnan]
    dsimp only
    split
    · rw [String.toList_append, List.mem_append, not_or]
      exact ⟨hsign, by simp [Numeric.not_mem_toDigits]⟩
    · rw [String.toList_append, List.mem_append, not_or]
      exact ⟨hsign, by decide⟩

namespace Markdown

/-! ## Rows -/

/-- The last line of the section of a finding. -/
def sourceLine (f : Finding) : String :=
  "_Source: " ++ sourceText f.source ++ " · confidence " ++ f.confidence.percentText ++ "%_"

/-- The rows of the section of the finding number `i`. -/
def sectionRows (i : Nat) (f : Finding) : List String :=
  [heading i f, "", f.message, ""] ++
    (f.suggestion.toList.flatMap fun text => ["> **Suggestion:** " ++ text, ""]) ++
    [sourceLine f, ""]

/-- The rows of a comment on some findings. -/
def rows (findings : List Finding) : List String :=
  ["## Code Review Analysis", "", tally findings, ""] ++
    (findings.zipIdx 1).flatMap (fun x => sectionRows x.2 x.1) ++ [marker]

theorem toList_finding (i : Nat) (f : Finding) :
    (finding i f).toList = Text.written ((sectionRows i f).map String.toList) := by
  rw [finding, sectionRows, sourceLine, Text.written]
  cases f.suggestion with
  | none => simp
  | some text => simp

theorem toList_sections (i : Nat) (findings : List Finding) :
    (sections i findings).toList =
      Text.written (((findings.zipIdx i).flatMap fun x => sectionRows x.2 x.1).map
        String.toList) := by
  induction findings generalizing i with
  | nil => rfl
  | cons f rest ih =>
    rw [sections, String.toList_append, toList_finding, ih, List.zipIdx_cons, List.flatMap_cons,
      List.map_append, Text.written, Text.written, Text.written, List.flatMap_append]

/-- A comment on some findings is written row by row. -/
theorem toList_render {findings : List Finding} (hne : findings ≠ []) :
    (render findings).toList = Text.written ((rows findings).map String.toList) := by
  have hempty : findings.isEmpty = false := by simpa using hne
  unfold render rows Text.written
  rw [hempty]
  simp only [Bool.false_eq_true, if_false, String.toList_append, toList_sections, Text.written,
    List.map_append, List.map_cons, List.map_nil, List.flatMap_append, List.flatMap_cons,
    List.flatMap_nil]
  simp

/-! ## Lines -/

/-- The lines of a text; there is always a last one, which is empty after a line feed. -/
def linesOf (text : String) : List String := (Text.pieces '\n' text.toList).map String.ofList

/-- The line begins as headings of sections do. -/
def opensSection (line : String) : Bool := "### ".toList.isPrefixOf line.toList

/-- The lines that the section of the finding number `i` has and that begin as headings do. -/
def openingLines (i : Nat) (f : Finding) : List String :=
  heading i f :: if opensSection f.message then [f.message] else []

/-- The number in a line that begins as headings do. -/
def headingNumber? (line : String) : Option Nat :=
  ("### ".toList.isPrefixOf? line.toList).bind fun rest =>
    (Text.splitChar? '.' rest).map fun parts => Numeric.ofDigits parts.1

theorem opensSection_heading (i : Nat) (f : Finding) : opensSection (heading i f) = true := by
  apply List.isPrefixOf_iff_prefix.2
  simp only [heading, String.toList_append, List.append_assoc]
  exact List.prefix_append _ _

/-- The number of a section can be read from its heading. -/
theorem headingNumber?_heading (i : Nat) (f : Finding) :
    headingNumber? (heading i f) = some i := by
  have hheading : (heading i f).toList = "### ".toList ++ (Nat.toDigits 10 i ++ '.' ::
      (" [" ++ f.severity.label ++ "] \x60" ++ f.filePath ++ ":" ++ toString f.lineNumber ++
        "\x60 · " ++ f.category).toList) := by
    simp [heading]
  have hdigits : '.' ∉ Nat.toDigits 10 i := Numeric.not_mem_toDigits (by decide) i
  rw [headingNumber?, hheading, Text.isPrefixOf?_append, Option.bind_some,
    Text.splitChar?_append hdigits, Option.map_some, Numeric.ofDigits_toDigits]

theorem opensSection_tally (findings : List Finding) :
    opensSection (tally findings) = false := by
  simp only [opensSection, tally, String.toList_append, List.append_assoc]
  rfl

theorem opensSection_sourceLine (f : Finding) : opensSection (sourceLine f) = false := by
  simp only [opensSection, sourceLine, String.toList_append, List.append_assoc]
  rfl

theorem opensSection_suggestion (text : String) :
    opensSection ("> **Suggestion:** " ++ text) = false := by
  rw [opensSection, String.toList_append]
  rfl

theorem opensSection_empty : opensSection "" = false := rfl

/-- Beside the heading only the message of a finding can begin as headings do. -/
theorem filter_sectionRows (i : Nat) (f : Finding) :
    (sectionRows i f).filter opensSection = openingLines i f := by
  -- A suggestion and the source stand behind fixed texts, and a message behind none.
  have hfront : [heading i f, "", f.message, ""].filter opensSection = openingLines i f := by
    rw [openingLines]
    simp [List.filter_cons, opensSection_heading, opensSection_empty]
  have hsuggestion : (f.suggestion.toList.flatMap fun text =>
      ["> **Suggestion:** " ++ text, ""]).filter opensSection = [] := by
    cases f.suggestion with
    | none => rfl
    | some text => simp [opensSection_suggestion, opensSection_empty]
  have hsource : [sourceLine f, ""].filter opensSection = [] := by
    simp [opensSection_sourceLine, opensSection_empty]
  rw [sectionRows, List.filter_append, List.filter_append, hfront, hsuggestion, hsource,
    List.append_nil, List.append_nil]

theorem filter_rows (findings : List Finding) :
    (rows findings).filter opensSection =
      (findings.zipIdx 1).flatMap fun x => openingLines x.2 x.1 := by
  have hfront : ["## Code Review Analysis", "", tally findings, ""].filter opensSection = [] := by
    have htitle : opensSection "## Code Review Analysis" = false := rfl
    simp [htitle, opensSection_empty, opensSection_tally]
  have hmarker : [marker].filter opensSection = [] := rfl
  rw [rows, List.filter_append, List.filter_append, hfront, hmarker, List.append_nil,
    List.nil_append, List.filter_flatMap]
  exact List.flatMap_congr fun x _ => filter_sectionRows x.2 x.1

theorem feed_not_mem_heading {f : Finding} (hf : f.IsSingleLine) (i : Nat) :
    '\n' ∉ (heading i f).toList := by
  have hlabel : '\n' ∉ f.severity.label.toList := by
    cases f.severity <;> decide
  simp [heading, hlabel, hf.filePath, hf.category, Numeric.not_mem_toDigits]

theorem feed_not_mem_sourceLine (f : Finding) : '\n' ∉ (sourceLine f).toList := by
  have hsource : '\n' ∉ (sourceText f.source).toList := by
    cases f.source <;> decide
  have hpercent : '\n' ∉ f.confidence.percentText.toList := Binary64.feed_not_mem_wholeText _
  simp [sourceLine, hsource, hpercent]

theorem feed_not_mem_sectionRows {f : Finding} (hf : f.IsSingleLine) (i : Nat) :
    ∀ row ∈ sectionRows i f, '\n' ∉ row.toList := by
  have hsuggestion : ∀ text, f.suggestion = some text →
      '\n' ∉ ("> **Suggestion:** " ++ text).toList := by
    intro text htext
    simp [hf.suggestion text htext]
  intro row hrow
  simp only [sectionRows, List.mem_append, List.mem_cons, List.not_mem_nil, or_false,
    List.mem_flatMap, Option.mem_toList] at hrow
  rcases hrow with ((rfl | rfl | rfl | rfl) | ⟨text, htext, rfl | rfl⟩) | rfl | rfl
  · exact feed_not_mem_heading hf i
  · decide
  · exact hf.message
  · decide
  · exact hsuggestion text htext
  · decide
  · exact feed_not_mem_sourceLine f
  · decide

theorem feed_not_mem_rows {findings : List Finding} (h : ∀ f ∈ findings, f.IsSingleLine) :
    ∀ row ∈ rows findings, '\n' ∉ row.toList := by
  intro row hrow
  simp only [rows, List.mem_append, List.mem_cons, List.not_mem_nil, or_false,
    List.mem_flatMap] at hrow
  rcases hrow with ((rfl | rfl | rfl | rfl) | ⟨x, hx, hrow⟩) | rfl
  · decide
  · decide
  · exact feed_not_mem_tally findings
  · decide
  · exact feed_not_mem_sectionRows (h x.1 (List.fst_mem_of_mem_zipIdx hx)) x.2 row hrow
  · decide

/-- The lines of a comment on some findings are its rows. -/
theorem linesOf_render {findings : List Finding} (hne : findings ≠ [])
    (h : ∀ f ∈ findings, f.IsSingleLine) : linesOf (render findings) = rows findings ++ [""] := by
  have hrows : ∀ row ∈ (rows findings).map String.toList, '\n' ∉ row := by
    intro row hrow
    obtain ⟨text, htext, rfl⟩ := List.mem_map.1 hrow
    exact feed_not_mem_rows h text htext
  rw [linesOf, toList_render hne, Text.pieces_written hrows, List.map_append, List.map_map]
  simp [Function.comp_def]

/-- The lines that begin as headings do are the headings, each followed by the message below it if
that begins so too. -/
theorem filter_linesOf_render {findings : List Finding} (hne : findings ≠ [])
    (h : ∀ f ∈ findings, f.IsSingleLine) :
    (linesOf (render findings)).filter opensSection =
      (findings.zipIdx 1).flatMap fun x => openingLines x.2 x.1 := by
  have hlast : [""].filter opensSection = [] := rfl
  rw [linesOf_render hne h, List.filter_append, filter_rows, hlast, List.append_nil]

theorem length_flatMap_openingLines (i : Nat) (findings : List Finding) :
    ((findings.zipIdx i).flatMap fun x => openingLines x.2 x.1).length =
      findings.length + findings.countP (opensSection ·.message) := by
  induction findings generalizing i with
  | nil => rfl
  | cons f rest ih =>
    rw [List.zipIdx_cons, List.flatMap_cons, List.length_append, ih, List.length_cons,
      List.countP_cons]
    cases hopens : opensSection f.message with
    | false =>
      simp [openingLines, hopens]
      omega
    | true =>
      simp [openingLines, hopens]
      omega

/-- They are the headings alone exactly if no message begins so. -/
theorem flatMap_openingLines_eq_iff {i : Nat} {findings : List Finding} :
    ((findings.zipIdx i).flatMap fun x => openingLines x.2 x.1) =
        (findings.zipIdx i).map (fun x => heading x.2 x.1) ↔
      ∀ f ∈ findings, opensSection f.message = false := by
  constructor
  · intro heq f hf
    have hlength := length_flatMap_openingLines i findings
    rw [heq, List.length_map, List.length_zipIdx] at hlength
    have hzero : findings.countP (opensSection ·.message) = 0 := by omega
    exact Bool.eq_false_iff.2 (List.countP_eq_zero.1 hzero f hf)
  · intro hplain
    rw [← List.flatMap_pure_eq_map]
    refine List.flatMap_congr fun x hx => ?_
    rw [openingLines, hplain x.1 (List.fst_mem_of_mem_zipIdx hx)]
    rfl

end Markdown

end ReviewBot
