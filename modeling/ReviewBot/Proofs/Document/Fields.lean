import Mathlib.Data.List.Nodup
import ReviewBot.Document.Fields

set_option autoImplicit false

/-!
# Reading records from tables

In a table each key is a text and stands once (`Document.IsTable`), so every field of a record is
given by the entry under its name or absent (`Document.slots?_of_isTable`). Keys in a row lead
through tables (`Document.under?`). A section that is absent holds the same as an empty one
(`Document.inside`).
-/

namespace ReviewBot

namespace Document

/-- The document is a table; its keys are texts, and none of them stands twice. -/
def IsTable (d : Document) : Prop :=
  ∃ entries, d = table entries ∧ (∀ e ∈ entries, e.1.isNone = false) ∧
    (entries.map (·.1)).Nodup

/-- What stands under a row of keys, of which each leads from one table into the next. -/
def under? : List String → Document → Option Document
  | [], d => some d
  | name :: path, table entries => (entries.lookup (some name)).bind (under? path)
  | _ :: _, _ => none

/-- The section under a name; one that is absent counts as an empty one. -/
def inside (name : String) (d : Document) : Document := (d.under? [name]).getD (table [])

/-- What stands under a name, if anything does, can be read. -/
def Fits {α : Type} (read? : Document → Option α) (name : String) (d : Document) : Prop :=
  ∀ v, d.under? [name] = some v → ∃ a, read? v = some a

/-- What a record finds under a name. -/
def slot (d : Document) (name : String) : Slot := (d.under? [name]).elim .absent .given

variable {α : Type} {d : Document} {name : String}

/-! ## Keys in a row -/

theorem isTable_empty : (table []).IsTable :=
  ⟨[], rfl, fun _ h => absurd h List.not_mem_nil, List.nodup_nil⟩

theorem under?_cons (name : String) (path : List String) (d : Document) :
    d.under? (name :: path) = (d.under? [name]).bind (under? path) := by
  cases d with
  | table entries =>
    rw [under?, under?, Option.bind_assoc]
    rfl
  | _ => rfl

theorem under?_inside (name next : String) (path : List String) (d : Document) :
    d.under? (name :: next :: path) = (d.inside name).under? (next :: path) := by
  rw [under?_cons, inside]
  cases d.under? [name] with
  | none => rfl
  | some v => rfl

theorem isTable_inside (h : ∀ v, d.under? [name] = some v → v.IsTable) :
    (d.inside name).IsTable := by
  rw [inside]
  cases hunder : d.under? [name] with
  | none => exact isTable_empty
  | some v => exact h v hunder

/-! ## Slots -/

theorem entriesFor_of_nodup {entries : List (WrittenText × Document)}
    (h : (entries.map (·.1)).Nodup) (name : String) :
    entriesFor name entries = (entries.lookup (some name)).toList := by
  induction entries with
  | nil => rfl
  | cons e rest ih =>
    obtain ⟨key, v⟩ := e
    obtain ⟨hnew, hrest⟩ := List.nodup_cons.1 h
    have hlater := ih hrest
    unfold entriesFor at hlater ⊢
    by_cases hkey : key = some name
    · -- The key does not stand again further on.
      have hnone : rest.lookup (some name) = none := by
        refine List.lookup_eq_none_iff.2 fun e he => ?_
        have hne : some name ≠ e.1 := by
          intro hsame
          have hmem : e.1 ∈ rest.map (·.1) := List.mem_map_of_mem he
          rw [← hsame, ← hkey] at hmem
          exact hnew hmem
        simpa using hne
      rw [List.filter_cons_of_pos (by simpa using hkey), List.map_cons, hlater, hnone, hkey,
        List.lookup_cons_self]
      rfl
    · have hne : (some name == key) = false := beq_eq_false_iff_ne.2 (Ne.symm hkey)
      rw [List.filter_cons_of_neg (by simpa using hkey), hlater, List.lookup_cons, hne]

theorem slotIn?_of_nodup {entries : List (WrittenText × Document)}
    (h : (entries.map (·.1)).Nodup) (name : String) :
    slotIn? entries name = some ((table entries).slot name) := by
  have hunder : (table entries).under? [name] = entries.lookup (some name) := by
    rw [under?]
    cases entries.lookup (some name) <;> rfl
  rw [slotIn?, entriesFor_of_nodup h, slot, hunder]
  cases entries.lookup (some name) <;> rfl

/-- A table has one slot for each field. -/
theorem slots?_of_isTable (h : d.IsTable) (surplus : Surplus) (names : List String) :
    d.slots? surplus names = some (names.map d.slot) := by
  obtain ⟨entries, rfl, htexts, hnodup⟩ := h
  have hany : entries.any (·.1.isNone) = false := List.any_eq_false.2 fun e he => by
    simp [htexts e he]
  rw [slots?, hany, if_neg Bool.false_ne_true]
  induction names with
  | nil => rfl
  | cons name names ih =>
    rw [List.mapM_cons, slotIn?_of_nodup hnodup, ih]
    rfl

theorem orElse?_slot {read? : Document → Option α} (h : d.Fits read? name) (missing : α) :
    (d.slot name).orElse? missing read? = some (((d.under? [name]).bind read?).getD missing) := by
  rw [slot]
  cases hunder : d.under? [name] with
  | none => rfl
  | some v =>
    obtain ⟨a, ha⟩ := h v hunder
    show read? v = some ((read? v).getD missing)
    rw [ha]
    rfl

theorem optional?_slot {read? : Document → Option α} (h : d.Fits read? name)
    (hnull : read? .null = none) :
    (d.slot name).optional? read? = some ((d.under? [name]).bind read?) := by
  rw [slot]
  cases hunder : d.under? [name] with
  | none => rfl
  | some v =>
    obtain ⟨a, ha⟩ := h v hunder
    cases v with
    | null =>
      rw [hnull] at ha
      exact absurd ha nofun
    | _ =>
      show (read? _).map some = some (read? _)
      rw [ha]
      rfl

/-- A section that may be missing is read as an empty one when it is. -/
theorem orElse?_section {read? : Document → Option α} {missing : α}
    (h : read? (table []) = some missing) :
    (d.slot name).orElse? missing read? = read? (d.inside name) := by
  rw [slot, inside]
  cases d.under? [name] with
  | none => exact h.symm
  | some v => rfl

/-! ## Tables that need not be well formed -/

theorem slots?_table_eq_some_iff {entries : List (WrittenText × Document)} {slot : Slot} :
    (table entries).slots? .refused [name] = some [slot] ↔
      (∀ e ∈ entries, e.1 ≠ none) ∧ slotIn? entries name = some slot := by
  have htexts : entries.any (·.1.isNone) = true ↔ ¬ ∀ e ∈ entries, e.1 ≠ none := by simp
  rw [slots?, List.mapM_cons, List.mapM_nil]
  split
  · rename_i hany
    exact ⟨fun h => absurd h nofun, fun h => absurd h.1 (htexts.1 hany)⟩
  · rename_i hany
    rw [and_iff_right (not_not.1 (mt htexts.2 hany))]
    cases slotIn? entries name <;> simp

/-- A field that must be given is read from a table that gives it just once. -/
theorem required?_slotIn?_eq_some_iff {read? : Document → Option α}
    {entries : List (WrittenText × Document)} {a : α} :
    (slotIn? entries name).bind (·.required? read?) = some a ↔
      ∃ d, entries.filter (·.1 == some name) = [(some name, d)] ∧ read? d = some a := by
  have hkey : ∀ e ∈ entries.filter (·.1 == some name), e.1 = some name :=
    fun e he => beq_iff_eq.1 (List.mem_filter.1 he).2
  rw [slotIn?, entriesFor]
  generalize entries.filter (·.1 == some name) = found at hkey ⊢
  rcases found with _ | ⟨⟨key, d⟩, _ | ⟨e, rest⟩⟩
  · simp [Slot.required?]
  · obtain rfl : key = some name := hkey (key, d) List.mem_cons_self
    simp [Slot.required?]
  · simp

theorem string?_eq_some_iff {s : String} : d.string? = some s ↔ d = text (some s) := by
  cases d <;> simp [string?]

end Document

end ReviewBot
