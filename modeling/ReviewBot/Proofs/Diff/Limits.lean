import Mathlib.Data.List.Pairwise
import ReviewBot.Diff.Limits

set_option autoImplicit false

/-!
# What the limits keep

The limits keep all chunks of the first files, as many files as are allowed, and no others
(`Limits.keep_eq_filter`). Chunks of no more files than that are all kept (`Limits.keep_eq_self`).
What is kept has the first of the different paths (`Limits.distinctPaths_keep`), so limits that are
applied one after the other are the smaller of them (`Limits.keep_keeps_first_files`). Neither the
number of different files nor the size of a diff depends on the order of its parts
(`distinctPaths_perm`, `Limits.isExceededBy_join_eq_of_perm`).
-/

namespace ReviewBot

/-! ## Different paths -/

theorem mem_newPaths {seen : List String} {chunks : List Chunk} {path : String} :
    path ∈ newPaths seen chunks ↔ path ∉ seen ∧ ∃ c ∈ chunks, c.filePath = path := by
  induction chunks generalizing seen with
  | nil => simp [newPaths]
  | cons c rest ih =>
    rw [newPaths]
    split
    · rename_i hseen
      rw [ih]
      constructor
      · rintro ⟨hnew, c', hc', e⟩
        exact ⟨hnew, c', List.mem_cons_of_mem c hc', e⟩
      · rintro ⟨hnew, c', hc', rfl⟩
        rcases List.mem_cons.1 hc' with rfl | hc'
        · exact absurd hseen hnew
        · exact ⟨hnew, c', hc', rfl⟩
    · rename_i hseen
      rw [List.mem_cons, ih, List.mem_cons, not_or]
      constructor
      · rintro (rfl | ⟨⟨-, hnew⟩, c', hc', e⟩)
        · exact ⟨hseen, c, List.mem_cons_self, rfl⟩
        · exact ⟨hnew, c', List.mem_cons_of_mem c hc', e⟩
      · rintro ⟨hnew, c', hc', rfl⟩
        by_cases hsame : c'.filePath = c.filePath
        · exact Or.inl hsame
        · rcases List.mem_cons.1 hc' with rfl | hc'
          · exact absurd rfl hsame
          · exact Or.inr ⟨⟨hsame, hnew⟩, c', hc', rfl⟩

theorem nodup_newPaths (seen : List String) (chunks : List Chunk) :
    (newPaths seen chunks).Nodup := by
  induction chunks generalizing seen with
  | nil => exact List.nodup_nil
  | cons c rest ih =>
    rw [newPaths]
    split
    · exact ih seen
    · refine List.nodup_cons.2 ⟨?_, ih _⟩
      intro hmem
      exact (mem_newPaths.1 hmem).1 List.mem_cons_self

theorem newPaths_eq_eraseDups (seen : List String) (chunks : List Chunk) :
    newPaths seen chunks = ((chunks.map (·.filePath)).filter (· ∉ seen)).eraseDups := by
  induction chunks generalizing seen with
  | nil => rfl
  | cons c rest ih =>
    rw [newPaths, List.map_cons]
    by_cases hseen : c.filePath ∈ seen
    · rw [if_pos hseen, ih, List.filter_cons_of_neg (by simpa using hseen)]
    · rw [if_neg hseen, ih, List.filter_cons_of_pos (by simpa using hseen), List.eraseDups_cons,
        List.filter_filter]
      -- A path is new beside the head if it is new and not the path of the head.
      congr 2
      refine List.filter_congr fun path _ => ?_
      rw [Bool.eq_iff_iff]
      simp

/-- The different paths are the paths of the chunks without the later of equal ones. -/
theorem distinctPaths_eq_eraseDups (chunks : List Chunk) :
    distinctPaths chunks = (chunks.map (·.filePath)).eraseDups := by
  rw [distinctPaths, newPaths_eq_eraseDups]
  congr 1
  exact List.filter_eq_self.2 fun path _ => by simp

/-- The different paths of reordered chunks are the same, perhaps in another order. -/
theorem distinctPaths_perm {chunks chunks' : List Chunk} (h : chunks.Perm chunks') :
    (distinctPaths chunks).Perm (distinctPaths chunks') := by
  refine (List.perm_ext_iff_of_nodup (nodup_newPaths [] chunks) (nodup_newPaths [] chunks')).2 ?_
  intro path
  simp only [mem_newPaths, h.mem_iff]

namespace Limits

variable {l : Limits}

theorem keepBeside_eq_filter (seen : List String) (chunks : List Chunk) :
    l.keepBeside seen chunks = chunks.filter fun c =>
      c.filePath ∈ seen ∨
        c.filePath ∈ (newPaths seen chunks).take (l.maxFiles - seen.length) := by
  induction chunks generalizing seen with
  | nil => rfl
  | cons c rest ih =>
    rw [keepBeside, newPaths]
    by_cases hseen : c.filePath ∈ seen
    · rw [if_pos hseen, if_pos hseen, List.filter_cons_of_pos (by simp [hseen]), ih]
    · rw [if_neg hseen, if_neg hseen]
      by_cases hroom : seen.length < l.maxFiles
      · -- The path of the head takes one of the free places and is known from then on.
        obtain ⟨room, hfree⟩ : ∃ room, l.maxFiles - seen.length = room + 1 :=
          ⟨l.maxFiles - seen.length - 1, by omega⟩
        have hlater : l.maxFiles - (c.filePath :: seen).length = room := by
          rw [List.length_cons]
          omega
        rw [if_pos hroom, hfree, List.take_succ_cons, List.filter_cons_of_pos (by simp), ih, hlater]
        congr 1
        refine List.filter_congr fun d _ => ?_
        rw [decide_eq_decide, List.mem_cons, List.mem_cons, or_assoc, or_left_comm]
      · have hfull : l.maxFiles - seen.length = 0 := by omega
        rw [if_neg hroom, hfull, List.take_zero,
          List.filter_cons_of_neg (by simp [hseen]), ih, hfull]
        simp

/-- The limits keep the chunks of the first files. -/
theorem keep_eq_filter (chunks : List Chunk) :
    l.keep chunks =
      chunks.filter fun c => c.filePath ∈ (distinctPaths chunks).take l.maxFiles := by
  rw [keep, keepBeside_eq_filter]
  refine List.filter_congr fun c _ => ?_
  rw [decide_eq_decide]
  simp [distinctPaths]

/-- The limits keep all chunks of files that find room. -/
theorem keep_eq_self {chunks : List Chunk} (h : (distinctPaths chunks).length ≤ l.maxFiles) :
    l.keep chunks = chunks := by
  rw [keep_eq_filter, List.take_of_length_le h, List.filter_eq_self]
  intro c hc
  rw [decide_eq_true_eq]
  exact mem_newPaths.2 ⟨List.not_mem_nil, c, hc, rfl⟩

theorem newPaths_keepBeside (seen : List String) (chunks : List Chunk) :
    newPaths seen (l.keepBeside seen chunks) =
      (newPaths seen chunks).take (l.maxFiles - seen.length) := by
  induction chunks generalizing seen with
  | nil => rw [keepBeside, newPaths, List.take_nil]
  | cons c rest ih =>
    rw [keepBeside, newPaths]
    by_cases hseen : c.filePath ∈ seen
    · rw [if_pos hseen, if_pos hseen, newPaths, if_pos hseen, ih]
    · rw [if_neg hseen, if_neg hseen]
      by_cases hroom : seen.length < l.maxFiles
      · obtain ⟨room, hfree⟩ : ∃ room, l.maxFiles - seen.length = room + 1 :=
          ⟨l.maxFiles - seen.length - 1, by omega⟩
        have hlater : l.maxFiles - (c.filePath :: seen).length = room := by
          rw [List.length_cons]
          omega
        rw [if_pos hroom, newPaths, if_neg hseen, ih, hfree, hlater, List.take_succ_cons]
      · have hfull : l.maxFiles - seen.length = 0 := by omega
        rw [if_neg hroom, ih, hfull, List.take_zero, List.take_zero]

/-- The different paths of what is kept are the first of all. -/
theorem distinctPaths_keep (chunks : List Chunk) :
    distinctPaths (l.keep chunks) = (distinctPaths chunks).take l.maxFiles :=
  newPaths_keepBeside [] chunks

theorem length_distinctPaths_keep (chunks : List Chunk) :
    (distinctPaths (l.keep chunks)).length = min l.maxFiles (distinctPaths chunks).length := by
  rw [distinctPaths_keep, List.length_take]

/-- Of two limits that are applied one after the other the smaller one counts. -/
theorem keep_keep (l l' : Limits) (chunks : List Chunk) :
    l'.keep (l.keep chunks) =
      { l with maxFiles := min l'.maxFiles l.maxFiles }.keep chunks := by
  rw [keep_eq_filter, distinctPaths_keep, List.take_take, keep_eq_filter, List.filter_filter,
    keep_eq_filter]
  refine List.filter_congr fun c _ => ?_
  rw [Bool.eq_iff_iff, Bool.and_eq_true, decide_eq_true_eq, decide_eq_true_eq]
  constructor
  · exact fun h => h.1
  · intro h
    have hle : min l'.maxFiles l.maxFiles ≤ l.maxFiles := Nat.min_le_right _ _
    exact ⟨h, (List.take_sublist_take_left hle).subset h⟩

/-- Kept are exactly the chunks of the first files, in order and each as often as it occurs, where
files are counted by the first occurrence of their paths. So as many files are kept as there are, up
to the limit, and limits that are applied one after the other are the smaller of them. -/
theorem keep_keeps_first_files (l : Limits) (chunks : List Chunk) :
    let paths := (chunks.map (·.filePath)).eraseDups
    l.keep chunks = chunks.filter (fun c => c.filePath ∈ paths.take l.maxFiles) ∧
      distinctPaths chunks = paths ∧
      (distinctPaths (l.keep chunks)).length = min l.maxFiles (distinctPaths chunks).length ∧
      ∀ l' : Limits, l'.keep (l.keep chunks) =
        { l with maxFiles := min l'.maxFiles l.maxFiles }.keep chunks := by
  intro paths
  have hpaths : distinctPaths chunks = paths := distinctPaths_eq_eraseDups chunks
  refine ⟨?_, hpaths, length_distinctPaths_keep chunks, fun l' => keep_keep l l' chunks⟩
  rw [keep_eq_filter, hpaths]

/-- The size of a diff does not depend on the order of its parts. -/
theorem isExceededBy_join_eq_of_perm {pieces pieces' : List String} (h : pieces.Perm pieces') :
    l.isExceededBy (String.join pieces) = l.isExceededBy (String.join pieces') := by
  have hsize : ∀ ds : List String,
      (String.join ds).utf8ByteSize = (ds.map String.utf8ByteSize).sum := by
    intro ds
    induction ds with
    | nil => rfl
    | cons d rest ih =>
      rw [String.join_cons, String.utf8ByteSize_append, ih, List.map_cons, List.sum_cons]
  rw [isExceededBy, isExceededBy, hsize, hsize, (h.map String.utf8ByteSize).sum_nat]

end Limits

end ReviewBot
