import Mathlib.Data.List.Pairwise

set_option autoImplicit false

/-!
# What sorting leaves in order

A sort moves members past each other only if the order tells them apart. So members that are all
tied with each other come out in the order in which they went in (`filter_mergeSort`), and what
holds between each member and the later ones still holds afterwards between tied members
(`pairwise_mergeSort_of_tied`).
-/

namespace ReviewBot

variable {α : Type} {le : α → α → Bool}

/-- A class of members that are tied with each other keeps its order. -/
theorem filter_mergeSort (trans : ∀ a b c, le a b = true → le b c = true → le a c = true)
    (total : ∀ a b, (le a b || le b a) = true) {p : α → Bool}
    (tied : ∀ a b, p a = true → p b = true → le a b = true) (l : List α) :
    (l.mergeSort le).filter p = l.filter p := by
  have hsorted : (l.filter p).Pairwise fun a b => le a b = true := by
    refine List.pairwise_of_forall_mem_list ?_
    intro a ha b hb
    exact tied a b (List.mem_filter.1 ha).2 (List.mem_filter.1 hb).2
  have hkept : (l.filter p).Sublist (l.mergeSort le) :=
    List.sublist_mergeSort trans total hsorted List.filter_sublist
  have hclass : (l.filter p).Sublist ((l.mergeSort le).filter p) := by
    have h := hkept.filter p
    rwa [List.filter_filter, funext fun a => Bool.and_self (p a)] at h
  have hlength : ((l.mergeSort le).filter p).length = (l.filter p).length :=
    ((List.mergeSort_perm l le).filter p).length_eq
  exact (hclass.eq_of_length hlength.symm).symm

/-- Between tied members sorting keeps what holds between each member and the later ones. -/
theorem pairwise_mergeSort_of_tied
    (trans : ∀ a b c, le a b = true → le b c = true → le a c = true)
    (total : ∀ a b, (le a b || le b a) = true) {R : α → α → Prop} {l : List α}
    (h : l.Pairwise R) : (l.mergeSort le).Pairwise fun a b => le b a = true → R a b := by
  rw [List.pairwise_iff_forall_sublist]
  intro a b hab hba
  have hle : le a b = true :=
    List.pairwise_iff_forall_sublist.1 (List.pairwise_mergeSort trans total l) hab
  -- The class of all members that are tied with `a`, of which `b` is one.
  let p : α → Bool := fun c => le a c && le c a
  have hclass : ∀ c d, p c = true → p d = true → le c d = true := by
    intro c d hc hd
    exact trans c a d (Bool.and_eq_true_iff.1 hc).2 (Bool.and_eq_true_iff.1 hd).1
  have ha : p a = true := by
    have haa : le a a = true := trans a b a hle hba
    exact Bool.and_eq_true_iff.2 ⟨haa, haa⟩
  have hb : p b = true := Bool.and_eq_true_iff.2 ⟨hle, hba⟩
  have hsub := hab.filter p
  rw [List.filter_cons_of_pos ha, List.filter_cons_of_pos hb, List.filter_nil,
    filter_mergeSort trans total hclass] at hsub
  exact List.pairwise_iff_forall_sublist.1 h (hsub.trans List.filter_sublist)

end ReviewBot
