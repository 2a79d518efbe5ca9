import Mathlib.Data.List.Pairwise

set_option autoImplicit false

namespace CodeReading.Sorting

variable {α : Type} {key : α → Nat} {entries : List α}

theorem keyLe_trans (key : α → Nat) (a b c : α) (ab : decide (key a ≤ key b) = true)
    (bc : decide (key b ≤ key c) = true) : decide (key a ≤ key c) = true := by
  simp only [decide_eq_true_eq] at *
  omega

theorem keyLe_total (key : α → Nat) (a b : α) :
    (decide (key a ≤ key b) || decide (key b ≤ key a)) = true := by
  simp only [Bool.or_eq_true, decide_eq_true_eq]
  omega

theorem pairwise_mergeSort_key (key : α → Nat) (entries : List α) :
    (entries.mergeSort fun a b => key a ≤ key b).Pairwise fun a b => key a ≤ key b :=
  (List.pairwise_mergeSort (keyLe_trans key) (keyLe_total key) entries).imp of_decide_eq_true

/-- Entries with one key keep their places among each other. -/
theorem filter_mergeSort_key (key : α → Nat) (entries : List α) (level : Nat) :
    (entries.mergeSort fun a b => key a ≤ key b).filter (key · = level)
      = entries.filter (key · = level) := by
  have even : (entries.filter (key · = level)).Pairwise fun a b => decide (key a ≤ key b) := by
    refine List.pairwise_of_forall_mem_list fun a mem b other => ?_
    simp only [List.mem_filter, decide_eq_true_eq] at mem other
    simp [mem.2, other.2]
  -- The entries of one key are sorted already, so the sort keeps them as they are.
  have kept := List.sublist_mergeSort (keyLe_trans key) (keyLe_total key) even List.filter_sublist
  have all := kept.filter (key · = level)
  rw [List.filter_filter] at all
  simp only [Bool.and_self] at all
  exact (all.eq_of_length ((List.mergeSort_perm _ _).filter _).length_eq.symm).symm

/-- Sorted entries are in the order of their keys and, where the keys agree, in any order that they
    were in. -/
theorem pairwise_mergeSort_stable {related : α → α → Prop} (inOrder : entries.Pairwise related) :
    (entries.mergeSort fun a b => key a ≤ key b).Pairwise fun a b =>
      key a < key b ∨ key a = key b ∧ related a b := by
  rw [List.pairwise_iff_forall_sublist]
  intro a b pair
  have sorted := List.pairwise_iff_forall_sublist.1 (pairwise_mergeSort_key key entries) pair
  rcases Nat.lt_or_eq_of_le sorted with less | same
  · exact Or.inl less
  · have level := pair.filter (key · = key b)
    rw [filter_mergeSort_key, List.filter_cons_of_pos (by simpa using same),
      List.filter_cons_of_pos (by simp), List.filter_nil] at level
    have before := level.trans List.filter_sublist
    exact Or.inr ⟨same, List.pairwise_iff_forall_sublist.1 inOrder before⟩

end CodeReading.Sorting
