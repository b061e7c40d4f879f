import Mathlib.Data.List.Sort

/-!
# Sorting by a key

`sortBy key l` lists the items of `l` with ascending keys, items of one key in the order of `l`.
When the key tells the items apart the result depends on the items alone (`sortBy_eq_of_perm`).
-/

namespace Homelab.Lib

variable {α κ : Type} [LinearOrder κ] (key : α → κ)

def sortBy (l : List α) : List α := l.mergeSort fun a b => key a ≤ key b

lemma sortBy_perm (l : List α) : (sortBy key l).Perm l := List.mergeSort_perm _ _

lemma pairwise_sortBy (l : List α) : (sortBy key l).Pairwise fun a b => key a ≤ key b := by
  have hsorted : (sortBy key l).Pairwise fun a b => decide (key a ≤ key b) = true := by
    refine List.pairwise_mergeSort (fun a b c hab hbc => ?_) (fun a b => ?_) l
    · rw [decide_eq_true_eq] at hab hbc ⊢
      exact hab.trans hbc
    · simpa using le_total (key a) (key b)
  exact hsorted.imp fun h => by simpa using h

lemma sortBy_eq_of_perm {key : α → κ} {l l' : List α} (h : l'.Perm l)
    (hkey : ∀ a ∈ l, ∀ b ∈ l, key a = key b → a = b) : sortBy key l' = sortBy key l := by
  refine List.Perm.eq_of_pairwise (fun a b ha hb hab hba => ?_) (pairwise_sortBy key l')
    (pairwise_sortBy key l) (((sortBy_perm key l').trans h).trans (sortBy_perm key l).symm)
  refine hkey a ?_ b ((sortBy_perm key l).mem_iff.mp hb) (le_antisymm hab hba)
  exact h.mem_iff.mp ((sortBy_perm key l').mem_iff.mp ha)

end Homelab.Lib
