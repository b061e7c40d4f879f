import Mathlib.Data.Multiset.Filter
import Mathlib.Data.Multiset.MapFold
import Homelab.Lib.Table

/-!
# The rows of a table as a multiset

`t.bag` is the multiset of the keyed rows of a table. A table has at most one row under a key, so
the bag has no duplicates and is determined by the lookups (`mem_bag`, `nodup_bag`); what a
statement does to the whole table can then be read off each row alone. An erase or a delete filters
the bag, an update maps it, an insert filters it and adds one row. Statements compose as multiset
operations, where sums and splits are at hand.
-/

namespace Homelab.Lib.Table

open Multiset

variable {κ ν : Type}

/-- The keyed rows of a table. -/
def bag (t : Table κ ν) : Multiset (κ × ν) :=
  (t.entries.map fun e => (e.1, e.2) : List (κ × ν))

variable (t : Table κ ν)

lemma nodup_bag : t.bag.Nodup := by
  have hinj : Function.Injective fun e : Sigma fun _ : κ => ν => (e.1, e.2) := by
    rintro ⟨k, v⟩ ⟨k', v'⟩ heq
    obtain ⟨rfl, rfl⟩ := Prod.mk.inj heq
    rfl
  exact coe_nodup.mpr (t.nodupKeys.nodup.map hinj)

variable [DecidableEq κ]

@[simp] lemma mem_bag {t : Table κ ν} {k : κ} {v : ν} : (k, v) ∈ t.bag ↔ t.lookup k = some v := by
  have hentry : v ∈ t.lookup k ↔ (⟨k, v⟩ : Sigma fun _ : κ => ν) ∈ t.entries :=
    AList.mem_lookup_iff
  rw [← Option.mem_def, hentry, bag, mem_coe, List.mem_map]
  constructor
  · rintro ⟨⟨k', v'⟩, he, heq⟩
    obtain ⟨rfl, rfl⟩ := Prod.mk.inj heq
    exact he
  · exact fun he => ⟨_, he, rfl⟩

lemma bag_deleteWhere (p : κ → ν → Bool) :
    (t.deleteWhere p).bag = t.bag.filter fun e => p e.1 e.2 = false := by
  apply (Multiset.Nodup.ext (nodup_bag _) ((nodup_bag t).filter _)).mpr
  rintro ⟨k, v⟩
  rw [mem_bag, lookup_deleteWhere, mem_filter, mem_bag, Option.filter_eq_some_iff]
  simp

lemma bag_erase (k : κ) : bag (AList.erase k t) = t.bag.filter fun e => e.1 ≠ k := by
  apply (Multiset.Nodup.ext (nodup_bag _) ((nodup_bag t).filter _)).mpr
  rintro ⟨k', v⟩
  by_cases h : k' = k <;> simp [h]

lemma bag_insert (k : κ) (v : ν) :
    bag (AList.insert k v t) = (k, v) ::ₘ t.bag.filter fun e => e.1 ≠ k := by
  rw [← bag_erase]
  rfl

/-- The row of a key and the rest. -/
lemma bag_eq_cons {t : Table κ ν} {k : κ} {v : ν} (h : t.lookup k = some v) :
    t.bag = (k, v) ::ₘ t.bag.filter fun e => e.1 ≠ k := by
  rw [← bag_insert]
  apply (Multiset.Nodup.ext (nodup_bag _) (nodup_bag _)).mpr
  rintro ⟨k', v'⟩
  by_cases hk : k' = k
  · subst hk
    simp [h]
  · simp [hk]

lemma bag_update (k : κ) (f : ν → ν) :
    (t.update k f).bag = t.bag.map fun e => if e.1 = k then (e.1, f e.2) else e := by
  -- the rows under other keys stay what they are
  have hrest : (t.bag.filter fun e => e.1 ≠ k).map
      (fun e => if e.1 = k then (e.1, f e.2) else e) = t.bag.filter fun e => e.1 ≠ k := by
    conv_rhs => rw [← map_id (t.bag.filter fun e => e.1 ≠ k)]
    apply map_congr rfl
    intro e he
    rw [if_neg (mem_filter.mp he).2]
    rfl
  unfold update
  rcases h : t.lookup k with _ | v
  · have hall : t.bag.filter (fun e => e.1 ≠ k) = t.bag := by
      apply filter_eq_self.mpr
      rintro ⟨k', v⟩ hmem rfl
      rw [mem_bag, h] at hmem
      simp at hmem
    rw [hall] at hrest
    exact hrest.symm
  · rw [bag_insert, bag_eq_cons h, map_cons, filter_cons_of_neg _ (by simp),
      filter_filter]
    simp only [and_self, hrest, if_true]

end Homelab.Lib.Table
