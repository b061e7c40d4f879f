import Mathlib.Algebra.BigOperators.Group.List.Basic
import Mathlib.Algebra.Order.BigOperators.Group.List
import Mathlib.Algebra.Order.Group.Nat
import Homelab.Lib.Table

/-!
# Totals over a table

`t.total f` adds up `f` over the rows of a table: the number of rows of some kind, or everything the
rows hold between them. A write changes the total by exactly what it changes in the row it writes:

* `total_insert` splits a total at the key of an insertion, whatever the key held before;
* `total_eq_add_erase` splits it at a key for reading or removing.

A `Registry` is a table whose keys are handed out by a counter. Its field `fresh` says that the
counter is ahead of every key in use, so registering never overwrites a row and always adds to a
total (`total_register`).
-/

namespace Homelab.Lib

open List Table

namespace Table

variable {κ ν ν' M : Type} [AddCommMonoid M]

/-- The sum of `f` over the rows of the table. -/
def total (t : Table κ ν) (f : ν → M) : M :=
  (t.entries.map fun e => f e.2).sum

variable (t : Table κ ν)

lemma total_mapVal (g : ν → ν') (f : ν' → M) :
    (t.mapVal fun _ v => g v).total f = t.total fun v => f (g v) := by
  simp [total, mapVal, map_map, Function.comp_def]

/-- A total commutes with a homomorphism. -/
lemma map_total {N : Type} [AddCommMonoid N] (φ : M →+ N) (t : Table κ ν) (f : ν → M) :
    φ (t.total f) = t.total fun v => φ (f v) := by
  unfold total
  rw [map_list_sum, map_map]
  rfl

lemma total_add (f g : ν → M) : (t.total fun v => f v + g v) = t.total f + t.total g :=
  sum_map_add

lemma total_mono {f g : ν → Nat} (h : ∀ v, f v ≤ g v) : t.total f ≤ t.total g :=
  sum_le_sum fun e _ => h e.2

variable [DecidableEq κ]

/-- A total is the share of one key and the total of the rest. -/
lemma total_eq_add_erase (f : ν → M) (k : κ) :
    t.total f = (t.lookup k).elim 0 f + total (AList.erase k t) f := by
  obtain ⟨l, hl⟩ := t
  change (l.map fun e => f e.2).sum =
    (dlookup k l).elim 0 f + ((kerase k l).map fun e => f e.2).sum
  -- the first entry under `k` is the one both `dlookup` and `kerase` find
  clear hl
  induction l with
  | nil => simp
  | cons e l ih =>
    by_cases h : k = e.1
    · subst h
      rw [dlookup_cons_eq, kerase_cons_eq rfl, map_cons, sum_cons]
      rfl
    · obtain ⟨k', v⟩ := e
      rw [dlookup_cons_ne _ _ h, kerase_cons_ne h, map_cons, sum_cons, ih,
        map_cons, sum_cons, add_left_comm]

lemma total_insert (f : ν → M) (k : κ) (v : ν) :
    total (AList.insert k v t) f = f v + total (AList.erase k t) f := by
  change ((kinsert k v t.entries).map fun e => f e.2).sum = _
  rfl

/-- Writing under a key without a row adds the new row. -/
lemma total_insert_of_none {t : Table κ ν} {k : κ} (h : t.lookup k = none) (f : ν → M) (v : ν) :
    total (AList.insert k v t) f = f v + t.total f := by
  rw [total_insert, total_eq_add_erase t f k, h]
  simp

end Table

/-! ## Registries -/

/-- A table under keys that are handed out in order. -/
structure Registry (ν : Type) where
  rows : Table Nat ν
  /-- The next key. -/
  next : Nat
  fresh : ∀ k, next ≤ k → rows.lookup k = none

namespace Registry

variable {ν M : Type} [AddCommMonoid M]

/-- A registry without rows whose next key is `next`. -/
def emptyAt (next : Nat) : Registry ν where
  rows := ∅
  next := next
  fresh _ _ := AList.lookup_empty _

variable (r : Registry ν)

/-- Put a row under the next key. -/
def register (v : ν) : Registry ν where
  rows := AList.insert r.next v r.rows
  next := r.next + 1
  fresh k hk := by
    rw [AList.lookup_insert_ne (by omega)]
    exact r.fresh k (by omega)

/-- Remove the row of a key. -/
def remove (k : Nat) : Registry ν where
  rows := AList.erase k r.rows
  next := r.next
  fresh k' hk' := by
    rw [lookup_erase]
    split
    · rfl
    · exact r.fresh k' hk'

/-- Rewrite the row of a key, if it has one. -/
def modify (k : Nat) (f : ν → ν) : Registry ν where
  rows := r.rows.update k f
  next := r.next
  fresh k' hk' := by
    rw [lookup_update]
    split
    · next h => rw [← h, r.fresh k' hk']; rfl
    · exact r.fresh k' hk'

lemma total_register (v : ν) (f : ν → M) : (r.register v).rows.total f = f v + r.rows.total f :=
  total_insert_of_none (r.fresh r.next le_rfl) f v

variable {r : Registry ν}

lemma rows_modify_of_none {k : Nat} (h : r.rows.lookup k = none) (f : ν → ν) :
    (r.modify k f).rows = r.rows := by
  change r.rows.update k f = r.rows
  rw [update, h]

/-- Rewriting a row changes its own share of a total. -/
lemma total_modify {k : Nat} {v : ν} (h : r.rows.lookup k = some v) (g : ν → ν) (f : ν → M) :
    (r.modify k g).rows.total f = f (g v) + (r.remove k).rows.total f := by
  change (r.rows.update k g).total f = _
  rw [update, h]
  exact total_insert r.rows f k (g v)

/-- A total after rewriting a row, without reference to the rest of the table. -/
lemma total_modify_add {k : Nat} {v : ν} (h : r.rows.lookup k = some v) (g : ν → ν) (f : ν → M) :
    (r.modify k g).rows.total f + f v = r.rows.total f + f (g v) := by
  rw [total_modify h, total_eq_add_erase r.rows f k, h]
  change f (g v) + total (AList.erase k r.rows) f + f v =
    f v + total (AList.erase k r.rows) f + f (g v)
  rw [add_right_comm, add_comm (f (g v)), add_right_comm]

lemma total_modify_of_eq {k : Nat} {v : ν} (h : r.rows.lookup k = some v) {g : ν → ν}
    {f : ν → M} (heq : f (g v) = f v) : (r.modify k g).rows.total f = r.rows.total f := by
  rw [total_modify h, heq, total_eq_add_erase r.rows f k, h]
  rfl

end Registry

end Homelab.Lib
