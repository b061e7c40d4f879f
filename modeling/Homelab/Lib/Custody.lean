import Mathlib.Data.Finset.Lattice.Basic
import Mathlib.Data.Multiset.Filter
import Mathlib.Data.Multiset.Dedup

/-!
# Custody of single-use tokens

A party hands out tokens each of which may be used once. `held` collects what its places hold
between them, one occurrence for each place that holds a token; `withdrawn` are the tokens it must
not hold at all. `Once` is the safety property: no token is held in two places, and none is both
held and withdrawn.

Every operation is a change of the two collections, and each rule below says exactly when the
change leads to a custody with `Once`.
-/

namespace Homelab.Lib

open Multiset

variable {ι : Type}

/-- What is held, with multiplicity, and what has been withdrawn. -/
@[ext] structure Custody (ι : Type) where
  held : Multiset ι
  withdrawn : Finset ι

namespace Custody

/-- No token is held twice, and no withdrawn token is held. -/
structure Once (c : Custody ι) : Prop where
  nodup : c.held.Nodup
  free : ∀ x ∈ c.withdrawn, x ∉ c.held

instance [DecidableEq ι] (c : Custody ι) : Decidable c.Once :=
  decidable_of_iff (c.held.Nodup ∧ ∀ x ∈ c.withdrawn, x ∉ c.held)
    ⟨fun h => ⟨h.1, h.2⟩, fun h => ⟨h.1, h.2⟩⟩

/-- Giving up tokens and readmitting withdrawn ones is always safe. -/
lemma Once.mono {c c' : Custody ι} (h : c.Once) (hheld : c'.held ≤ c.held)
    (hw : c'.withdrawn ⊆ c.withdrawn) : c'.Once where
  nodup := nodup_of_le hheld h.nodup
  free x hx hx' := h.free x (hw hx) (mem_of_le hheld hx')

/-- Taking a token in is safe exactly when it is neither held nor withdrawn. -/
lemma once_cons_iff {held : Multiset ι} {w : Finset ι} {x : ι} :
    Once ⟨x ::ₘ held, w⟩ ↔ x ∉ held ∧ x ∉ w ∧ Once ⟨held, w⟩ := by
  constructor
  · rintro ⟨hnodup, hfree⟩
    rw [nodup_cons] at hnodup
    refine ⟨hnodup.1, fun hx => hfree x hx (mem_cons_self x held), hnodup.2, ?_⟩
    intro y hy hy'
    exact hfree y hy (mem_cons_of_mem hy')
  · rintro ⟨hx, hxw, hnodup, hfree⟩
    refine ⟨nodup_cons.mpr ⟨hx, hnodup⟩, ?_⟩
    intro y hy hy'
    rcases mem_cons.mp hy' with rfl | hy'
    · exact hxw hy
    · exact hfree y hy hy'

/-- Withdrawing tokens is safe exactly when none of them is held. -/
lemma once_union_iff [DecidableEq ι] {held : Multiset ι} {w v : Finset ι} :
    Once ⟨held, w ∪ v⟩ ↔ (∀ x ∈ v, x ∉ held) ∧ Once ⟨held, w⟩ := by
  constructor
  · rintro ⟨hnodup, hfree⟩
    exact ⟨fun x hx => hfree x (Finset.mem_union_right w hx),
      hnodup, fun x hx => hfree x (Finset.mem_union_left v hx)⟩
  · rintro ⟨hv, hnodup, hfree⟩
    refine ⟨hnodup, fun x hx => ?_⟩
    rcases Finset.mem_union.mp hx with hx | hx
    · exact hfree x hx
    · exact hv x hx

end Custody

end Homelab.Lib
