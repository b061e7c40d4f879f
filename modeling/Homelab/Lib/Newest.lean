import Homelab.Lib.Table

/-!
# Tables that keep the newest record

A table in which a write replaces a record only by one that is newer, for a comparison of records
`cmp`. Such a table only goes up (`Behind`), it covers everything that was written to it
(`lookup_keepNewest_self`), and holds nothing else (`lookup_keepNewest_cases`). So what it holds in
the end is the newest of all records written (`isNewest_of_covers`), in whatever order and how often
they were.
-/

namespace Homelab.Lib

variable {κ ν : Type}

/-- `a` is not newer than `b`. -/
abbrev NotNewer (cmp : ν → ν → Ordering) (a b : ν) : Prop := (cmp a b).isLE = true

namespace NotNewer

variable {cmp : ν → ν → Ordering} [Std.TransCmp cmp]

lemma refl (a : ν) : NotNewer cmp a a := by
  have h : cmp a a = .eq := Std.ReflCmp.compare_self
  rw [NotNewer, h]
  rfl

lemma trans {a b c : ν} (hab : NotNewer cmp a b) (hbc : NotNewer cmp b c) : NotNewer cmp a c :=
  Std.TransCmp.isLE_trans hab hbc

/-- Of two records, one is not newer than the other. -/
lemma of_not {a b : ν} (h : ¬ NotNewer cmp a b) : NotNewer cmp b a := by
  have hswap : cmp b a = (cmp a b).swap := Std.OrientedCmp.eq_swap
  rw [NotNewer, hswap]
  unfold NotNewer at h
  cases hab : cmp a b <;> rw [hab] at h <;> simp_all

end NotNewer

namespace Table

section

variable (cmp : ν → ν → Ordering)

/-- Every record of `t` has one in `t'` that it is not newer than. -/
def Behind (t t' : Table κ ν) [DecidableEq κ] : Prop :=
  ∀ k a, t.lookup k = some a → ∃ b, t'.lookup k = some b ∧ NotNewer cmp a b

/-- Writes a record unless the table has one that it is not newer than; and whether it was
written. -/
def keepNewest [DecidableEq κ] (t : Table κ ν) (k : κ) (v : ν) : Bool × Table κ ν :=
  match t.lookup k with
  | none => (true, t.insert k v)
  | some w => if (cmp v w).isLE then (false, t) else (true, t.insert k v)

/-- The table holds for each key the newest of the records of that key, and nothing else. -/
structure IsNewest [DecidableEq κ] (t : Table κ ν) (records : κ → ν → Prop) : Prop where
  none_iff : ∀ k, t.lookup k = none ↔ ∀ v, ¬ records k v
  some_iff : ∀ k v, t.lookup k = some v ↔ records k v ∧ ∀ v', records k v' → NotNewer cmp v' v

end

variable [DecidableEq κ] {cmp : ν → ν → Ordering} {t t' t'' : Table κ ν}

lemma keepNewest_cases (cmp : ν → ν → Ordering) (t : Table κ ν) (k : κ) (v : ν) :
    (∃ w, t.lookup k = some w ∧ NotNewer cmp v w ∧ t.keepNewest cmp k v = (false, t)) ∨
      (∀ w, t.lookup k = some w → ¬ NotNewer cmp v w) ∧
        t.keepNewest cmp k v = (true, t.insert k v) := by
  unfold keepNewest
  rcases t.lookup k with _ | w
  · exact .inr ⟨nofun, rfl⟩
  · by_cases h : NotNewer cmp v w
    · exact .inl ⟨w, rfl, h, if_pos h⟩
    · refine .inr ⟨?_, if_neg h⟩
      rintro _ ⟨⟩
      exact h

/-- What the table holds was there before or is what has been written. -/
lemma lookup_keepNewest_cases {k k' : κ} {v a : ν}
    (h : (t.keepNewest cmp k v).2.lookup k' = some a) : t.lookup k' = some a ∨ k' = k ∧ a = v := by
  rcases keepNewest_cases cmp t k v with ⟨w, -, -, hkeep⟩ | ⟨-, hkeep⟩ <;> rw [hkeep] at h
  · exact .inl h
  · obtain ⟨hk, rfl⟩ | ⟨-, h⟩ := Table.of_lookup_insert h
    · exact .inr ⟨hk, rfl⟩
    · exact .inl h

/-- A table that holds only records of their keys, and covers all of them, holds the newest. -/
lemma isNewest_of_covers {records : κ → ν → Prop} (honly : ∀ k v, t.lookup k = some v → records k v)
    (hcovers : ∀ k v, records k v → ∃ b, t.lookup k = some b ∧ NotNewer cmp v b)
    (hanti : ∀ k a b, records k a → records k b → NotNewer cmp a b → NotNewer cmp b a → a = b) :
    t.IsNewest cmp records where
  none_iff k := by
    constructor
    · intro hnone v hv
      obtain ⟨b, hb, -⟩ := hcovers k v hv
      rw [hnone] at hb
      cases hb
    · intro hempty
      rcases hlookup : t.lookup k with _ | v
      · rfl
      · exact absurd (honly k v hlookup) (hempty v)
  some_iff k v := by
    constructor
    · intro hv
      refine ⟨honly k v hv, fun v' hv' => ?_⟩
      obtain ⟨b, hb, hle⟩ := hcovers k v' hv'
      rw [hv] at hb
      cases hb
      exact hle
    · rintro ⟨hv, hnewest⟩
      obtain ⟨b, hb, hle⟩ := hcovers k v hv
      have hbv : v = b := hanti k v b hv (honly k b hb) hle (hnewest b (honly k b hb))
      rw [hb, hbv]

section

variable [Std.TransCmp cmp]

lemma Behind.refl (t : Table κ ν) : t.Behind cmp t := fun _ a ha =>
  ⟨a, ha, .refl a⟩

lemma Behind.trans (h : t.Behind cmp t') (h' : t'.Behind cmp t'') : t.Behind cmp t'' := by
  intro k a ha
  obtain ⟨b, hb, hab⟩ := h k a ha
  obtain ⟨c, hc, hbc⟩ := h' k b hb
  exact ⟨c, hc, hab.trans hbc⟩

/-- The table covers what has been written. -/
lemma lookup_keepNewest_self (t : Table κ ν) (k : κ) (v : ν) :
    ∃ b, (t.keepNewest cmp k v).2.lookup k = some b ∧ NotNewer cmp v b := by
  rcases keepNewest_cases cmp t k v with ⟨w, hw, hle, hkeep⟩ | ⟨-, hkeep⟩ <;> rw [hkeep]
  · exact ⟨w, hw, hle⟩
  · exact ⟨v, by rw [Table.lookup_insert, if_pos rfl], .refl v⟩

/-- A write goes up. -/
lemma behind_keepNewest (t : Table κ ν) (k : κ) (v : ν) :
    t.Behind cmp (t.keepNewest cmp k v).2 := by
  rcases keepNewest_cases cmp t k v with ⟨w, -, -, hkeep⟩ | ⟨hnewer, hkeep⟩ <;> rw [hkeep]
  · exact .refl t
  · intro k' a ha
    by_cases hk : k' = k
    · subst hk
      exact ⟨v, by rw [Table.lookup_insert, if_pos rfl], .of_not (hnewer a ha)⟩
    · exact ⟨a, by rw [Table.lookup_insert, if_neg hk, ha], .refl a⟩

end

end Table

end Homelab.Lib
