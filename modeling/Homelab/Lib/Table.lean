import Mathlib.Data.List.AList

/-!
# Keyed tables

A table with one row for each key, on top of Mathlib's `AList`: what an in-memory hash table and
a SQL table with a primary key both are. Reading and writing one row is `AList.lookup`,
`AList.insert` and `AList.erase`; this module adds the statements that address a row in place or
address many rows at once.

* `update` is `UPDATE .. WHERE key = ?`: it rewrites the row of a key and does nothing when the
  key has no row (`lookup_update_self`, `lookup_update_of_ne`).
* `exists?` is `SELECT 1 .. WHERE p`, a scan over all rows (`exists?_iff`).
* `mapVal` rebuilds a table row by row under the same keys (`lookup_mapVal`).
* `deleteWhere` is `DELETE .. WHERE p` (`lookup_deleteWhere`).
* `deleteLimit` is `DELETE .. WHERE key IN (SELECT key .. WHERE p LIMIT n)`. SQL leaves the order
  of the inner scan open, so the scan order is an argument. Whatever the order, the result is
  `Thinned`: every row is untouched or gone, and a row that is gone matched `p`.
-/

namespace Homelab.Lib

open Option

/-- A table with keys in `κ` and one row in `ν` for each key it holds. -/
abbrev Table (κ ν : Type) := AList (fun _ : κ => ν)

namespace Table

variable {κ ν ν' : Type} [DecidableEq κ]

/-! ## Rewriting one row -/

/-- `UPDATE t SET row = f row WHERE key = k`: no row under `k`, no effect. -/
def update (t : Table κ ν) (k : κ) (f : ν → ν) : Table κ ν :=
  match t.lookup k with
  | none => t
  | some v => t.insert k (f v)

variable (t : Table κ ν)

@[simp] lemma lookup_update_self (k : κ) (f : ν → ν) :
    (t.update k f).lookup k = (t.lookup k).map f := by
  unfold update
  rcases h : t.lookup k with _ | v
  · simpa using h
  · simp

variable {k : κ}

lemma lookup_update_of_ne {k' : κ} (f : ν → ν) (h : k' ≠ k) :
    (t.update k f).lookup k' = t.lookup k' := by
  unfold update
  rcases t.lookup k with _ | v
  · rfl
  · exact AList.lookup_insert_ne h

lemma lookup_update (k k' : κ) (f : ν → ν) :
    (t.update k f).lookup k' = if k' = k then (t.lookup k).map f else t.lookup k' := by
  by_cases h : k' = k
  · subst h
    simp
  · rw [lookup_update_of_ne t f h, if_neg h]

lemma lookup_insert (k k' : κ) (v : ν) :
    (AList.insert k v t).lookup k' = if k' = k then some v else t.lookup k' := by
  by_cases h : k' = k
  · subst h
    simp
  · rw [AList.lookup_insert_ne h, if_neg h]

lemma lookup_erase (k k' : κ) :
    (AList.erase k t).lookup k' = if k' = k then none else t.lookup k' := by
  by_cases h : k' = k
  · subst h
    simp
  · rw [AList.lookup_erase_ne h, if_neg h]

variable {v w : ν}

/-- A row that is there after a write has been written, or is another one. -/
lemma of_lookup_insert {t : Table κ ν} {k' : κ} (h : (AList.insert k v t).lookup k' = some w) :
    k' = k ∧ v = w ∨ k' ≠ k ∧ t.lookup k' = some w := by
  rw [lookup_insert] at h
  split_ifs at h with hk
  · exact .inl ⟨hk, some.inj h⟩
  · exact .inr ⟨hk, h⟩

lemma of_lookup_erase {t : Table κ ν} {k' : κ} (h : (AList.erase k t).lookup k' = some w) :
    k' ≠ k ∧ t.lookup k' = some w := by
  rw [lookup_erase] at h
  split_ifs at h with hk
  exact ⟨hk, h⟩

lemma of_lookup_update {t : Table κ ν} {k' : κ} {f : ν → ν}
    (h : (t.update k f).lookup k' = some w) :
    (k' = k ∧ ∃ v, t.lookup k = some v ∧ f v = w) ∨ k' ≠ k ∧ t.lookup k' = some w := by
  rw [lookup_update] at h
  split_ifs at h with hk
  · exact .inl ⟨hk, map_eq_some_iff.mp h⟩
  · exact .inr ⟨hk, h⟩

/-- What is read of the rows, after one row is written. -/
lemma comp_lookup_insert {β : Type} (f : Option ν → β) (k : κ) (v : ν) :
    (fun k' => f ((AList.insert k v t).lookup k')) =
      Function.update (fun k' => f (t.lookup k')) k (f (some v)) := by
  funext k'
  rw [lookup_insert, Function.update_apply]
  split <;> rfl

lemma comp_lookup_erase {β : Type} (f : Option ν → β) (k : κ) :
    (fun k' => f ((AList.erase k t).lookup k')) =
      Function.update (fun k' => f (t.lookup k')) k (f none) := by
  funext k'
  rw [lookup_erase, Function.update_apply]
  split <;> rfl

/-! ## Scans -/

variable (p : κ → ν → Bool)

/-- Some row of the table matches `p`. -/
def exists? : Bool :=
  t.entries.any fun e => p e.1 e.2

lemma exists?_iff : t.exists? p = true ↔ ∃ k v, t.lookup k = some v ∧ p k v = true := by
  unfold exists?
  rw [List.any_eq_true]
  constructor
  · rintro ⟨⟨k, v⟩, he, hp⟩
    exact ⟨k, v, AList.mem_lookup_iff.mpr he, hp⟩
  · rintro ⟨k, v, hk, hp⟩
    exact ⟨⟨k, v⟩, AList.mem_lookup_iff.mp hk, hp⟩

/-- The same table with every row rewritten by `f`. -/
def mapVal (f : κ → ν → ν') : Table κ ν' where
  entries := t.entries.map fun e => ⟨e.1, f e.1 e.2⟩
  nodupKeys := by
    have h := t.nodupKeys
    unfold List.NodupKeys List.keys at h ⊢
    simpa [List.map_map, Function.comp_def] using h

lemma lookup_mapVal (f : κ → ν → ν') (k : κ) : (t.mapVal f).lookup k = (t.lookup k).map (f k) := by
  apply ext
  intro w
  have hmem : w ∈ (t.mapVal f).lookup k ↔ (⟨k, w⟩ : Sigma fun _ : κ => ν') ∈ (t.mapVal f).entries :=
    AList.mem_lookup_iff
  rw [← mem_def, hmem, map_eq_some_iff]
  unfold mapVal
  simp only [List.mem_map]
  constructor
  · rintro ⟨⟨k', v⟩, he, heq⟩
    obtain ⟨rfl, hw⟩ := Sigma.mk.inj_iff.mp heq
    exact ⟨v, AList.mem_lookup_iff.mpr he, eq_of_heq hw⟩
  · rintro ⟨v, hv, rfl⟩
    exact ⟨⟨k, v⟩, AList.mem_lookup_iff.mp hv, rfl⟩

/-! ## Deletes -/

/-- `DELETE FROM t WHERE p`. -/
def deleteWhere : Table κ ν :=
  ⟨t.entries.filter fun e => !p e.1 e.2, List.NodupKeys.sublist List.filter_sublist t.nodupKeys⟩

lemma lookup_deleteWhere (k : κ) :
    (t.deleteWhere p).lookup k = (t.lookup k).filter fun v => !p k v := by
  ext v
  have hmem : v ∈ (t.deleteWhere p).lookup k ↔
      (⟨k, v⟩ : Sigma fun _ : κ => ν) ∈ (t.deleteWhere p).entries := AList.mem_lookup_iff
  have hold : v ∈ t.lookup k ↔ (⟨k, v⟩ : Sigma fun _ : κ => ν) ∈ t.entries := AList.mem_lookup_iff
  rw [← mem_def, hmem, filter_eq_some_iff, ← mem_def, hold]
  exact List.mem_filter

/-! ## Bounded deletes -/

/-- The keys a bounded delete picks: the first `n` of the scan whose row matches `p`. -/
def victims (t : Table κ ν) (p : κ → ν → Bool) (n : Nat) (scan : List κ) : List κ :=
  (scan.filter fun k => (t.lookup k).any (p k)).take n

/-- `DELETE FROM t WHERE key IN (SELECT key FROM t WHERE p LIMIT n)`, the inner select scanning
the table in the order `scan`. -/
def deleteLimit (t : Table κ ν) (p : κ → ν → Bool) (n : Nat) (scan : List κ) : Table κ ν :=
  (t.victims p n scan).foldl (fun t k => AList.erase k t) t

lemma lookup_foldl_erase (ks : List κ) (t : Table κ ν) (k : κ) :
    (ks.foldl (fun t k => AList.erase k t) t).lookup k = if k ∈ ks then none else t.lookup k := by
  induction ks generalizing t with
  | nil => simp
  | cons k' ks ih =>
    rw [List.foldl_cons, ih, lookup_erase]
    by_cases h : k = k'
    · simp [h]
    · simp [h]

variable {p : κ → ν → Bool}

lemma matches_of_mem_victims {t : Table κ ν} {n : Nat} {scan : List κ} (h : k ∈ t.victims p n scan)
    : ∃ v, t.lookup k = some v ∧ p k v = true := by
  have hf := List.mem_of_mem_take h
  rw [List.mem_filter] at hf
  rcases hl : t.lookup k with _ | v
  · rw [hl] at hf
    exact absurd hf.2 (by simp)
  · rw [hl] at hf
    exact ⟨v, rfl, by simpa using hf.2⟩

/-! ## Thinned tables -/

/-- `t'` is `t` less some of the rows that satisfy `q`. -/
def Thinned (q : ν → Bool) (t t' : Table κ ν) : Prop :=
  ∀ k, t'.lookup k = t.lookup k ∨ t'.lookup k = none ∧ ∃ v, t.lookup k = some v ∧ q v = true

variable {q : ν → Bool}

/-- **What a bounded delete can do**: remove rows that match, and nothing else. -/
theorem thinned_deleteLimit (hpq : ∀ k v, p k v = true → q v = true) (n : Nat) (scan : List κ) :
    Thinned q t (t.deleteLimit p n scan) := by
  intro k
  unfold deleteLimit
  rw [lookup_foldl_erase]
  by_cases h : k ∈ t.victims p n scan
  · obtain ⟨v, hv, hp⟩ := matches_of_mem_victims h
    rw [if_pos h]
    exact .inr ⟨rfl, v, hv, hpq k v hp⟩
  · rw [if_neg h]
    exact .inl rfl

lemma Thinned.refl (q : ν → Bool) (t : Table κ ν) : Thinned q t t :=
  fun _ => .inl rfl

variable {t' : Table κ ν}

lemma Thinned.trans {t t'' : Table κ ν} (h : Thinned q t t') (h' : Thinned q t' t'') :
    Thinned q t t'' := by
  intro k
  rcases h' k with hk' | ⟨hk', v, hv, hq⟩
  · rw [hk']
    exact h k
  · rcases h k with hk | ⟨hk, -⟩
    · exact .inr ⟨hk', v, hk ▸ hv, hq⟩
    · rw [hk] at hv
      simp at hv

/-- A row of the thinned table is a row of the table. -/
lemma Thinned.lookup_eq_some {t : Table κ ν} (h : Thinned q t t') (hv : t'.lookup k = some v) :
    t.lookup k = some v := by
  rcases h k with hk | ⟨hk, -⟩
  · rw [← hk]
    exact hv
  · rw [hk] at hv
    simp at hv

/-- A row that does not satisfy `q` survives. -/
lemma Thinned.lookup_of_not {t : Table κ ν} (h : Thinned q t t') (hv : t.lookup k = some v)
    (hq : q v = false) : t'.lookup k = some v := by
  rcases h k with hk | ⟨-, v', hv', hq'⟩
  · rw [hk]
    exact hv
  · rw [hv] at hv'
    rw [some.inj hv', hq'] at hq
    simp at hq

/-- A question that only rows outside `q` answer has the same answer after thinning. -/
lemma Thinned.any_lookup {p : ν → Bool} {t : Table κ ν} (h : Thinned q t t')
    (hp : ∀ v, q v = true → p v = false) (k : κ) : (t'.lookup k).any p = (t.lookup k).any p := by
  rcases h k with hk | ⟨hk, v, hv, hq⟩
  · rw [hk]
  · rw [hk, hv]
    exact (hp v hq).symm

end Table

end Homelab.Lib
