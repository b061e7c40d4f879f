import Mathlib.Data.List.Nodup

/-!
# Round robin over queues

Each key `k` has a queue `q k` of items that carry their key. A round takes the head of every queue
that has one, in the order of the list `ks` of keys; `rounds ks q n` is what the first `n` rounds
take.

* The items of one key leave in the order of its queue (`filter_rounds`), and enough rounds take
  every item once (`perm_of_rounds`).
* In every prefix, the queues that are not used up have been served equally often, up to one
  (`served_evenly`).
-/

namespace Homelab.Lib.RoundRobin

open List

variable {κ α : Type}

/-- What `n` rounds take, round after round. -/
def rounds (ks : List κ) : Nat → (κ → List α) → List α
  | 0, _ => []
  | n + 1, q => ks.filterMap (fun k => (q k).head?) ++ rounds ks n fun k => (q k).tail

variable {key : α → κ} {ks : List κ} {q : κ → List α} (hq : ∀ k, ∀ x ∈ q k, key x = k)
include hq

lemma key_mem_of_mem_rounds (n : Nat) : ∀ x ∈ rounds ks n q, key x ∈ ks := by
  induction n generalizing q with
  | zero => simp [rounds]
  | succ n ih =>
    intro x hx
    rcases mem_append.mp hx with hx | hx
    · obtain ⟨j, hj, hjx⟩ := mem_filterMap.mp hx
      rwa [hq j x (mem_of_mem_head? hjx)]
    · exact ih (fun k x hx => hq k x (mem_of_mem_tail hx)) x hx

omit hq in
lemma rounds_of_nil (hq : ∀ k, q k = []) (n : Nat) : rounds ks n q = [] := by
  induction n generalizing q with
  | zero => rfl
  | succ n ih =>
    rw [rounds, ih fun k => by rw [hq k]; rfl, append_nil, filterMap_eq_nil_iff]
    exact fun k _ => by rw [hq k]; rfl

variable [DecidableEq κ]

/-- The items of a key, out of lists that are put one after the other. -/
lemma filter_flatMap (hks : ks.Nodup) {k : κ} (hk : k ∈ ks) :
    (ks.flatMap q).filter (key · = k) = q k := by
  have hother : ∀ ks' : List κ, k ∉ ks' → (ks'.flatMap q).filter (key · = k) = [] := by
    intro ks' hk'
    rw [filter_eq_nil_iff]
    intro x hx
    obtain ⟨j, hj, hjx⟩ := mem_flatMap.mp hx
    simpa [hq j x hjx] using ne_of_mem_of_not_mem hj hk'
  have hown : (q k).filter (key · = k) = q k :=
    filter_eq_self.mpr fun x hx => by simpa using hq k x hx
  obtain ⟨l₁, l₂, rfl⟩ := append_of_mem hk
  rw [nodup_middle, nodup_cons, mem_append, not_or] at hks
  rw [flatMap_append, flatMap_cons, filter_append, filter_append,
    hother l₁ hks.1.1, hown, hother l₂ hks.1.2, nil_append, append_nil]

/-- Of the queue of `k` a round takes the head. -/
lemma filter_heads (hks : ks.Nodup) {k : κ} (hk : k ∈ ks) :
    (ks.filterMap fun k => (q k).head?).filter (key · = k) = (q k).head?.toList := by
  rw [filterMap_eq_flatMap_toList]
  refine filter_flatMap (fun k x hx => hq k x ?_) hks hk
  exact mem_of_mem_head? (Option.mem_toList.mp hx)

lemma filter_rounds (hks : ks.Nodup) {k : κ} (hk : k ∈ ks) (n : Nat) :
    (rounds ks n q).filter (key · = k) = (q k).take n := by
  induction n generalizing q with
  | zero => simp [rounds]
  | succ n ih =>
    have htail : ∀ k, ∀ x ∈ (q k).tail, key x = k := fun k x hx => hq k x (mem_of_mem_tail hx)
    rw [rounds, filter_append, filter_heads hq hks hk, ih htail]
    cases q k <;> simp

omit hq in
/-- Two lists with the same items of every key are permutations of each other. -/
lemma perm_of_filter_eq [DecidableEq α] (key : α → κ) {l₁ l₂ : List α}
    (h : ∀ k, l₁.filter (key · = k) = l₂.filter (key · = k)) : l₁.Perm l₂ := by
  refine perm_iff_count.mpr fun x => ?_
  have hcount : ∀ l : List α, l.count x = (l.filter (key · = key x)).count x := fun l =>
    (count_filter (by simp)).symm
  rw [hcount, hcount l₂, h]

omit hq in
/-- Rounds that use up every queue take each item of the queues once. -/
lemma perm_of_rounds [DecidableEq α] (key : α → κ) (hks : ks.Nodup) {n : Nat} {items : List α}
    (hall : ∀ x ∈ items, key x ∈ ks) (hlen : items.length ≤ n) :
    (rounds ks n fun k => items.filter (key · = k)).Perm items := by
  have hq : ∀ k, ∀ x ∈ items.filter (key · = k), key x = k := fun k x hx => by
    simpa using (mem_filter.mp hx).2
  refine perm_of_filter_eq key fun k => ?_
  by_cases hk : k ∈ ks
  · rw [filter_rounds hq hks hk]
    exact take_of_length_le (Nat.le_trans (length_filter_le _ _) hlen)
  · have hnone : ∀ l : List α, (∀ x ∈ l, key x ∈ ks) → l.filter (key · = k) = [] := by
      intro l hl
      rw [filter_eq_nil_iff]
      intro x hx
      simpa using ne_of_mem_of_not_mem (hl x hx) hk
    rw [hnone _ (key_mem_of_mem_rounds hq n), hnone items hall]

/-- In a prefix of the rounds, every queue with an item left has been served `m` or `m + 1`
times. -/
lemma served_evenly (hks : ks.Nodup) {n : Nat} {l : List α} (hl : l <+: rounds ks n q) :
    ∃ m, ∀ k ∈ ks, (l.filter (key · = k)).length < (q k).length →
      m ≤ (l.filter (key · = k)).length ∧ (l.filter (key · = k)).length ≤ m + 1 := by
  induction n generalizing q l with
  | zero =>
    obtain rfl : l = [] := prefix_nil.mp hl
    exact ⟨0, fun _ _ _ => by simp⟩
  | succ n ih =>
    rcases prefix_or_prefix_of_prefix hl (prefix_append _ _) with hl | ⟨l', rfl⟩
    · refine ⟨0, fun k hk _ => ⟨Nat.zero_le _, ?_⟩⟩
      have hle := (hl.sublist.filter (key · = k)).length_le
      rw [filter_heads hq hks hk] at hle
      exact Nat.le_trans hle (by cases (q k).head? <;> simp)
    · have hl' := (prefix_append_right_inj _).mp hl
      obtain ⟨m, hm⟩ := ih (fun k x hx => hq k x (mem_of_mem_tail hx)) hl'
      refine ⟨m + 1, fun k hk hleft => ?_⟩
      have hone := hm k hk
      rw [filter_append, filter_heads hq hks hk] at hleft ⊢
      cases hqk : q k with
      | nil => simp [hqk] at hleft
      | cons x xs =>
        simp only [hqk, head?_cons, Option.toList_some, length_append,
          length_cons, length_nil, tail_cons] at hleft hone ⊢
        omega

end Homelab.Lib.RoundRobin
