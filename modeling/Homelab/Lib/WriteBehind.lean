import Mathlib.Data.Set.Insert

/-!
# A value kept in a store and a stash

A store takes a value only when it is newer than what it has, by a stamp. A write that fails leaves
its value in a stash and is tried again, at any later time. So the newest value is in one of two
places, and older writes may still be on their way (`Places`).

* `Holds pl cur` says that `cur` is the newest value and that `pick`, which prefers the stash when
  it is ahead of what has been loaded, finds it. Late writes and writes from outside keep this.
* `Pending pl new` is the time between a new value's making and its arrival in one of the two
  places.
-/

namespace Homelab.Lib

variable {α : Type}

/-- The store, the stash, and the writes that are still being tried. -/
structure Places (α : Type) where
  stored : α
  stash : Option α
  late : Set α

namespace Places

section

variable (stamp : α → Nat)

/-- The store takes the value. -/
def Takes (pl : Places α) (a : α) : Prop := stamp pl.stored = 0 ∨ stamp pl.stored < stamp a

/-- The value is in the stash and the store is behind, or it is in the store and nothing is
ahead. -/
inductive Holds (pl : Places α) (cur : α) : Prop where
  | stashed (hstash : pl.stash = some cur) (hbehind : stamp pl.stored < stamp cur)
      (hlate : ∀ a ∈ pl.late, stamp a < stamp cur ∨ a = cur)
  | stored (hstored : pl.stored = cur) (hstash : ∀ a, pl.stash = some a → stamp a ≤ stamp cur)
      (hlate : ∀ a ∈ pl.late, stamp a ≤ stamp cur)

/-- A new value that is not in both places yet. -/
structure Pending (pl : Places α) (new : α) : Prop where
  stored : stamp pl.stored < stamp new ∨ pl.stored = new
  stash : ∀ a, pl.stash = some a → stamp a < stamp new
  late : ∀ a ∈ pl.late, stamp a < stamp new

/-- No stamp is later than `bound`, and late writes have one. -/
structure Within (bound : Nat) (pl : Places α) : Prop where
  stored : stamp pl.stored ≤ bound
  stash : ∀ a, pl.stash = some a → stamp a ≤ bound
  late : ∀ a ∈ pl.late, 0 < stamp a ∧ stamp a ≤ bound

/-- A late write has arrived, or late writes have been given up. -/
structure Arrives (pl pl' : Places α) : Prop where
  stash : pl'.stash = pl.stash
  late : pl'.late ⊆ pl.late
  stored : pl'.stored = pl.stored ∨ pl'.stored ∈ pl.late ∧ pl.Takes stamp pl'.stored ∧
    0 < stamp pl'.stored

end

variable {stamp : α → Nat} {pl pl' : Places α} {cur a d : α}

lemma Arrives.refl (pl : Places α) : Arrives stamp pl pl := ⟨rfl, fun _ => id, .inl rfl⟩

lemma Arrives.stored_le (h : Arrives stamp pl pl') : stamp pl.stored ≤ stamp pl'.stored := by
  rcases h.stored with heq | ⟨-, htakes, -⟩
  · rw [heq]
  · rcases htakes with hzero | hlt <;> omega

lemma Within.mono {bound bound' : Nat} (h : pl.Within stamp bound) (hle : bound ≤ bound') :
    pl.Within stamp bound' where
  stored := Nat.le_trans h.stored hle
  stash a ha := Nat.le_trans (h.stash a ha) hle
  late a ha := ⟨(h.late a ha).1, Nat.le_trans (h.late a ha).2 hle⟩

lemma Within.arrives {bound : Nat} (h : pl.Within stamp bound) (harrives : Arrives stamp pl pl') :
    pl'.Within stamp bound where
  stored := by
    rcases harrives.stored with heq | ⟨hlate, -⟩
    · rw [heq]
      exact h.stored
    · exact (h.late _ hlate).2
  stash a ha := h.stash a (harrives.stash ▸ ha)
  late a ha := h.late a (harrives.late ha)

namespace Holds

variable (h : pl.Holds stamp cur)
include h

/-- The store does not take a late write once it has the value. -/
lemma stored_arrives (hstored : pl.stored = cur) (harrives : Arrives stamp pl pl') :
    pl'.stored = cur := by
  rcases harrives.stored with heq | ⟨hlate, htakes, hpos⟩
  · rw [heq, hstored]
  · cases h with
    | stashed _ hbehind _ => exact absurd hbehind (by rw [hstored]; exact Nat.lt_irrefl _)
    | stored _ _ hle =>
      have hnot := hle _ hlate
      rw [← hstored] at hnot
      rcases htakes with hzero | hlt <;> omega

lemma arrives (harrives : Arrives stamp pl pl') : pl'.Holds stamp cur := by
  have hstored (heq : pl.stored = cur) : pl'.stored = cur := h.stored_arrives heq harrives
  cases h with
  | stored heq hstash hlate =>
    exact .stored (hstored heq) (fun a ha => hstash a (harrives.stash ▸ ha))
      fun a ha => hlate a (harrives.late ha)
  | stashed hstash hbehind hlate =>
    have hstash' : pl'.stash = some cur := harrives.stash.trans hstash
    rcases harrives.stored with heq | ⟨ha, htakes, hpos⟩
    · exact .stashed hstash' (heq ▸ hbehind) fun a ha => hlate a (harrives.late ha)
    · rcases hlate _ ha with hlt | heq
      · exact .stashed hstash' hlt fun a ha => hlate a (harrives.late ha)
      · -- the write is that of the stash
        refine .stored heq ?_ fun b hb => ?_
        · intro b hb
          rw [hstash'] at hb
          cases hb
          exact Nat.le_refl _
        · rcases hlate b (harrives.late hb) with hlt | rfl
          · exact Nat.le_of_lt hlt
          · exact Nat.le_refl _

/-- A value is written from outside: the newest is what it was, or this one. -/
lemma write (htakes : pl.Takes stamp a) :
    Holds stamp { pl with stored := a } cur ∨ Holds stamp { pl with stored := a } a := by
  cases h with
  | stashed hstash hbehind hlate =>
    by_cases hlt : stamp a < stamp cur
    · exact .inl (.stashed hstash hlt hlate)
    · refine .inr (.stored rfl ?_ fun b hb => ?_)
      · intro b hb
        rw [hstash] at hb
        cases hb
        exact Nat.le_of_not_lt hlt
      · rcases hlate b hb with hb | rfl
        · exact Nat.le_trans (Nat.le_of_lt hb) (Nat.le_of_not_lt hlt)
        · exact Nat.le_of_not_lt hlt
  | stored hstored hstash hlate =>
    have hle : stamp cur ≤ stamp a := by
      rw [← hstored]
      rcases htakes with hzero | hlt <;> omega
    exact .inr (.stored rfl (fun b hb => Nat.le_trans (hstash b hb) hle)
      fun b hb => Nat.le_trans (hlate b hb) hle)

/-- When the stash is not ahead, the value is in the store. -/
lemma stored_of_not_behind (hnot : ∀ a, pl.stash = some a → stamp a ≤ stamp pl.stored) :
    pl.stored = cur := by
  cases h with
  | stashed hstash hbehind _ => exact absurd (hnot cur hstash) (Nat.not_le_of_lt hbehind)
  | stored hstored _ _ => exact hstored

omit h in
/-- A stash that is ahead of what has been loaded is the value. -/
lemma pick_stash (h : Holds stamp { pl with stored := d } cur) (hstash : pl.stash = some a)
    (hahead : stamp d < stamp a) : a = cur := by
  cases h with
  | stashed hcur _ _ => exact Option.some.inj (hstash.symm.trans hcur)
  | stored hstored hle _ =>
    cases hstored
    exact absurd (hle a hstash) (Nat.not_le_of_lt hahead)

/-- A stash that is not ahead of what has been loaded is not needed any more. -/
lemma drop_stash (hd : Holds stamp { pl with stored := d } cur)
    (hle : stamp d ≤ stamp pl.stored) (hnot : ∀ a, pl.stash = some a → stamp a ≤ stamp d) :
    d = cur ∧ Holds stamp { pl with stash := none } cur := by
  have hcur : d = cur := hd.stored_of_not_behind hnot
  have hstored : pl.stored = cur := h.stored_of_not_behind fun a ha => Nat.le_trans (hnot a ha) hle
  refine ⟨hcur, .stored hstored nofun ?_⟩
  cases h with
  | stashed hstash hbehind _ => exact absurd hbehind (by rw [hstored]; exact Nat.lt_irrefl _)
  | stored _ _ hlate => exact hlate

end Holds

namespace Pending

variable {new : α}

/-- All stamps are older than a new one. -/
lemma of_within {bound : Nat} (h : pl.Within stamp bound) (hnew : bound < stamp new) :
    pl.Pending stamp new where
  stored := .inl (Nat.lt_of_le_of_lt h.stored hnew)
  stash a ha := Nat.lt_of_le_of_lt (h.stash a ha) hnew
  late a ha := Nat.lt_of_le_of_lt (h.late a ha).2 hnew

variable (h : pl.Pending stamp new)
include h

lemma arrives (harrives : Arrives stamp pl pl') : pl'.Pending stamp new where
  stored := by
    rcases harrives.stored with heq | ⟨hlate, -⟩
    · rw [heq]
      exact h.stored
    · exact .inl (h.late _ hlate)
  stash a ha := h.stash a (harrives.stash ▸ ha)
  late a ha := h.late a (harrives.late ha)

lemma write : Pending stamp { pl with stored := new } new :=
  ⟨.inr rfl, h.stash, h.late⟩

/-- Once the store has the value, it is the newest. -/
lemma holds (hstored : pl.stored = new) : pl.Holds stamp new :=
  .stored hstored (fun a ha => Nat.le_of_lt (h.stash a ha)) fun a ha => Nat.le_of_lt (h.late a ha)

/-- A store that does not take the value has it. -/
lemma holds_of_not_takes (hnot : ¬ pl.Takes stamp new) : pl.Holds stamp new := by
  rcases h.stored with hlt | hstored
  · exact absurd (.inr hlt) hnot
  · exact h.holds hstored

/-- The value is put into the stash, and its write is tried again later. -/
lemma holds_stash : Holds stamp ⟨pl.stored, some new, insert new pl.late⟩ new := by
  rcases h.stored with hlt | hstored
  · refine .stashed rfl hlt fun a ha => ?_
    rcases ha with rfl | ha
    · exact .inr rfl
    · exact .inl (h.late a ha)
  · refine .stored hstored ?_ fun a ha => ?_
    · rintro a ⟨⟩
      exact Nat.le_refl _
    · rcases ha with rfl | ha
      · exact Nat.le_refl _
      · exact Nat.le_of_lt (h.late a ha)

end Pending

end Places

end Homelab.Lib
