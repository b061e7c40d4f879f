import Homelab.Noded.Admission

/-!
# The node never overcommits declared memory

What an admitted boot takes of the budget is its ticket while that is held, and its VM afterwards.
In between it is in the ledger and in the live map, and counted twice.

* `Exact`: the counters of the ledger are the totals over the tickets that are held, resident or
  placed. So no subtraction of a release goes below 0.
* `Bounded`: held tickets and the VMs without one, each with its overhead, are within the budget and
  the slots. Every step but an admission can only lower them (`Boot.Lighter`).
* `Read`: what `admit` read of the live map before the driver went on covers the VMs without a
  ticket still. None can join them, since a release waits for the mutex.
* The predicate is computed in `int64`. It does not overflow: a budget is below `2 ^ 43`, and no
  more overheads are multiplied than twice those already within the budget, and one
  (`reservedMib_eq`).
-/

namespace Homelab.Noded

open Homelab.Lib Boot Registry

/-! ## What a boot takes -/

namespace Boot

variable (b : Boot)

/-- The reservation, while the ticket is held. -/
def held : Nat := if b.released then 0 else b.needMib.toNat

/-- The slot, while the ticket is held. -/
def slot : Nat := if b.released then 0 else 1

/-- The memory of a VM without a ticket. -/
def soloMib : Nat := if b.released then b.vm.memMib else 0

/-- The entry of a VM without a ticket. -/
def solo : Nat := if b.released then b.vm.count else 0

/-- The reservation of a booted build guest. -/
def residentMib : Nat := if b.resident && !b.released then b.needMib.toNat else 0

/-- The size that counts as placed. -/
def placedNow : Nat := if b.placed then b.placedMib.toNat else 0

/-- The boot counts as placed. -/
def placedVm : Nat := if b.placed then 1 else 0

lemma held_of_not_released {b : Boot} (h : b.released = false) : b.held = b.needMib.toNat := by
  rw [held, h]
  rfl

lemma slot_of_not_released {b : Boot} (h : b.released = false) : b.slot = 1 := by
  rw [slot, h]
  rfl

lemma held_le_slot : b.held ≤ b.slot * 2 ^ 64 := by
  have hlt := b.needMib.toNat_lt
  unfold held slot
  split <;> omega

lemma residentMib_le_held : b.residentMib ≤ b.held := by
  unfold residentMib held
  cases b.resident <;> cases b.released <;> simp

lemma placedNow_le_held : b.placedNow ≤ b.held := by
  unfold placedNow
  split
  · next hplaced =>
      rw [held_of_not_released (b.placed_unreleased hplaced)]
      exact b.placed_le
  · exact Nat.zero_le _

lemma residentMib_markResident {b : Boot} (h : b.released = false) :
    b.markResident.residentMib = b.needMib.toNat := by
  simp [residentMib, markResident, h]

lemma held_release : b.release.held = 0 := rfl

lemma slot_release : b.release.slot = 0 := rfl

lemma residentMib_release : b.release.residentMib = 0 := by
  simp [residentMib, release]

/-- The size of a VM that is live or holds a ticket, counted once. -/
def sizeMib (b : Boot) : Nat :=
  match b.vm with
  | .live memMib => memMib
  | _ => if b.released then 0 else b.needMib.toNat

/-- The VM is live or holds a ticket. -/
def counted (b : Boot) : Nat :=
  match b.vm with
  | .live _ => 1
  | _ => if b.released then 0 else 1

lemma sizeMib_le : b.sizeMib ≤ b.held + b.soloMib := by
  have hvm := b.vm_le
  unfold sizeMib held soloMib
  rcases h : b.vm with _ | memMib | _ <;> rw [h] at hvm <;> cases b.released <;>
    simp_all [Vm.memMib]

lemma counted_eq : b.counted = b.slot + b.solo := by
  unfold counted slot solo
  rcases b.vm with _ | memMib | _ <;> cases b.released <;> rfl

lemma solo_le_count : b.solo ≤ b.vm.count := by
  unfold solo
  split
  · exact Nat.le_refl _
  · exact Nat.zero_le _

lemma count_le : b.vm.count ≤ b.slot + b.solo := by
  unfold slot solo
  rcases b.vm with _ | memMib | _ <;> cases b.released <;> simp [Vm.count]

lemma soloMib_le_memMib : b.soloMib ≤ b.vm.memMib := by
  unfold soloMib
  split
  · exact Nat.le_refl _
  · exact Nat.zero_le _

lemma memMib_le : b.vm.memMib ≤ b.held + b.soloMib := by
  have hvm := b.vm_le
  unfold held soloMib
  cases b.released <;> simp [hvm]

/-- The boot takes no more than before. -/
structure Lighter (b b' : Boot) : Prop where
  mib : b'.held + b'.soloMib ≤ b.held + b.soloMib
  vms : b'.slot + b'.solo ≤ b.slot + b.solo

lemma release_lighter {b : Boot} (h : b.released = false) : Lighter b b.release := by
  have hvm := b.vm_le
  constructor
  · rw [held_release, held_of_not_released h, Nat.zero_add]
    exact hvm.trans (Nat.le_add_right _ _)
  · rw [slot_release, slot_of_not_released h, Nat.zero_add]
    change b.vm.count ≤ _
    rcases b.vm with _ | memMib | _ <;> simp [Vm.count]

end Boot

/-! ## The predicate does not overflow -/

lemma int64_eq_self {x : Int} (hlo : -2 ^ 63 ≤ x) (hhi : x < 2 ^ 63) : int64 x = x :=
  Int.bmod_eq_of_le (by simpa using hlo) (by simpa using hhi)

lemma toNat_ofNat_of_lt {n : Nat} (h : n < 2 ^ 64) : (UInt64.ofNat n).toNat = n :=
  UInt64.toNat_ofNat_of_lt' h

lemma clampInt64_of_lt {v : UInt64} (h : v.toNat < 2 ^ 63) : clampInt64 v = v.toNat :=
  if_neg (by omega)

lemma clampInt64_nonneg (v : UInt64) : 0 ≤ clampInt64 v := by
  unfold clampInt64
  split <;> omega

lemma clampInt64_lt (v : UInt64) : clampInt64 v < 2 ^ 63 := by
  unfold clampInt64
  split <;> omega

/-- A clamped value below the limit was not clamped. -/
lemma clampInt64_eq {v : UInt64} (h : clampInt64 v < 2 ^ 63 - 1) : clampInt64 v = v.toNat := by
  unfold clampInt64 at h ⊢
  split at h
  · omega
  · next hv => rw [if_neg hv]

namespace AdmissionFacts

variable {f : AdmissionFacts} {vms : Nat}

/-- What the reserved term needs to stay in range: a budget below `2 ^ 43`, readings within it, and
a number of VMs whose overheads are within it and which covers both counts of VMs. -/
structure InRange (f : AdmissionFacts) (vms : Nat) : Prop where
  budget : f.budgetMib.toNat < 2 ^ 43
  claimed : f.claimedMib.toNat ≤ f.budgetMib.toNat
  inflight : f.inflightMib.toNat ≤ f.budgetMib.toNat
  live : 0 ≤ f.live ∧ f.live ≤ vms
  inflightVMs : 0 ≤ f.inflightVMs ∧ f.inflightVMs ≤ vms
  overhead : f.overheadMib.toNat * vms ≤ f.budgetMib.toNat
  idle : vms = 0 → f.inflightMib.toNat = 0

/-- The overheads the predicate multiplies out. -/
lemma InRange.overheads_lt (h : InRange f vms) :
    clampInt64 f.overheadMib * (f.live + f.inflightVMs + 1) < 2 ^ 63 ∧
      (vms ≠ 0 → clampInt64 f.overheadMib * (f.live + f.inflightVMs + 1) < 2 ^ 45) := by
  have hbudget := h.budget
  have hlive := h.live
  have hinflight := h.inflightVMs
  rcases Nat.eq_zero_or_pos vms with hzero | hpos
  · have hone : f.live + f.inflightVMs + 1 = 1 := by omega
    rw [hone, Int.mul_one]
    exact ⟨clampInt64_lt _, fun hne => absurd hzero hne⟩
  · have hover : f.overheadMib.toNat ≤ f.budgetMib.toNat :=
      (Nat.le_mul_of_pos_right _ hpos).trans h.overhead
    rw [clampInt64_of_lt (by omega)]
    have hle : (f.overheadMib.toNat : Int) * (f.live + f.inflightVMs + 1) ≤
        f.overheadMib.toNat * (3 * vms : Nat) :=
      Int.mul_le_mul_of_nonneg_left (by omega) (Int.natCast_nonneg _)
    have hmul : f.overheadMib.toNat * (3 * vms) ≤ 3 * f.budgetMib.toNat := by
      have hover := h.overhead
      rw [Nat.mul_left_comm]
      omega
    omega

lemma InRange.reservedMib_eq (h : InRange f vms) (hmodel : f.model = .reserved)
    (hknown : f.budgetMib > 0) :
    f.reservedMib = some (f.budgetMib.toNat - f.claimedMib.toNat - f.inflightMib.toNat
      - clampInt64 f.overheadMib * (f.live + f.inflightVMs + 1)) := by
  have hbudget := h.budget
  have hclaimed := h.claimed
  have hinflight := h.inflight
  have hidle := h.idle
  obtain ⟨hlt, hlt'⟩ := h.overheads_lt
  have hnonneg : 0 ≤ clampInt64 f.overheadMib * (f.live + f.inflightVMs + 1) := by
    have hlive := h.live
    have hvms := h.inflightVMs
    exact Int.mul_nonneg (clampInt64_nonneg _) (by omega)
  rw [reservedMib, if_pos ⟨hmodel, hknown⟩]
  rw [clampInt64_of_lt (v := f.budgetMib) (by omega),
    clampInt64_of_lt (v := f.claimedMib) (by omega),
    clampInt64_of_lt (v := f.inflightMib) (by omega)]
  simp only [Option.some.injEq]
  generalize clampInt64 f.overheadMib * (f.live + f.inflightVMs + 1) = overheads at *
  rw [int64_eq_self (x := overheads) (by omega) (by omega),
    int64_eq_self (x := f.budgetMib.toNat - f.claimedMib.toNat) (by omega) (by omega),
    int64_eq_self (x := f.budgetMib.toNat - f.claimedMib.toNat - f.inflightMib.toNat) (by omega)
      (by omega)]
  apply int64_eq_self
  · by_cases hvms : vms = 0
    · omega
    · omega
  · omega

lemma admittableMib_le {reserved : Int} (h : f.reservedMib = some reserved) :
    ∃ admittable, f.admittableMib = some admittable ∧ admittable ≤ reserved := by
  unfold admittableMib
  rcases f.observedMib with _ | observed <;> rw [h]
  · exact ⟨reserved, rfl, le_rfl⟩
  · refine ⟨_, rfl, ?_⟩
    split <;> omega

lemma lt_of_slotsFull_eq_false (h : f.slotsFull = false) (hceiling : 0 < f.slotCeiling) :
    f.live + f.inflightVMs < f.slotCeiling := by
  rw [slotsFull, decide_eq_true hceiling, Bool.true_and, decide_eq_false_iff_not] at h
  omega

/-- What an admission in the reserved model says about its readings. -/
lemma InRange.of_memAdmits (h : InRange f vms) (hmodel : f.model = .reserved)
    (hknown : f.budgetMib > 0) {needMib : UInt64} (hadmits : f.memAdmits needMib = true) :
    (f.claimedMib.toNat + f.inflightMib.toNat + needMib.toNat : Int) +
      f.overheadMib.toNat * (f.live + f.inflightVMs + 1) ≤ f.budgetMib.toNat := by
  obtain ⟨admittable, hsome, hle⟩ := admittableMib_le (h.reservedMib_eq hmodel hknown)
  rw [memAdmits, hsome] at hadmits
  have hneed := of_decide_eq_true hadmits
  have hbudget := h.budget
  have hlive := h.live
  have hvms := h.inflightVMs
  -- nothing is admitted against overheads above the budget, so none of the values was clamped
  have hoverhead : clampInt64 f.overheadMib ≤
      clampInt64 f.overheadMib * (f.live + f.inflightVMs + 1) := by
    have hmul := Int.mul_le_mul_of_nonneg_left (show 1 ≤ f.live + f.inflightVMs + 1 by omega)
      (clampInt64_nonneg f.overheadMib)
    omega
  have hneed0 := clampInt64_nonneg needMib
  have hoverhead_eq := clampInt64_eq (v := f.overheadMib) (by omega)
  have hneed_eq := clampInt64_eq (v := needMib) (by omega)
  rw [hoverhead_eq] at hle
  omega

end AdmissionFacts

namespace Admission

/-! ## The counters -/

/-- The counters of the ledger are totals over the tickets. -/
structure Exact (l : AdmissionLedger) (rows : Table Nat Boot) : Prop where
  inflightMib : l.inflightMib.toNat = rows.total held
  inflightVMs : l.inflightVMs = rows.total slot
  buildResidentMib : l.buildResidentMib.toNat = rows.total residentMib
  placedMib : l.placedMib.toNat = rows.total placedNow
  placedVMs : l.placedVMs = rows.total placedVm

section

variable {l : AdmissionLedger} {r : Registry Boot} {ticket : Nat} {b : Boot}

/-- A subtraction that takes a share out of its total does not wrap. -/
lemma toNat_sub_share {x v : UInt64} {total total' : Nat} (hx : x.toNat = total)
    (htotal : total' + v.toNat = total) : (x - v).toNat = total' := by
  have hle : v ≤ x := UInt64.le_iff_toNat_le.mpr (by omega)
  rw [UInt64.toNat_sub_of_le _ _ hle]
  omega

lemma unplace_eq (l : AdmissionLedger) (b : Boot) : unplace l b =
    { l with
      placedMib := if b.placed then l.placedMib - b.placedMib else l.placedMib
      placedVMs := if b.placed then l.placedVMs - 1 else l.placedVMs } := by
  unfold unplace
  split <;> rfl

lemma giveBack_eq (l : AdmissionLedger) (b : Boot) : giveBack l b =
    { unplace l b with
      inflightMib := l.inflightMib - b.needMib
      inflightVMs := l.inflightVMs - 1
      buildResidentMib :=
        if b.resident then l.buildResidentMib - b.needMib else l.buildResidentMib } := by
  unfold giveBack unplace
  cases b.resident <;> cases b.placed <;> rfl

variable (h : Exact l r.rows)
include h

/-- The placed figure, when a ticket stops counting toward it. -/
lemma placed_share (b' : Boot) (hb : r.rows.lookup ticket = some b) (hplaced : b'.placed = false) :
    (unplace l b).placedMib.toNat = (r.modify ticket fun _ => b').rows.total placedNow ∧
      (unplace l b).placedVMs = (r.modify ticket fun _ => b').rows.total placedVm := by
  have hmib := total_modify_add hb (fun _ => b') placedNow
  have hvms := total_modify_add hb (fun _ => b') placedVm
  have hl := h.placedMib
  have hl' := h.placedVMs
  simp only [placedNow, placedVm, hplaced, Bool.false_eq_true, if_false,
    Nat.add_zero] at hmib hvms
  rw [unplace_eq]
  cases hp : b.placed with
  | false =>
    simp only [hp, Bool.false_eq_true, if_false, Nat.add_zero] at hmib hvms ⊢
    exact ⟨hl.trans hmib.symm, hl'.trans (congrArg _ hvms.symm)⟩
  | true =>
    simp only [hp, if_true] at hmib hvms ⊢
    refine ⟨toNat_sub_share hl hmib, ?_⟩
    omega

lemma Exact.unplace (hb : r.rows.lookup ticket = some b) :
    Exact (unplace l b) (r.modify ticket fun _ => b.unplace).rows := by
  obtain ⟨hplacedMib, hplacedVMs⟩ := placed_share h b.unplace hb rfl
  have hheld : (r.modify ticket fun _ => b.unplace).rows.total held = _ :=
    total_modify_of_eq hb rfl
  have hslot : (r.modify ticket fun _ => b.unplace).rows.total slot = _ :=
    total_modify_of_eq hb rfl
  have hresident : (r.modify ticket fun _ => b.unplace).rows.total residentMib = _ :=
    total_modify_of_eq hb rfl
  refine ⟨?_, ?_, ?_, hplacedMib, hplacedVMs⟩
  · rw [hheld, unplace_eq]
    exact h.inflightMib
  · rw [hslot, unplace_eq]
    exact h.inflightVMs
  · rw [hresident, unplace_eq]
    exact h.buildResidentMib

lemma Exact.release (hb : r.rows.lookup ticket = some b) (hheld : b.released = false) :
    Exact (giveBack l b) (r.modify ticket fun _ => b.release).rows := by
  obtain ⟨hplacedMib, hplacedVMs⟩ := placed_share h b.release hb rfl
  have hmib := total_modify_add hb (fun _ => b.release) held
  have hvms := total_modify_add hb (fun _ => b.release) slot
  have hresident := total_modify_add hb (fun _ => b.release) residentMib
  rw [held_release, held_of_not_released hheld] at hmib
  rw [slot_release, slot_of_not_released hheld] at hvms
  rw [residentMib_release, residentMib, hheld] at hresident
  rw [giveBack_eq]
  refine ⟨toNat_sub_share h.inflightMib hmib, ?_, ?_, hplacedMib, hplacedVMs⟩
  · have hl := h.inflightVMs
    change l.inflightVMs - 1 = _
    omega
  · cases hr : b.resident with
    | false =>
      rw [hr] at hresident
      exact h.buildResidentMib.trans hresident.symm
    | true =>
      rw [hr] at hresident
      exact toNat_sub_share h.buildResidentMib hresident

omit h in
/-- A sum that stays below a counter does not wrap. -/
lemma toNat_add_share {x v : UInt64} {total total' : Nat} (hx : x.toNat = total)
    (htotal : total' = total + v.toNat) (hlt : total' < 2 ^ 64) : (x + v).toNat = total' := by
  rw [UInt64.toNat_add, hx, ← htotal, Nat.mod_eq_of_lt hlt]

/-- The memory of a build guest is part of what is in flight. -/
lemma Exact.buildGuestBooted (hb : r.rows.lookup ticket = some b) (hheld : b.released = false)
    (hresident : b.resident = false) :
    Exact { l with buildResidentMib := l.buildResidentMib + b.needMib }
      (r.modify ticket fun _ => b.markResident).rows := by
  have hmib := total_modify_add hb (fun _ => b.markResident) residentMib
  have hsame : (r.modify ticket fun _ => b.markResident).rows.total held = _ :=
    total_modify_of_eq hb rfl
  have hle := (r.modify ticket fun _ => b.markResident).rows.total_mono
    residentMib_le_held
  have hlt := l.inflightMib.toNat_lt
  rw [residentMib_markResident hheld, residentMib, hresident] at hmib
  refine ⟨h.inflightMib.trans hsame.symm, ?_, ?_, ?_, ?_⟩
  · rw [total_modify_of_eq hb rfl]
    exact h.inflightVMs
  · refine toNat_add_share h.buildResidentMib hmib ?_
    have hinflight := h.inflightMib
    omega
  · rw [total_modify_of_eq hb rfl]
    exact h.placedMib
  · rw [total_modify_of_eq hb rfl]
    exact h.placedVMs

/-- What the driver does to a VM is not in the ledger. -/
lemma Exact.setVm (hb : r.rows.lookup ticket = some b) {vm : Vm}
    (hvm : vm.memMib ≤ b.needMib.toNat) {g : Boot → Boot}
    (hg : g b = { b with vm := vm, vm_le := hvm }) : Exact l (r.modify ticket g).rows := by
  constructor
  · rw [total_modify_of_eq hb (by rw [hg]; rfl)]
    exact h.inflightMib
  · rw [total_modify_of_eq hb (by rw [hg]; rfl)]
    exact h.inflightVMs
  · rw [total_modify_of_eq hb (by rw [hg]; rfl)]
    exact h.buildResidentMib
  · rw [total_modify_of_eq hb (by rw [hg]; rfl)]
    exact h.placedMib
  · rw [total_modify_of_eq hb (by rw [hg]; rfl)]
    exact h.placedVMs

end

/-! ## The bound -/

/-- Held tickets and VMs without one, with an overhead each, are within the budget and the slots. -/
structure Bounded (cfg : AdmissionConfig) (rows : Table Nat Boot) : Prop where
  mib : rows.total held + rows.total soloMib +
    cfg.overheadMib.toNat * (rows.total slot + rows.total solo) ≤ cfg.budgetMib.toNat
  vms : 0 < cfg.slotCeiling → rows.total slot + rows.total solo ≤ cfg.slotCeiling

/-- What `admit` has read of the live map covers the VMs without a ticket, and is within the
budget. -/
def Read (cfg : AdmissionConfig) (s : Admission) : Prop :=
  ∀ a ∈ s.admitting, s.boots.rows.total soloMib ≤ a.claimedMib.toNat ∧
    a.claimedMib.toNat ≤ cfg.budgetMib.toNat

/-- The invariant of a node. -/
structure Sound (cfg : AdmissionConfig) (s : Admission) : Prop where
  exact : Exact s.ledger s.boots.rows
  bounded : Bounded cfg s.boots.rows
  read : Read cfg s

variable {cfg : AdmissionConfig} {r : Registry Boot}

lemma Bounded.modify {ticket : Nat} {b : Boot} (h : Bounded cfg r.rows)
    (hb : r.rows.lookup ticket = some b) {g : Boot → Boot} (hg : Boot.Lighter b (g b)) :
    Bounded cfg (r.modify ticket g).rows := by
  have hheld := total_modify_add hb g held
  have hsoloMib := total_modify_add hb g soloMib
  have hslot := total_modify_add hb g slot
  have hsolo := total_modify_add hb g solo
  have hmib := hg.mib
  have hvms := hg.vms
  have hle : (r.modify ticket g).rows.total slot + (r.modify ticket g).rows.total solo ≤
      r.rows.total slot + r.rows.total solo := by
    omega
  have hmul := Nat.mul_le_mul_left cfg.overheadMib.toNat hle
  constructor
  · have hbound := h.mib
    omega
  · intro hceiling
    exact hle.trans (h.vms hceiling)

lemma budgetMib_lt (cfg : AdmissionConfig) : cfg.budgetMib.toNat < 2 ^ 43 := by
  have hmib : (UInt64.ofNat (cfg.memoryMax / 2 ^ 20)).toNat < 2 ^ 43 := by
    rw [toNat_ofNat_of_lt (by omega)]
    omega
  simp only [AdmissionConfig.budgetMib]
  split
  · decide
  · next h =>
      have hle : cfg.reserveMib ≤ UInt64.ofNat (cfg.memoryMax / 2 ^ 20) :=
        UInt64.le_of_lt (UInt64.not_le.mp h)
      rw [UInt64.toNat_sub_of_le _ _ hle]
      omega

/-! ## Steps -/

variable {s : Admission}

lemma Sound.lockAdmit (h : Sound cfg s) (call : AdmitCall) : Sound cfg (s.lockAdmit call) := by
  unfold Admission.lockAdmit
  split
  · exact h
  · refine ⟨h.exact, h.bounded, ?_⟩
    rintro a ⟨⟩
    have hsolo := s.boots.rows.total_mono soloMib_le_memMib
    have hmem := s.boots.rows.total_mono memMib_le
    rw [Table.total_add] at hmem
    have hbound := h.bounded.mib
    have hbudget := budgetMib_lt cfg
    have hread : s.claimedMib.toNat = s.boots.rows.total (·.vm.memMib) := by
      rw [claimedMib, toNat_ofNat_of_lt (by omega)]
    constructor
    · rw [hread]
      exact hsolo
    · rw [hread]
      omega

lemma reserve_eq (l : AdmissionLedger) (call : AdmitCall) : reserve l call =
    { l with
      inflightMib := l.inflightMib + call.needMib
      inflightVMs := l.inflightVMs + 1
      placedMib := if call.placedMib > 0 then l.placedMib + call.placedMib else l.placedMib
      placedVMs := if call.placedMib > 0 then l.placedVMs + 1 else l.placedVMs } := by
  unfold reserve
  split <;> rfl

/-- The ledger of an admitted boot. What is placed is part of what is in flight. -/
lemma Exact.reserve {l : AdmissionLedger} (h : Exact l r.rows) (call : AdmitCall)
    (hlt : l.inflightMib.toNat + call.needMib.toNat < 2 ^ 64) :
    Exact (reserve l call) (r.register call.ticket).rows := by
  have hheld : (r.register call.ticket).rows.total held = call.needMib.toNat + _ :=
    r.total_register call.ticket held
  have hslot : (r.register call.ticket).rows.total slot = 1 + _ :=
    r.total_register call.ticket slot
  have hresident : (r.register call.ticket).rows.total residentMib = 0 + _ :=
    r.total_register call.ticket residentMib
  have hplaced := r.total_register call.ticket placedNow
  have hplacedVm := r.total_register call.ticket placedVm
  have hle := (r.register call.ticket).rows.total_mono placedNow_le_held
  have hinflightMib := h.inflightMib
  have hinflightVMs := h.inflightVMs
  have hplacedVMs := h.placedVMs
  rw [reserve_eq]
  refine ⟨toNat_add_share hinflightMib (by omega) (by omega), ?_, ?_, ?_, ?_⟩
  · change l.inflightVMs + 1 = _
    omega
  · rw [hresident, Nat.zero_add]
    exact h.buildResidentMib
  · by_cases hpos : call.placedMib > 0
    · have hnow : call.ticket.placedNow = call.placedMib.toNat := if_pos (decide_eq_true hpos)
      simp only [if_pos hpos]
      exact toNat_add_share h.placedMib (by omega) (by omega)
    · have hnow : call.ticket.placedNow = 0 := if_neg (by simpa [AdmitCall.ticket] using hpos)
      simp only [if_neg hpos]
      rw [hplaced, hnow, Nat.zero_add]
      exact h.placedMib
  · by_cases hpos : call.placedMib > 0
    · have hvm : call.ticket.placedVm = 1 := if_pos (decide_eq_true hpos)
      simp only [if_pos hpos]
      omega
    · have hvm : call.ticket.placedVm = 0 := if_neg (by simpa [AdmitCall.ticket] using hpos)
      simp only [if_neg hpos]
      omega

/-- The readings of a call that is about to decide are in range. -/
lemma Sound.inRange (h : Sound cfg s) {a : Admitting} (ha : s.admitting = some a) :
    (s.admissionFacts cfg a).InRange
      (s.boots.rows.total slot + s.boots.rows.total solo) := by
  have hbound := h.bounded.mib
  have hcount := s.boots.rows.total_mono count_le
  rw [Table.total_add] at hcount
  have hinflightMib := h.exact.inflightMib
  have hinflightVMs := h.exact.inflightVMs
  refine ⟨budgetMib_lt cfg, (h.read a ha).2, ?_, ⟨?_, ?_⟩, ⟨?_, ?_⟩, ?_, ?_⟩
  · change s.ledger.inflightMib.toNat ≤ cfg.budgetMib.toNat
    omega
  · exact Int.natCast_nonneg _
  · change (s.liveCount : Int) ≤ _
    exact_mod_cast hcount
  · change 0 ≤ s.ledger.inflightVMs
    omega
  · change s.ledger.inflightVMs ≤ _
    omega
  · change cfg.overheadMib.toNat * _ ≤ cfg.budgetMib.toNat
    omega
  · intro hvms
    change s.ledger.inflightMib.toNat = 0
    have hheld : s.boots.rows.total held ≤ s.boots.rows.total fun b => b.slot * 2 ^ 64 :=
      s.boots.rows.total_mono held_le_slot
    have hmul := Table.map_total (AddMonoidHom.mulRight (2 ^ 64)) s.boots.rows slot
    simp only [AddMonoidHom.mulRight_apply] at hmul
    omega

lemma rejects_eq_none {f : AdmissionFacts} {call : AdmitCall} {tapsExhausted : Bool}
    (h : rejects f call tapsExhausted = none) :
    f.slotsFull = false ∧ f.memAdmits call.needMib = true := by
  unfold rejects at h
  split at h
  · cases h
  · next hslots =>
      split at h
      · cases h
      · next hmem => exact ⟨by simpa using hslots, by simpa using hmem⟩

/-- An admitted boot joins within the bound it was admitted against: `claimed` covers the VMs
without a ticket, `live` their number. -/
lemma bounded_register {call : AdmitCall} {claimed live : Nat}
    (hfits : claimed + r.rows.total held + call.needMib.toNat +
      cfg.overheadMib.toNat * (live + r.rows.total slot + 1) ≤ cfg.budgetMib.toNat)
    (hclaimed : r.rows.total soloMib ≤ claimed) (hlive : r.rows.total solo ≤ live)
    (hslots : 0 < cfg.slotCeiling → live + r.rows.total slot < cfg.slotCeiling) :
    Bounded cfg (r.register call.ticket).rows := by
  have hheld : (r.register call.ticket).rows.total held = call.needMib.toNat + _ :=
    r.total_register call.ticket held
  have hsoloMib : (r.register call.ticket).rows.total soloMib = 0 + _ :=
    r.total_register call.ticket soloMib
  have hslot : (r.register call.ticket).rows.total slot = 1 + _ :=
    r.total_register call.ticket slot
  have hsolo : (r.register call.ticket).rows.total solo = 0 + _ :=
    r.total_register call.ticket solo
  rw [Nat.zero_add] at hsoloMib hsolo
  constructor
  · rw [hheld, hsoloMib, hslot, hsolo]
    have hmul := Nat.mul_le_mul_left cfg.overheadMib.toNat
      (show 1 + r.rows.total slot + r.rows.total solo ≤ live + r.rows.total slot + 1
        by omega)
    omega
  · intro hceiling
    omega

lemma Sound.finishAdmit (hmodel : cfg.model = .reserved) (hknown : cfg.budgetMib > 0)
    (h : Sound cfg s) (tapsExhausted : Bool) : Sound cfg (s.finishAdmit cfg tapsExhausted) := by
  unfold Admission.finishAdmit
  split
  · exact h
  · next a ha =>
      split
      · -- a refusal changes no counter of the reservations
        refine ⟨⟨h.exact.1, h.exact.2, h.exact.3, h.exact.4, h.exact.5⟩, h.bounded, ?_⟩
        rintro _ ⟨⟩
      · next hrejects =>
          obtain ⟨hslots, hmem⟩ := rejects_eq_none hrejects
          have hadmits := (h.inRange ha).of_memAdmits hmodel hknown hmem
          change (a.claimedMib.toNat + s.ledger.inflightMib.toNat + a.call.needMib.toNat : Int) +
            cfg.overheadMib.toNat * (s.liveCount + s.ledger.inflightVMs + 1) ≤
              cfg.budgetMib.toNat at hadmits
          have hinflightMib := h.exact.inflightMib
          have hinflightVMs := h.exact.inflightVMs
          have hbudget := budgetMib_lt cfg
          have hread := (h.read a ha).1
          have hsolo : s.boots.rows.total solo ≤ s.liveCount :=
            s.boots.rows.total_mono solo_le_count
          rw [hinflightVMs] at hadmits
          have hfits : a.claimedMib.toNat + s.ledger.inflightMib.toNat + a.call.needMib.toNat +
              cfg.overheadMib.toNat * (s.liveCount + s.boots.rows.total slot + 1) ≤
                cfg.budgetMib.toNat := by
            exact_mod_cast hadmits
          refine ⟨h.exact.reserve a.call (by omega), ?_, by rintro _ ⟨⟩⟩
          rw [hinflightMib] at hfits
          exact bounded_register hfits hread hsolo fun hceiling => by
            have hroom := AdmissionFacts.lt_of_slotsFull_eq_false hslots
              (show (0 : Int) < cfg.slotCeiling by omega)
            change (s.liveCount : Int) + s.ledger.inflightVMs < cfg.slotCeiling at hroom
            omega

lemma Sound.onTicket (h : Sound cfg s) {ticket : Nat}
    {f : Boot → Option (AdmissionLedger × Boot)}
    (hf : ∀ b l b', s.boots.rows.lookup ticket = some b → f b = some (l, b') →
      Exact l (s.boots.modify ticket fun _ => b').rows ∧ Boot.Lighter b b') :
    Sound cfg (s.onTicket ticket f) := by
  unfold Admission.onTicket
  split
  · next hunlocked hb =>
      split
      · next hfb =>
          obtain ⟨hexact, hlighter⟩ := hf _ _ _ hb hfb
          refine ⟨hexact, h.bounded.modify hb hlighter, ?_⟩
          rintro a ha
          rw [hunlocked] at ha
          cases ha
      · exact h
  · exact h

/-- What the driver can do to a boot: change its VM while it holds its ticket, and without one only
take the VM away. -/
def Boot.VmChange (b b' : Boot) : Prop :=
  ∃ (vm : Vm) (hvm : vm.memMib ≤ b.needMib.toNat), b' = { b with vm := vm, vm_le := hvm } ∧
    (b.released = false ∨ vm.memMib ≤ b.vm.memMib ∧ vm.count ≤ b.vm.count)

lemma Boot.VmChange.refl (b : Boot) : Boot.VmChange b b :=
  ⟨b.vm, b.vm_le, rfl, .inr ⟨Nat.le_refl _, Nat.le_refl _⟩⟩

lemma Boot.VmChange.solo_le {b b' : Boot} (h : Boot.VmChange b b') :
    b'.soloMib ≤ b.soloMib ∧ b'.solo ≤ b.solo := by
  obtain ⟨vm, hvm, rfl, hheld | ⟨hmib, hcount⟩⟩ := h
  · simp [soloMib, solo, hheld]
  · by_cases hreleased : b.released = true
    · simpa [soloMib, solo, hreleased] using ⟨hmib, hcount⟩
    · simp [soloMib, solo, hreleased]

/-- A step of the driver. It may fall between the two readings of `admit`. -/
lemma Sound.modify (h : Sound cfg s) {ticket : Nat} {g : Boot → Boot}
    (hg : ∀ b, Boot.VmChange b (g b)) : Sound cfg { s with boots := s.boots.modify ticket g } := by
  rcases hb : s.boots.rows.lookup ticket with _ | b
  · have hrows := rows_modify_of_none hb g
    refine ⟨?_, ?_, ?_⟩
    · change Exact s.ledger (s.boots.modify ticket g).rows
      rw [hrows]
      exact h.exact
    · change Bounded cfg (s.boots.modify ticket g).rows
      rw [hrows]
      exact h.bounded
    · intro a ha
      change (s.boots.modify ticket g).rows.total soloMib ≤ _ ∧ _
      rw [hrows]
      exact h.read a ha
  · obtain ⟨hsoloMib, hsolo⟩ := (hg b).solo_le
    obtain ⟨vm, hvm, hgb, -⟩ := hg b
    have hheld : (g b).held = b.held := by
      rw [hgb]
      rfl
    have hslot : (g b).slot = b.slot := by
      rw [hgb]
      rfl
    refine ⟨h.exact.setVm hb hvm hgb, h.bounded.modify hb ⟨by omega, by omega⟩, ?_⟩
    intro a ha
    have htotal := total_modify_add hb g soloMib
    obtain ⟨hread, hbudget⟩ := h.read a ha
    refine ⟨?_, hbudget⟩
    change (s.boots.modify ticket g).rows.total soloMib ≤ a.claimedMib.toNat
    omega

lemma Sound.step (hmodel : cfg.model = .reserved) (hknown : cfg.budgetMib > 0) (h : Sound cfg s)
    (event : Event) : Sound cfg (s.step cfg event) := by
  cases event with
  | lockAdmit call => exact h.lockAdmit call
  | finishAdmit tapsExhausted => exact h.finishAdmit hmodel hknown tapsExhausted
  | release ticket =>
    refine h.onTicket fun b l b' hb hf => ?_
    split at hf
    · cases hf
    · next hreleased =>
        cases hf
        have hheld : b.released = false := by simpa using hreleased
        exact ⟨h.exact.release hb hheld, release_lighter hheld⟩
  | rpcEnded ticket =>
    rw [Admission.step, Admission.rpcEnded]
    refine h.onTicket fun b l b' hb hf => ?_
    cases hf
    exact ⟨h.exact.unplace hb, Nat.le_refl _, Nat.le_refl _⟩
  | buildGuestBooted ticket =>
    refine h.onTicket fun b l b' hb hf => ?_
    split at hf
    · cases hf
    · next hnot =>
        cases hf
        simp only [Bool.or_eq_true, not_or, Bool.not_eq_true] at hnot
        exact ⟨h.exact.buildGuestBooted hb hnot.2 hnot.1, Nat.le_refl _, Nat.le_refl _⟩
  | boot ticket memMib =>
    refine h.modify fun b => ?_
    split
    · next hboot => exact ⟨.live memMib, hboot.2.2, rfl, .inl hboot.1⟩
    · exact .refl b
  | destroy ticket =>
    refine h.modify fun b => ?_
    split
    · exact ⟨.gone, Nat.zero_le _, rfl, .inr ⟨Nat.zero_le _, Nat.zero_le _⟩⟩
    · exact .refl b

lemma sound_start (cfg : AdmissionConfig) : Sound cfg start := by
  refine ⟨⟨rfl, rfl, rfl, rfl, rfl⟩, ⟨?_, fun _ => Nat.zero_le _⟩, by rintro _ ⟨⟩⟩
  change 0 + 0 + cfg.overheadMib.toNat * (0 + 0) ≤ _
  simp

/-- **The node never overcommits declared memory.** In the reserved model with a known budget, after
any steps of any calls in any order: the sizes of all VMs that are live or hold a ticket, each
counted once, and an overhead for each are within the budget; their number is within a positive slot
ceiling; and every counter of the ledger is the total over the tickets it counts, so that no
subtraction has wrapped. -/
theorem no_overcommit (cfg : AdmissionConfig) (hmodel : cfg.model = .reserved)
    (hknown : cfg.budgetMib > 0) (events : List Event) : let s := run (step cfg) start events
    s.boots.rows.total sizeMib + cfg.overheadMib.toNat * s.boots.rows.total counted ≤
        cfg.budgetMib.toNat ∧
      (0 < cfg.slotCeiling → s.boots.rows.total counted ≤ cfg.slotCeiling) ∧
      Exact s.ledger s.boots.rows := by
  have hsound := run_invariant (Sound cfg) (fun s event h => h.step hmodel hknown event)
    (sound_start cfg) events
  intro s
  have hsize := s.boots.rows.total_mono sizeMib_le
  have hcounted : s.boots.rows.total counted =
      s.boots.rows.total slot + s.boots.rows.total solo := by
    rw [← Table.total_add, funext counted_eq]
  rw [Table.total_add] at hsize
  refine ⟨?_, ?_, hsound.exact⟩
  · rw [hcounted]
    exact (Nat.add_le_add_right hsize _).trans hsound.bounded.mib
  · rw [hcounted]
    exact hsound.bounded.vms

/-- Boots of 3072 MiB on a brick of 7936. While the first is in the live map and still holds its
ticket it counts twice, and a second is refused; after the release the second is admitted and a
third refused. -/
theorem no_overcommit_three_boots :
    let cfg : AdmissionConfig := ⟨.reserved, ⟨8 * 2 ^ 30, by decide⟩, 256, 64, 512, 10⟩
    let ask : List Event := [.lockAdmit ⟨3072, some 3072, .memOnly, 0⟩, .finishAdmit false]
    let s := run (step cfg) start
      (ask ++ [.boot 0 3072] ++ ask ++ [.release 0] ++ ask ++ [.boot 1 3072] ++ ask)
    s.boots.rows.total counted = 2 ∧ s.ledger.inflightMib = 3072 ∧
      s.ledger.refusals.lookup .pressureMem = some 2 ∧
      s.boots.rows.total sizeMib + 64 * s.boots.rows.total counted ≤ 7936 := by
  refine ⟨by decide +kernel, by decide +kernel, by decide +kernel, ?_⟩
  exact (no_overcommit ⟨.reserved, ⟨8 * 2 ^ 30, by decide⟩, 256, 64, 512, 10⟩ rfl (by decide)
    _).1

end Admission

end Homelab.Noded
