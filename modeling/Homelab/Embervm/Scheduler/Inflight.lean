import Mathlib.Algebra.BigOperators.Group.Multiset.Basic
import Mathlib.Algebra.GroupWithZero.Nat
import Mathlib.Algebra.Order.Monoid.Unbundled.WithTop
import Mathlib.Order.WithBot
import Homelab.Lib.Bag
import Homelab.Lib.Run
import Homelab.Embervm.Brick

/-!
# The in-flight ledger

`Embervm.Scheduler.Inflight`: memory a placer has committed to a brick that the brick's own report
does not show yet. A claim is a row keyed by the brick's dial id and the claimer's ref. It is
settled when the boot it stands for returns; it goes away by a release, with a report that counts
the landed VM, with the brick, by being claimed again, or by expiring, in which case reads ignore it
and a later claim or sweep deletes it.

The module holds no process and no lock; each function is one step here. The table exists: with no
table every write of the source is a no-op and every read is empty.

* `Inflight` and its operations follow the source.
* `pending_eq` and `pendingMib_eq` say what the reads add up, as sums over the rows.
Sources without a file name are in `inflight.ex`.
-/

namespace Homelab.Embervm

open Homelab.Lib Multiset

/-- The order of times, as it computes. -/
abbrev timeOrder : PartialOrder Int := Int.instLinearOrder.toPartialOrder

attribute [local instance] timeOrder

/-! ## The table -/

/-- A row of the ledger; the dial id and the ref are its key. -/
structure InflightRow where
  memMib : Nat
  /-- `⊤` for a claim without a time to live. -/
  expiresAt : WithTop Int
  /-- The brick's report sequence when the claim settled, none while its boot is in flight. -/
  settledAfter : Option Nat
  deriving DecidableEq

/-- The row still counts. -/
def InflightRow.Unexpired (row : InflightRow) (now : Int) : Prop :=
  (now : WithTop Int) < row.expiresAt

instance (row : InflightRow) (now : Int) : Decidable (row.Unexpired now) :=
  inferInstanceAs (Decidable (_ < _))

/-- The row of a claim settled after report `seq`: it is held no longer than `holdUntil`.
Source: the row `settle/3` inserts -/
def InflightRow.settle (row : InflightRow) (holdUntil : Int) (seq : Nat) : InflightRow :=
  { row with expiresAt := min row.expiresAt (holdUntil : WithTop Int), settledAfter := some seq }

/-- The ETS table: the claims, and the report counter of each reporting brick. -/
structure Inflight (ρ : Type) where
  rows : Table (String × ρ) InflightRow
  reportSeqs : Table String Nat

namespace Inflight

variable {ρ : Type} [DecidableEq ρ]

/-- Source: `@default_ttl_ms` -/
def defaultTtlMs : Int := 200000

/-- Source: `create/1` -/
def create : Inflight ρ := ⟨∅, ∅⟩

variable (t : Inflight ρ)

/-- Source: `sweep_expired/2` -/
def sweepExpired (now : Int) : Inflight ρ :=
  { t with rows := t.rows.deleteWhere fun _ row => decide (row.expiresAt ≤ (now : WithTop Int)) }

variable (dialId : String)

/-- Source: `claim/4` -/
def claim (ref : ρ) (memMib : Int) (ttlMs : WithTop Int) (now : Int) : Inflight ρ :=
  let t := t.sweepExpired now
  { t with rows := t.rows.insert (dialId, ref) ⟨memMib.toNat, now + ttlMs, none⟩ }

/-- Source: `release/3` -/
def release (ref : ρ) : Inflight ρ :=
  { t with rows := t.rows.erase (dialId, ref) }

/-- Source: `report_seq/2` -/
def reportSeq : Nat :=
  (t.reportSeqs.lookup dialId).getD 0

/-- Source: `settle/3` -/
def settle (t : Inflight ρ) (dialId : String) (ref : ρ) (holdMs now : Int) : Inflight ρ :=
  let holdUntil := now + holdMs
  { t with rows := t.rows.update (dialId, ref) (·.settle holdUntil (t.reportSeq dialId)) }

/-- A row that a report with sequence `seq` of the brick follows.
Source: the match spec of `observe_report/2` -/
def landedBy (seq : Nat) (key : String × ρ) (row : InflightRow) : Bool :=
  key.1 == dialId &&
    match row.settledAfter with
    | none => false
    | some settled => decide (settled < seq)

/-- Source: `observe_report/2` -/
def observeReport (countsLanded : Bool) : Inflight ρ :=
  let seq := t.reportSeq dialId + 1
  let t := { t with reportSeqs := t.reportSeqs.insert dialId seq }
  if countsLanded then { t with rows := t.rows.deleteWhere (landedBy dialId seq) } else t

/-- Source: `release_ref/2` -/
def releaseRef (ref : ρ) : Inflight ρ :=
  { t with rows := t.rows.deleteWhere fun key _ => key.2 == ref }

/-- Source: `drop/2` -/
def drop : Inflight ρ where
  rows := t.rows.deleteWhere fun key _ => key.1 == dialId
  reportSeqs := t.reportSeqs.erase dialId

/-- Adds one selected row to the two totals, by whether it is settled. -/
def tally (totals : Nat × Nat) (row : InflightRow) : Nat × Nat :=
  match row.settledAfter with
  | none => (totals.1 + row.memMib, totals.2)
  | some _ => (totals.1, totals.2 + row.memMib)

/-- The unexpired memory claimed against a brick, unsettled and settled.
Source: `pending/2` -/
def pending (now : Int) : Nat × Nat :=
  ((t.rows.entries.filter fun e => e.1.1 = dialId ∧ e.2.Unexpired now).map (·.2)).foldl tally (0, 0)

/-- Source: `pending_mib/2` -/
def pendingMib (now : Int) : Nat :=
  let (unsettled, settled) := t.pending dialId now
  unsettled + settled

/-- The boots a reporting brick shows as placed in flight, at what a claim for them charges.
Source: `reported` in `debit_mib/3` -/
def reportedMib (brick : Brick) : Nat :=
  brick.memInflightPlacedMib.toNat + brick.chargedOverheadMib * brick.inflightPlacedVms.toNat

/-- Source: `debit_mib/3` -/
def debitMib (brick : Brick) (now : Int) : Nat :=
  let (unsettled, settled) := t.pending dialId now
  -- a truncated subtraction: `max(unsettled - reported, 0)`
  if brick.admissionReported then unsettled - reportedMib brick + settled else unsettled + settled

/-- The number of rows deleted, and the table without them.
Source: `sweep/1` -/
def sweep (now : Int) : Nat × Inflight ρ :=
  (t.rows.entries.countP fun e => decide (e.2.expiresAt ≤ (now : WithTop Int)), t.sweepExpired now)

/-! ## What the reads add up -/

/-- The memory of the rows with `p`. -/
def memOf (p : (String × ρ) × InflightRow → Prop) [DecidablePred p] : Nat :=
  ((t.rows.bag.filter p).map (·.2.memMib)).sum

omit [DecidableEq ρ] in
lemma foldl_tally (rows : List InflightRow) (totals : Nat × Nat) : rows.foldl tally totals =
      (totals.1 + ((rows.filter fun row => row.settledAfter = none).map (·.memMib)).sum,
        totals.2 + ((rows.filter fun row => row.settledAfter ≠ none).map (·.memMib)).sum) := by
  induction rows generalizing totals with
  | nil => rfl
  | cons row rows ih =>
    rw [List.foldl_cons, ih]
    rcases h : row.settledAfter with _ | n <;>
      simp [tally, h, Nat.add_assoc]

variable (t : Inflight ρ) (dialId : String)

omit [DecidableEq ρ] in
lemma pending_eq (now : Int) : t.pending dialId now =
      (t.memOf fun e => (e.1.1 = dialId ∧ e.2.Unexpired now) ∧ e.2.settledAfter = none,
        t.memOf fun e => (e.1.1 = dialId ∧ e.2.Unexpired now) ∧ e.2.settledAfter ≠ none) := by
  rw [pending, foldl_tally]
  simp only [memOf, Table.bag, filter_coe, map_coe, sum_coe,
    List.filter_map, List.filter_filter, List.map_map, Function.comp_def, Nat.zero_add,
    Bool.decide_and, Bool.and_comm]

omit [DecidableEq ρ] in
lemma memOf_add_not (p q : (String × ρ) × InflightRow → Prop) [DecidablePred p] [DecidablePred q] :
    t.memOf (fun e => p e ∧ q e) + t.memOf (fun e => p e ∧ ¬ q e) = t.memOf p := by
  unfold memOf
  rw [← sum_add, ← map_add]
  simp only [and_comm (a := p _), ← filter_filter]
  rw [filter_add_not]

lemma memOf_mono {t : Inflight ρ} {p q : (String × ρ) × InflightRow → Prop} [DecidablePred p]
    [DecidablePred q] (h : ∀ key row, t.rows.lookup key = some row → p (key, row) → q (key, row)) :
    t.memOf p ≤ t.memOf q := by
  have hboth : t.memOf (fun e => q e ∧ p e) = t.memOf p := by
    unfold memOf
    congr 2
    apply filter_congr
    rintro ⟨key, row⟩ hmem
    exact ⟨fun hqp => hqp.2, fun hp => ⟨h key row (Table.mem_bag.mp hmem) hp, hp⟩⟩
  rw [← hboth, ← memOf_add_not t q p]
  exact Nat.le_add_right _ _

omit [DecidableEq ρ] in
/-- The total of a brick is over its unexpired rows, settled or not. -/
lemma pendingMib_eq (now : Int) :
    t.pendingMib dialId now = t.memOf fun e => e.1.1 = dialId ∧ e.2.Unexpired now := by
  rw [pendingMib, pending_eq]
  exact memOf_add_not t _ _

/-- What a brick may net off the claims against it. -/
def nettedMib (brick : Brick) : Nat := if brick.admissionReported then reportedMib brick else 0

omit [DecidableEq ρ] in
/-- The debit leaves out no more than the brick reports. -/
lemma pendingMib_le_debitMib (brick : Brick) (now : Int) :
    t.pendingMib dialId now ≤ t.debitMib dialId brick now + nettedMib brick := by
  unfold pendingMib debitMib nettedMib
  rcases t.pending dialId now with ⟨unsettled, settled⟩
  cases brick.admissionReported <;> simp only [if_true, if_false, Bool.false_eq_true] <;> omega

/-- A sweep deletes nothing that still counts. -/
lemma memOf_sweepExpired (now : Int) :
    (t.sweepExpired now).memOf (fun e => e.1.1 = dialId ∧ e.2.Unexpired now) =
      t.memOf fun e => e.1.1 = dialId ∧ e.2.Unexpired now := by
  unfold memOf sweepExpired
  rw [Table.bag_deleteWhere, filter_filter]
  congr 2
  apply filter_congr
  intro e _
  rw [decide_eq_false_iff_not, not_le]
  exact ⟨fun h => h.1, fun h => ⟨h, h.2⟩⟩

/-- A claim under a ref of its own adds its charge to the total of its brick, and leaves the others
as they are. -/
lemma pendingMib_claim {t : Inflight ρ} {ref : ρ} (hfresh : ∀ d, t.rows.lookup (d, ref) = none)
    (dialId' : String) (memMib : Nat) {ttlMs : Int} (httl : 0 < ttlMs) (now : Int)
    (dialId : String) :
    (t.claim dialId' ref memMib ttlMs now).pendingMib dialId now =
      t.pendingMib dialId now + if dialId' = dialId then memMib else 0 := by
  have hnew : (now : WithTop Int) < now + (ttlMs : WithTop Int) := by
    exact_mod_cast (by omega : now < now + ttlMs)
  -- no row makes way for the new one
  have hrest : (t.sweepExpired now).rows.bag.filter (fun e => e.1 ≠ (dialId', ref)) =
      (t.sweepExpired now).rows.bag := by
    apply filter_eq_self.mpr
    rintro ⟨key, row⟩ hmem rfl
    rw [Table.mem_bag, sweepExpired, Table.lookup_deleteWhere, hfresh] at hmem
    cases hmem
  rw [pendingMib_eq, pendingMib_eq, ← memOf_sweepExpired t]
  unfold memOf claim
  rw [Table.bag_insert, hrest]
  by_cases h : dialId' = dialId
  · rw [filter_cons_of_pos _ ⟨h, hnew⟩, map_cons, sum_cons, if_pos h,
      Nat.add_comm]
    rfl
  · rw [filter_cons_of_neg _ fun hp => h hp.1, if_neg h, Nat.add_zero]

end Inflight

end Homelab.Embervm
