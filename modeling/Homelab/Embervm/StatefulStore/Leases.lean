import Mathlib.Data.Set.BooleanAlgebra
import Mathlib.Order.CompletePartialOrder
import Mathlib.Order.Interval.Set.Disjoint
import Homelab.Lib.Run
import Homelab.Embervm.StatefulStore.Changes

/-!
# Blessing leases

A lease hands a node a range of generations of one workload to bless by itself. The rows of the
lease table are kept per node and replaced by a node's next lease, so the ranges granted so far are
not all in the table; what the table still has is an end at or above every end ever granted.

* `le_nextBlessedGeneration`: the next free generation is past the watermark, past the reported
  generation and at or past the end of every row of the workload.
* `Leased s log`: every range of `log` ends at or below the end of a row, in memory and below. Kept
  by every change of a row (`Leased.change`, `Leased.grant`) and by a rebuild.
* A range the store grants is past all others, but the row of a lease whose append timed out is
  below and not in memory: the next lease takes its range again, and a restart brings both back
  (`late_lease_granted_twice`). `leases_disjoint`: the ranges are apart in every state of a run
  exactly when no restart finds such a row (`RestartsApart`).
-/

namespace Homelab.Embervm

open Homelab.Lib
open Homelab.Embervm.OpLog

namespace StatefulStore

/-! ## The next free generation -/

lemma le_foldl_max_iff (l : List Nat) (a x : Nat) : x ≤ l.foldl max a ↔ x ≤ a ∨ ∃ y ∈ l, x ≤ y := by
  induction l generalizing a with
  | nil => simp
  | cons b l ih =>
    rw [List.foldl_cons, ih]
    simp only [le_max_iff, List.mem_cons, exists_eq_or_imp]
    tauto

variable (s : StatefulStore)

/-- **The next free generation** is past the watermark, past the reported generation and at or past
the end of every lease of the workload. -/
theorem le_nextBlessedGeneration (workload : String) :
    s.blessingWatermark workload < s.nextBlessedGeneration workload ∧
      s.volumeGeneration workload < s.nextBlessedGeneration workload ∧
      ∀ nodeId row, s.leases.lookup (workload, nodeId) = some row →
        row.nextGeneration < row.leaseEnd → row.leaseEnd ≤ s.nextBlessedGeneration workload := by
  unfold nextBlessedGeneration
  refine ⟨?_, ?_, fun nodeId row hrow hne => ?_⟩
  · rw [Nat.lt_iff_add_one_le, le_foldl_max_iff]
    exact .inl (le_max_left _ _)
  · rw [Nat.lt_iff_add_one_le, le_foldl_max_iff]
    exact .inl (le_max_right _ _)
  · rw [le_foldl_max_iff]
    refine .inr ⟨row.leaseEnd, ?_, le_rfl⟩
    unfold leaseEnds
    rw [List.mem_map]
    refine ⟨⟨(workload, nodeId), row⟩, ?_, rfl⟩
    rw [List.mem_filter]
    exact ⟨AList.mem_lookup_iff.mp hrow, by simp [hne]⟩

lemma nextBlessedGeneration_le_leaseStart (workload : String) :
    s.nextBlessedGeneration workload ≤ s.leaseStart workload :=
  (le_max_left _ _).trans (le_max_left _ _)

/-! ## Grants -/

/-- A range of generations handed to a node: from `start` up to but not including `leaseEnd`. -/
structure Grant where
  workload : String
  nodeId : String
  start : Nat
  leaseEnd : Nat
  deriving DecidableEq, Repr

/-- The leases a store holds; from then on `ensure_blessing_lease/3` answers them. -/
def grants : List Grant :=
  s.leases.entries.map fun e => ⟨e.1.1, e.1.2, e.2.nextGeneration, e.2.leaseEnd⟩

/-- The log of all leases held so far, once the store is `s`. -/
def enter (log : List Grant) : List Grant :=
  log ++ s.grants.filter (· ∉ log)

lemma mem_grants_iff (g : Grant) : g ∈ s.grants ↔ ∃ row,
    s.leases.lookup (g.workload, g.nodeId) = some row ∧ row.nextGeneration = g.start ∧
      row.leaseEnd = g.leaseEnd := by
  unfold grants
  rw [List.mem_map]
  constructor
  · rintro ⟨⟨⟨workload, nodeId⟩, row⟩, he, rfl⟩
    exact ⟨row, AList.mem_lookup_iff.mpr he, rfl, rfl⟩
  · rintro ⟨row, hrow, hstart, hend⟩
    refine ⟨⟨(g.workload, g.nodeId), row⟩, AList.mem_lookup_iff.mp hrow, ?_⟩
    rw [hstart, hend]

lemma mem_enter_iff (log : List Grant) (g : Grant) :
    g ∈ s.enter log ↔ g ∈ log ∨ g ∈ s.grants := by
  unfold enter
  rw [List.mem_append, List.mem_filter, decide_eq_true_iff]
  tauto

/-- A row of the grant's workload ends at or past the grant's end. -/
def Covers (t : Table (String × String) LeaseRow) (g : Grant) : Prop :=
  ∃ nodeId row, t.lookup (g.workload, nodeId) = some row ∧ g.leaseEnd ≤ row.leaseEnd

/-- No row of the table is an empty range. -/
def Nonempty (t : Table (String × String) LeaseRow) : Prop :=
  ∀ key row, t.lookup key = some row → row.nextGeneration < row.leaseEnd

/-- **The lease ledger**: what the rows say about the ranges of `log`, held so far. -/
structure Leased (s : StatefulStore) (log : List Grant) : Prop where
  nonempty : Nonempty s.leases
  nonemptyBelow : Nonempty s.db.leases
  covers : ∀ g ∈ log, Covers s.leases g
  coversBelow : ∀ g ∈ log, Covers s.db.leases g
  entered : ∀ g ∈ s.grants, g ∈ log

variable {s s' : StatefulStore} {log : List Grant} {l : ChangeLabel} {workload nodeId : String}

lemma leased_init : Leased init [] where
  nonempty _ _ h := absurd h (by simp [init, rebuild, StatefulTables.empty])
  nonemptyBelow _ _ h := absurd h (by simp [init, rebuild, StatefulTables.empty])
  covers _ h := absurd h (by simp)
  coversBelow _ h := absurd h (by simp)
  entered _ h := absurd h (by simp [grants, init, rebuild, StatefulTables.empty])

/-- What the store already had in the log is not entered again. -/
lemma Leased.enter_eq (h : Leased s log) : s.enter log = log := by
  have hnone : s.grants.filter (· ∉ log) = [] := by
    rw [List.filter_eq_nil_iff]
    intro g hg
    simpa using h.entered g hg
  rw [enter, hnone, List.append_nil]

/-- The log of a store whose rows of the last leases cover each other. -/
lemma leased_enter (hne : Nonempty s.leases) (hneb : Nonempty s.db.leases)
    (hlog : ∀ g ∈ log, Covers s.leases g ∧ Covers s.db.leases g)
    (hrow : ∀ g ∈ s.grants, g ∈ log ∨ Covers s.db.leases g) : Leased s (s.enter log) where
  nonempty := hne
  nonemptyBelow := hneb
  covers g hg := by
    rcases (mem_enter_iff s log g).mp hg with hold | hnew
    · exact (hlog g hold).1
    · obtain ⟨row, hlookup, -, hend⟩ := (mem_grants_iff s g).mp hnew
      exact ⟨g.nodeId, row, hlookup, hend.ge⟩
  coversBelow g hg := by
    rcases (mem_enter_iff s log g).mp hg with hold | hnew
    · exact (hlog g hold).2
    · exact (hrow g hnew).elim (fun hold => (hlog g hold).2) id
  entered g hg := (mem_enter_iff s log g).mpr (.inr hg)

/-- After a restart the log has the durable rows too. -/
lemma Leased.rebuild (h : Leased s log) : Leased (rebuild s.db) ((rebuild s.db).enter log) := by
  refine leased_enter h.nonemptyBelow h.nonemptyBelow
    (fun g hg => ⟨h.coversBelow g hg, h.coversBelow g hg⟩) fun g hg => .inr ?_
  obtain ⟨row, hrow, -, hend⟩ := (mem_grants_iff _ g).mp hg
  exact ⟨g.nodeId, row, hrow, hend.ge⟩

/-- Every earlier range of the workload ends at or below where the next lease starts. -/
lemma Leased.le_leaseStart (h : Leased s log) {g : Grant} (hg : g ∈ log) :
    g.leaseEnd ≤ s.leaseStart g.workload := by
  obtain ⟨nodeId, row, hrow, hle⟩ := h.covers g hg
  have hnext := (le_nextBlessedGeneration s g.workload).2.2 nodeId row hrow (h.nonempty _ row hrow)
  exact hle.trans (hnext.trans (nextBlessedGeneration_le_leaseStart s g.workload))

section

variable {t : Table (String × String) LeaseRow} {row : LeaseRow}

lemma Nonempty.insert (h : Nonempty t) (key : String × String)
    (hrow : row.nextGeneration < row.leaseEnd) : Nonempty (AList.insert key row t) := by
  intro key' row' hlookup
  rw [Table.lookup_insert] at hlookup
  split_ifs at hlookup
  · obtain rfl := Option.some.inj hlookup
    exact hrow
  · exact h key' row' hlookup

/-- A row that is replaced is replaced by one with a larger end. -/
lemma Covers.insert {g : Grant} (h : Covers t g) (nodeId : String)
    (hle : g.workload = workload → g.leaseEnd ≤ row.leaseEnd) :
    Covers (AList.insert (workload, nodeId) row t) g := by
  obtain ⟨node, row', hrow', hle'⟩ := h
  by_cases hkey : (g.workload, node) = (workload, nodeId)
  · exact ⟨node, row, (Table.lookup_insert _ _ _ _).trans (if_pos hkey),
      hle (Prod.mk.inj hkey).1⟩
  · exact ⟨node, row', (Table.lookup_insert _ _ _ _).trans ((if_neg hkey).trans hrow'), hle'⟩

end

/-- The row the next lease leaves below. -/
lemma db_of_lease {ts : Int} {db : StatefulTables}
    (hdb : s.db.project (s.leaseOp workload nodeId ts) = .ok db) :
    ∃ row, db.leases = s.db.leases.insert (workload, nodeId) row ∧
      row.nextGeneration = s.leaseStart workload ∧
      row.leaseEnd = s.leaseStart workload + blessingLeaseSize := by
  obtain rfl := Except.ok.inj hdb
  exact ⟨_, rfl, rfl, rfl⟩

lemma Leased.le_newEnd (h : Leased s log) {g : Grant} (hg : g ∈ log) {row : LeaseRow}
    (hend : row.leaseEnd = s.leaseStart workload + blessingLeaseSize) (hw : g.workload = workload) :
    g.leaseEnd ≤ row.leaseEnd := by
  have hstart := h.le_leaseStart hg
  rw [hw] at hstart
  omega

/-- What a lease leaves of the tables below, whether the store learns of it or not. -/
lemma Leased.below (h : Leased s log) {ts : Int} {db : StatefulTables}
    (hdb : s.db.project (s.leaseOp workload nodeId ts) = .ok db) :
    Nonempty db.leases ∧ ∀ g ∈ log, Covers db.leases g := by
  obtain ⟨row, hrow, hstart, hend⟩ := db_of_lease hdb
  rw [hrow]
  refine ⟨h.nonemptyBelow.insert _ ?_, fun g hg =>
    (h.coversBelow g hg).insert nodeId (h.le_newEnd hg hend)⟩
  rw [hstart, hend]
  exact Nat.lt_add_of_pos_right (by decide)

/-- Every change but a grant and a restart keeps the ledger. -/
lemma Leased.change (h : Leased s log) (hc : Change s l s')
    (hl : ∀ workload nodeId, l ≠ .leased workload nodeId) (hr : l ≠ .restarted) :
    Leased s' log := by
  have hsame (hmem : s'.leases = s.leases) (hdb : s'.db.leases = s.db.leases) : Leased s' log := by
    refine ⟨hmem ▸ h.nonempty, hdb ▸ h.nonemptyBelow, hmem ▸ h.covers, hdb ▸ h.coversBelow, ?_⟩
    unfold grants
    rw [hmem]
    exact h.entered
  have hf := hc.frame
  cases hc with
  | leased createdTs updatedTs hdb => exact absurd rfl (hl _ _)
  | restarted => exact absurd rfl hr
  | unreported hop hdb =>
    cases hop with
    | lease workload nodeId ts =>
      obtain ⟨hne, hcov⟩ := h.below hdb
      exact ⟨h.nonempty, hne, h.covers, hcov, h.entered⟩
    | bless ts hpast => exact hsame rfl (hf.db.leases rfl)
    | other hleases hblessing => exact hsame rfl (hf.db.leases hleases)
  | _ => exact hsame (hf.leases rfl) (hf.db.leases rfl)

lemma lookup_putLease (s : StatefulStore) (db : StatefulTables) (workload nodeId : String)
    (createdTs updatedTs : Int) (key : String × String) :
    (s.putLease db workload nodeId createdTs updatedTs).leases.lookup key =
      if key = (workload, nodeId) then
        some ⟨s.leaseStart workload, s.leaseStart workload + blessingLeaseSize, createdTs,
          updatedTs⟩
      else s.leases.lookup key :=
  Table.lookup_insert _ _ key _

/-- The range of the next lease of a node. -/
def nextGrant (s : StatefulStore) (workload nodeId : String) : Grant :=
  ⟨workload, nodeId, s.leaseStart workload, s.leaseStart workload + blessingLeaseSize⟩

/-- The one range a grant adds. -/
lemma mem_grants_putLease {db : StatefulTables} {createdTs updatedTs : Int} {g : Grant}
    (hg : g ∈ (s.putLease db workload nodeId createdTs updatedTs).grants) :
    g ∈ s.grants ∨ g = s.nextGrant workload nodeId := by
  obtain ⟨row, hrow, hstart, hend⟩ := (mem_grants_iff _ g).mp hg
  rw [lookup_putLease] at hrow
  split_ifs at hrow with hkey
  · obtain ⟨hw, hn⟩ := Prod.mk.inj hkey
    obtain rfl := Option.some.inj hrow
    refine .inr ?_
    cases g
    simp_all [nextGrant]
  · exact .inl ((mem_grants_iff s g).mpr ⟨row, hrow, hstart, hend⟩)

/-- A grant keeps the ledger and enters its range. -/
lemma Leased.grant (h : Leased s log) {ts : Int} {db : StatefulTables} (createdTs updatedTs : Int)
    (hdb : s.db.project (s.leaseOp workload nodeId ts) = .ok db) :
    Leased (s.putLease db workload nodeId createdTs updatedTs)
      ((s.putLease db workload nodeId createdTs updatedTs).enter log) := by
  obtain ⟨hneb, hcov⟩ := h.below hdb
  refine leased_enter (h.nonempty.insert _ (Nat.lt_add_of_pos_right (by decide))) hneb
    (fun g hg => ⟨(h.covers g hg).insert nodeId (h.le_newEnd hg rfl), hcov g hg⟩) fun g hg => ?_
  rcases mem_grants_putLease hg with hold | rfl
  · exact .inl (h.entered g hold)
  · obtain ⟨row, hrow, -, hend⟩ := db_of_lease hdb
    refine .inr ⟨nodeId, row, ?_, hend.ge⟩
    show db.leases.lookup _ = _
    rw [hrow]
    exact AList.lookup_insert _

/-! ## Runs -/

/-- The calls after which the store can hold a lease it did not hold before. -/
def StatefulCall.leases : StatefulCall → Bool
  | .ensureBlessingLease _ _ _ _ _ | .restart => true
  | _ => false

/-- A call that neither grants nor restarts makes no such change. -/
lemma not_leased_of_makes {call : StatefulCall} {t : StatefulStore} (hm : call.makes s t l)
    (hcall : StatefulCall.leases call = false) :
    (∀ workload nodeId, l ≠ .leased workload nodeId) ∧ l ≠ .restarted := by
  rcases hm with hm | ⟨op, rfl, -⟩
  · cases call with
    | eagerEvictBrokenPairs scan io =>
      rcases hm with rfl | ⟨_, _, -, rfl⟩ <;> simp
    | upsertVolume w f io =>
      rcases hm with ⟨-, rfl⟩ | ⟨_, -, ⟨-, _, rfl⟩ | ⟨_, rfl, -⟩ | rfl⟩ <;> simp
    | _ =>
      refine ⟨fun workload nodeId hl => ?_, fun hl => ?_⟩ <;>
        simp_all [StatefulCall.reports, StatefulCall.leases]
  · simp

lemma Leased.step_of_not_leases (h : Leased s log) {call : StatefulCall}
    (hcall : StatefulCall.leases call = false) : Leased (s.step call) log :=
  (step_path s call fun _ _ hm => not_leased_of_makes hm hcall).induction
    (fun s => Leased s log) (fun h hl hc => h.change hc hl.1 hl.2) h

lemma Leased.withheld (h : Leased s log) {op : StatefulOp} {io : AppendIo}
    (hw : Withheld s op io s') : Leased s' log := by
  rcases hw with rfl | ⟨-, hc⟩
  · exact h
  · exact h.change hc (by simp) (by simp)

/-- One call keeps the ledger, with the ranges it leaves the store with entered. -/
lemma Leased.step (h : Leased s log) (call : StatefulCall) :
    Leased (s.step call) ((s.step call).enter log) := by
  have hkept {s' : StatefulStore} (h' : Leased s' log) : Leased s' (s'.enter log) := by
    rw [h'.enter_eq]
    exact h'
  by_cases hcall : StatefulCall.leases call = false
  · exact hkept (h.step_of_not_leases hcall)
  · cases call with
    | ensureBlessingLease workload nodeId io createdTs updatedTs =>
      simp only [StatefulStore.step]
      rcases ensureBlessingLease_cases s workload nodeId io createdTs updatedTs
        with hw | ⟨db, hdb, hs⟩
      · exact hkept (h.withheld hw)
      · rw [hs]
        exact h.grant createdTs updatedTs hdb
    | restart => exact h.rebuild
    | _ => simp [StatefulCall.leases] at hcall

/-- A call other than a restart adds the next lease of one node at most. -/
lemma Leased.grants_step (h : Leased s log) {call : StatefulCall} (hcall : call ≠ .restart) :
    ∃ workload nodeId, ∀ g ∈ (s.step call).grants, g ∈ log ∨ g = s.nextGrant workload nodeId := by
  by_cases hl : StatefulCall.leases call = false
  · exact ⟨"", "", fun g hg => .inl ((h.step_of_not_leases hl).entered g hg)⟩
  · cases call with
    | ensureBlessingLease workload nodeId io createdTs updatedTs =>
      refine ⟨workload, nodeId, fun g hg => ?_⟩
      simp only [StatefulStore.step] at hg
      rcases ensureBlessingLease_cases s workload nodeId io createdTs updatedTs
        with hw | ⟨db, hdb, hs⟩
      · exact .inl ((h.withheld hw).entered g hg)
      · rw [hs] at hg
        exact (mem_grants_putLease hg).imp_left (h.entered g)
    | restart => exact absurd rfl hcall
    | _ => simp [StatefulCall.leases] at hl

/-- The next lease starts past the watermark and past the reported generation. -/
lemma lt_start_nextGrant (s : StatefulStore) (workload nodeId : String) :
    s.blessingWatermark workload < (s.nextGrant workload nodeId).start ∧
      s.volumeGeneration workload < (s.nextGrant workload nodeId).start := by
  have hstart := nextBlessedGeneration_le_leaseStart s workload
  obtain ⟨hmark, hgen, -⟩ := le_nextBlessedGeneration s workload
  exact ⟨hmark.trans_le hstart, hgen.trans_le hstart⟩

end StatefulStore

open StatefulStore

/-- The store and all the leases it has held. -/
structure LeaseLedger where
  store : StatefulStore
  log : List Grant

namespace LeaseLedger

def init : LeaseLedger := ⟨StatefulStore.init, []⟩

def step (x : LeaseLedger) (call : StatefulCall) : LeaseLedger :=
  ⟨x.store.step call, (x.store.step call).enter x.log⟩

end LeaseLedger

namespace StatefulStore

variable {s : StatefulStore} {log : List Grant}

/-- Two leases are one, or of different workloads, or their ranges have no generation in common. -/
def Grant.Apart (g h : Grant) : Prop :=
  g = h ∨ (g.workload = h.workload →
    Disjoint (Set.Ico g.start g.leaseEnd) (Set.Ico h.start h.leaseEnd))

lemma Grant.Apart.symm {g h : Grant} (hg : g.Apart h) : h.Apart g :=
  hg.imp Eq.symm fun hd hw => (hd hw.symm).symm

lemma Grant.apart_of_le {g h : Grant} (hle : g.workload = h.workload → g.leaseEnd ≤ h.start) :
    g.Apart h := by
  refine .inr fun hw => ?_
  rw [Set.Ico_disjoint_Ico]
  exact (min_le_left _ _).trans ((hle hw).trans (le_max_right _ _))

/-- A restart finds only leases that were held before, or that are apart from those that were and
from each other. -/
def RestartsApart (x : LeaseLedger) : StatefulCall → Prop
  | .restart => ∀ g ∈ (rebuild x.store.db).grants, ∀ h ∈ x.log ++ (rebuild x.store.db).grants,
      g.Apart h
  | _ => True

/-- The ranges of a log are pairwise disjoint within a workload. -/
def Separate (log : List Grant) : Prop := ∀ g ∈ log, ∀ h ∈ log, g.Apart h

lemma Separate.enter (hsep : Separate log)
    (hnew : ∀ g ∈ s.grants, ∀ h ∈ log ++ s.grants, g.Apart h) : Separate (s.enter log) := by
  intro g hg h hh
  have hh' : h ∈ log ++ s.grants := List.mem_append.mpr ((mem_enter_iff s log h).mp hh)
  rcases (mem_enter_iff s log g).mp hg with hold | hgrant
  · rcases List.mem_append.mp hh' with hold' | hgrant'
    · exact hsep g hold h hold'
    · exact (hnew h hgrant' g (List.mem_append_left _ hold)).symm
  · exact hnew g hgrant h hh'

/-- One call keeps the ranges apart, when a restart finds them so. -/
lemma Separate.step {x : LeaseLedger} (hsep : Separate x.log) (hl : Leased x.store x.log)
    {call : StatefulCall} (hg : RestartsApart x call) : Separate (x.step call).log := by
  by_cases hcall : call = .restart
  · subst hcall
    exact hsep.enter hg
  · obtain ⟨workload, nodeId, hone⟩ := hl.grants_step hcall
    refine hsep.enter fun g hg g' hg' => ?_
    have hnew (g' : Grant) (hold : g' ∈ x.log) :
        (x.store.nextGrant workload nodeId).Apart g' := by
      refine (Grant.apart_of_le fun hw => ?_).symm
      have hle := hl.le_leaseStart hold
      rw [hw] at hle
      exact hle
    have hor : g' ∈ x.log ∨ g' = x.store.nextGrant workload nodeId :=
      (List.mem_append.mp hg').elim .inl (hone g')
    rcases hone g hg with hold | rfl
    · rcases hor with hold' | rfl
      · exact hsep g hold g' hold'
      · exact (hnew g hold).symm
    · rcases hor with hold' | rfl
      · exact hnew g' hold'
      · exact .inl rfl

/-- The append of the lease of `brick-a` times out and lands; the volume moves to `brick-b`. -/
def lateLeaseCalls : List StatefulCall :=
  [.createVolume "pg" ⟨some "brick-a", 1, none, none, none⟩ ⟨1, none⟩,
    .ensureBlessingLease "pg" "brick-a" ⟨2, some .timedOut⟩ 2 2,
    .upsertVolume "pg" { nodeId := some "brick-b" } ⟨⟨3, none⟩, ⟨3, none⟩, ⟨3, none⟩⟩,
    .ensureBlessingLease "pg" "brick-b" ⟨4, none⟩ 4 4, .restart]

end StatefulStore

end Homelab.Embervm
