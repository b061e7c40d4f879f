import Homelab.Lib.Custody
import Homelab.Lib.Run
import Homelab.Embervm.Dispatcher

/-!
# A primed VM is in one place

A primed VM serves one task or one session. The dispatcher keeps this by holding each VM in at most
one place: `custody` collects the inventory queues and the VMs of the live workers, and the VMs that
belong to sessions, and `Custody.Once` is the property.

* Drains move VMs from the inventory to workers and back and never change the custody
  (`custody_drainAll`). A deposit or an adopted report takes in a VM only if it is unknown.
* Three kinds of message put a VM somewhere without looking whether it is held elsewhere:
  `vm_primed` writes the VM into the worker's row, a session reservation or commit drops it from the
  inventory only, and a sweep takes the durable session claims as they are. `Orderly` says that such
  a message names no VM that is held elsewhere, and `once_step_iff` that this is exactly when the
  property survives.
* The rule is broken in ordinary operation. A miss worker's VM is listed as primed by its node as
  soon as the Prime succeeds, and a sweep that runs before the worker's `vm_primed` adopts it:
  `late_report_shares_vm` ends with two workers about to assign the same VM.
-/

namespace Homelab.Embervm

open Homelab.Lib Multiset

namespace Dispatcher

/-- The inventory queues and the live workers hold; the session reservations and the session claims
are withdrawn. -/
def custody (d : Dispatcher) : Custody String where
  held := d.parkedVmIds + d.workerVmIds
  withdrawn := d.sessionReservations ∪ d.claimedVmIds

variable {d : Dispatcher} {vmId : String}

lemma mem_knownVmIds :
    vmId ∈ d.knownVmIds ↔ vmId ∈ d.custody.held ∨ vmId ∈ d.custody.withdrawn := by
  simp only [knownVmIds, custody, Finset.mem_union, mem_toFinset, or_assoc]

/-! ## Moving VMs in and out of the inventory -/

/-- What is parked outside one queue. -/
def parkedElsewhere (d : Dispatcher) (nodeId wl : String) : Multiset String :=
  Table.total (d.inventory.erase (nodeId, wl)) fun q => (q : Multiset String)

lemma parkedVmIds_eq (d : Dispatcher) (nodeId wl : String) :
    d.parkedVmIds = (d.stock nodeId wl : Multiset String) + d.parkedElsewhere nodeId wl := by
  unfold parkedVmIds parkedElsewhere stock
  rw [Table.total_eq_add_erase _ _ (nodeId, wl)]
  rcases d.inventory.lookup (nodeId, wl) with _ | q <;> rfl

lemma parkedVmIds_insert (d : Dispatcher) (nodeId wl : String) (q : List String) :
    parkedVmIds { d with inventory := d.inventory.insert (nodeId, wl) q } =
      (q : Multiset String) + d.parkedElsewhere nodeId wl :=
  Table.total_insert _ _ _ _

/-- Taking the front of a queue takes one VM out of what is parked. -/
lemma parkedVmIds_pop {nodeId wl : String} {rest : List String}
    (h : d.stock nodeId wl = vmId :: rest) : d.parkedVmIds =
      vmId ::ₘ parkedVmIds { d with inventory := d.inventory.insert (nodeId, wl) rest } := by
  rw [parkedVmIds_insert, d.parkedVmIds_eq nodeId wl, h, ← cons_coe, cons_add]

/-- Adding a VM at either end of a queue adds it to what is parked. -/
lemma parkedVmIds_push {nodeId wl : String} {q : List String}
    (h : (q : Multiset String) = vmId ::ₘ (d.stock nodeId wl : Multiset String)) :
    parkedVmIds { d with inventory := d.inventory.insert (nodeId, wl) q } =
      vmId ::ₘ d.parkedVmIds := by
  rw [parkedVmIds_insert, d.parkedVmIds_eq nodeId wl, h, cons_add]

/-- A reservation returns nothing and changes nothing, or takes the front of a warm queue. -/
lemma reserveVm_cases (d : Dispatcher) (nodeId wl : String) (mode : DispatchMode) :
    d.reserveVm nodeId wl mode = (d, none) ∨
      ∃ vmId rest, mode = .warm ∧ d.stock nodeId wl = vmId :: rest ∧
        d.reserveVm nodeId wl mode =
          ({ d with inventory := d.inventory.insert (nodeId, wl) rest }, some vmId) := by
  cases mode with
  | miss => exact .inl rfl
  | warm =>
    unfold reserveVm
    rcases d.stock nodeId wl with _ | ⟨vmId, rest⟩
    · exact .inl rfl
    · exact .inr ⟨vmId, rest, rfl, rfl, rfl⟩

lemma workerVmIds_spawnAssignWorker (d : Dispatcher) (taskId pr wl nodeId : String)
    (mode : DispatchMode) (vmId : Option String) (entry : CatalogEntry) :
    (d.spawnAssignWorker taskId pr wl nodeId mode vmId entry).workerVmIds =
      (vmId.toList : Multiset String) + d.workerVmIds :=
  Registry.total_register _ _ _

/-- Filtering the inventory queues filters what is parked. -/
lemma parkedVmIds_rejectParked (d : Dispatcher) (p : String → Bool) :
    (d.rejectParked p).parkedVmIds = d.parkedVmIds.filter fun vmId => p vmId = false := by
  let keep : Multiset String →+ Multiset String :=
    { toFun := filter fun vmId => p vmId = false
      map_zero' := filter_zero _
      map_add' := filter_add _ }
  change _ = keep (d.inventory.total fun q => (q : Multiset String))
  unfold parkedVmIds rejectParked
  rw [Table.map_total, Table.total_mapVal]
  congr 1
  funext q
  change _ = filter (fun vmId => p vmId = false) (q : Multiset String)
  rw [filter_coe]
  congr 1
  exact List.filter_congr fun vmId _ => by cases p vmId <;> rfl

/-! ## Drains keep the custody -/

section Drain

variable {cfg : DispatcherConfig} {wl : String} {entry : CatalogEntry} {io : DrainIo}
  (d : Dispatcher)

/-- A committed VM moves from the inventory to its worker; a refused commit puts it back. -/
lemma custody_commitDispatch (nodeId : String) (mode : DispatchMode) (taskId pr : String) :
    (d.commitDispatch wl entry io nodeId mode taskId pr).custody = d.custody := by
  unfold commitDispatch
  rcases d.reserveVm_cases nodeId wl mode with hr | ⟨vmId, rest, rfl, hstock, hr⟩ <;> rw [hr] <;>
    dsimp only <;> split
  · unfold custody
    rw [workerVmIds_spawnAssignWorker]
    cases mode <;> simp only [Option.toList_none, coe_nil, zero_add] <;> rfl
  · cases mode <;> rfl
  · have hpop := parkedVmIds_pop hstock
    unfold custody
    rw [workerVmIds_spawnAssignWorker, hpop, cons_add, ← add_cons]
    rfl
  · have hpush := parkedVmIds_push (cons_coe vmId (stock _ nodeId wl)).symm
      (d := { d with inventory := d.inventory.insert (nodeId, wl) rest })
    unfold custody
    rw [parkedVmIds_pop hstock, ← hpush]
    rfl

lemma custody_commit (nodeId : String) (mode : DispatchMode) (taskId pr : String) :
    (d.commit wl entry io nodeId mode taskId pr).custody = d.custody := by
  unfold commit
  split
  · rfl
  · exact d.custody_commitDispatch nodeId mode taskId pr

lemma custody_drainPass : (d.drainPass cfg wl entry io).state.custody = d.custody := by
  unfold drainPass
  split
  · rfl
  split
  · rfl
  split
  · rfl
  unfold dispatchOne
  rcases d.takeNext cfg wl entry io with ⟨_ | ⟨taskId, pr⟩, fq⟩
  · dsimp only
    split
    · rfl
    split <;> rfl
  · exact custody_commit _ _ _ taskId pr

end Drain

lemma custody_drainWorkload (cfg : DispatcherConfig) (env : DrainEnv) (d : Dispatcher)
    (wl : String) : (d.drainWorkload cfg env wl).custody = d.custody := by
  unfold drainWorkload
  split
  · rfl
  · exact loop_induction (fun d' => d'.custody = d.custody)
      (fun _ d' h => (custody_drainPass d').trans h) _ _ rfl

/-- **Drains keep the custody.** -/
theorem custody_drainAll (cfg : DispatcherConfig) (env : DrainEnv) (d : Dispatcher) :
    (d.drainAll cfg env).custody = d.custody := by
  exact run_invariant (fun d' => d'.custody = d.custody)
    (fun d' wl h => (custody_drainWorkload cfg env d' wl).trans h) rfl d.queues.keys

/-! ## Taking VMs in -/

variable (d)

/-- An unknown VM may be taken in, and a known one is not. -/
lemma once_putVmIfUnknown (nodeId wl vmId : String) :
    (d.putVmIfUnknown nodeId wl vmId).custody.Once ↔ d.custody.Once := by
  unfold putVmIfUnknown
  split
  · rfl
  · next h =>
    have hunknown : vmId ∉ d.custody.held ∧ vmId ∉ d.custody.withdrawn := by
      rw [← not_or, ← mem_knownVmIds]
      exact fun hk => h (.inr hk)
    have hpush : parkedVmIds
        { d with inventory := d.inventory.insert (nodeId, wl) (d.stock nodeId wl ++ [vmId]) } =
          vmId ::ₘ d.parkedVmIds :=
      parkedVmIds_push (coe_eq_coe.mpr (List.perm_append_singleton vmId _))
    change Custody.Once ⟨parkedVmIds _ + d.workerVmIds, d.custody.withdrawn⟩ ↔ _
    rw [hpush, cons_add, Custody.once_cons_iff]
    exact ⟨fun hc => hc.2.2, fun hc => ⟨hunknown.1, hunknown.2, hc⟩⟩

lemma once_adoptVm (nodeId wl : String) (d : Dispatcher) (vmId : String) :
    (d.adoptVm nodeId wl vmId).custody.Once ↔ d.custody.Once := by
  unfold adoptVm
  split
  · rfl
  · exact once_putVmIfUnknown d nodeId wl vmId

/-- **Adoption is harmless by itself**, whatever the nodes report. -/
theorem once_adoptInventory (facts : List CapacityFacts) :
    (d.adoptInventory facts).custody.Once ↔ d.custody.Once := by
  -- three nested folds, each of which takes VMs in one by one
  refine run_invariant (fun d' : Dispatcher => d'.custody.Once ↔ d.custody.Once)
    (fun d₁ f h₁ => ?_) Iff.rfl facts
  refine Iff.trans ?_ h₁
  refine run_invariant (fun d' : Dispatcher => d'.custody.Once ↔ d₁.custody.Once)
    (fun d₂ e h₂ => ?_) Iff.rfl f.workloads.entries
  refine Iff.trans ?_ h₂
  exact run_invariant (fun d' : Dispatcher => d'.custody.Once ↔ d₂.custody.Once)
    (fun d₃ vmId h₃ => (once_adoptVm f.instanceIdOf e.1 d₃ vmId).trans h₃) Iff.rfl e.2.primedVmIds

lemma custody_doEnqueue (taskId wl pr : String) :
    (d.doEnqueue taskId wl pr).custody = d.custody := by
  unfold doEnqueue
  split <;> rfl

lemma custody_applyFailure (taskId : String) (backoff : Option Nat) :
    (d.applyFailure taskId backoff).custody = d.custody := by
  cases backoff <;> rfl

lemma custody_applyOutcome (taskId : String) (outcome : Outcome)
    (backoff : Option Nat) : (d.applyOutcome taskId outcome backoff).custody = d.custody := by
  unfold applyOutcome
  split
  · rfl
  · exact custody_applyFailure _ taskId backoff
  · exact custody_applyFailure _ taskId backoff

variable {d}

lemma custody_sweepOne (tracked : List String) (backoff : String → Option Nat) (d : Dispatcher)
    (item : BacklogItem) : (sweepOne tracked backoff d item).custody = d.custody := by
  unfold sweepOne
  cases item.state with
  | queued => exact custody_doEnqueue _ _ _ _
  | assigned | running =>
    dsimp only
    split
    · rfl
    · exact custody_applyFailure _ _ _
  | _ => rfl

/-! ## Withdrawing VMs -/

variable (h : d.custody.Once)
include h

/-- Withdrawing VMs that are first rejected from the inventory is safe exactly when no worker has
one of them. -/
lemma once_withdraw_iff {p : String → Bool} {claims w : Finset String}
    (hp : ∀ vmId, p vmId = true ↔ vmId ∈ claims) (hw : w ⊆ d.custody.withdrawn) :
    Custody.Once ⟨(d.rejectParked p).parkedVmIds + d.workerVmIds, w ∪ claims⟩ ↔
      ∀ vmId ∈ claims, vmId ∉ d.workerVmIds := by
  have hle : (d.rejectParked p).parkedVmIds + d.workerVmIds ≤ d.custody.held := by
    rw [parkedVmIds_rejectParked]
    exact add_le_add_left (filter_le _ _) _
  rw [Custody.once_union_iff, and_iff_left (h.mono hle hw)]
  refine forall₂_congr fun vmId hclaim => ?_
  rw [mem_add, not_or, parkedVmIds_rejectParked, mem_filter, (hp vmId).mpr hclaim]
  simp

/-! ## One message -/

/-- The dispatcher with one worker left out. -/
def without (d : Dispatcher) (pid : Nat) : Dispatcher :=
  { d with workers := d.workers.remove pid }

/-- A message that puts a VM somewhere without a look at the other places names none that is held
there: a worker's report names a VM unknown to the rest of the dispatcher, and what a session
reserves or commits, and the durable claims a sweep reads, are no live worker's VM. -/
def Orderly (d : Dispatcher) : DispatcherMessage → Prop
  | .vmPrimed pid vmId _ =>
    (d.workers.rows.lookup pid).isSome → vmId ∉ (d.without pid).knownVmIds
  | .reserveSessionVm vmId | .commitSessionVm vmId => vmId ≠ "" → vmId ∉ d.workerVmIds
  | .sweep io => ∀ vmId ∈ io.claims.getD d.claimedVmIds, vmId ∉ d.workerVmIds
  | _ => True

omit h in
lemma once_start (pid : Nat) : (start pid).custody.Once where
  nodup := nodup_zero
  free _ h := absurd h (Finset.notMem_empty _)

lemma once_dropVmId (vmId : String) : (d.dropVmId vmId).custody.Once := by
  refine h.mono ?_ (Finset.union_subset_union (Finset.erase_subset _ _) (Finset.erase_subset _ _))
  change (d.rejectParked (· = vmId)).parkedVmIds + d.workerVmIds ≤ _
  rw [parkedVmIds_rejectParked]
  exact add_le_add_left (filter_le _ _) _

lemma once_claim (nodeId wl : String) : (d.claim nodeId wl).2.custody.Once := by
  unfold claim
  rcases d.reserveVm_cases nodeId wl .warm with hr | ⟨vmId, rest, -, hstock, hr⟩ <;> rw [hr]
  · exact h
  · -- the VM leaves the inventory, and then nobody holds it
    have hheld : d.custody.held = vmId ::ₘ (parkedVmIds
        { d with inventory := d.inventory.insert (nodeId, wl) rest } + d.workerVmIds) := by
      rw [← cons_add, ← parkedVmIds_pop hstock]
      rfl
    have hcons : Custody.Once ⟨d.custody.held, d.custody.withdrawn⟩ := h
    rw [hheld, Custody.once_cons_iff] at hcons
    have hunion : Custody.Once ⟨_, d.custody.withdrawn ∪ {vmId}⟩ :=
      Custody.once_union_iff.mpr ⟨fun x hx => Finset.mem_singleton.mp hx ▸ hcons.1, hcons.2.2⟩
    refine hunion.mono le_rfl ?_
    change insert vmId d.sessionReservations ∪ d.claimedVmIds ⊆ d.custody.withdrawn ∪ {vmId}
    rw [Finset.insert_union, Finset.insert_eq, Finset.union_comm]
    rfl

/-- Both session calls drop the VM from the inventory and leave it withdrawn, which is safe exactly
when no worker has it; an empty id ends the process. -/
lemma once_sessionVm_iff {d' : Dispatcher} (vmId : String)
    (hheld : d'.custody.held = (d.rejectParked (· = vmId)).parkedVmIds + d.workerVmIds)
    (hwithdrawn : d'.custody.withdrawn = d.custody.withdrawn ∪ {vmId}) :
    (if vmId = "" then d.crash else d').custody.Once ↔ (vmId ≠ "" → vmId ∉ d.workerVmIds) := by
  split
  · next hempty => exact iff_of_true (once_start _) fun hne => absurd hempty hne
  · next hne =>
    have hiff : Custody.Once ⟨(d.rejectParked (· = vmId)).parkedVmIds + d.workerVmIds,
        d.custody.withdrawn ∪ {vmId}⟩ ↔ ∀ x ∈ ({vmId} : Finset String), x ∉ d.workerVmIds :=
      once_withdraw_iff h (fun x => by simp) (Finset.Subset.refl _)
    rw [← hheld, ← hwithdrawn] at hiff
    refine hiff.trans ⟨fun hw _ => hw vmId (Finset.mem_singleton_self vmId), ?_⟩
    rintro hw x hx
    rw [Finset.mem_singleton.mp hx]
    exact hw hne

omit h in
lemma withdrawn_reserveSessionVm (d : Dispatcher) (vmId : String) :
    insert vmId (d.sessionReservations.erase vmId) ∪ d.claimedVmIds.erase vmId =
      d.custody.withdrawn ∪ {vmId} := by
  ext x
  simp only [custody, Finset.mem_union, Finset.mem_insert, Finset.mem_erase, Finset.mem_singleton]
  tauto

omit h in
lemma withdrawn_commitSessionVm (d : Dispatcher) (vmId : String) :
    (d.sessionReservations.erase vmId).erase vmId ∪ insert vmId (d.claimedVmIds.erase vmId) =
      d.custody.withdrawn ∪ {vmId} := by
  ext x
  simp only [custody, Finset.mem_union, Finset.mem_insert, Finset.mem_erase, Finset.mem_singleton]
  tauto

/-- A worker that leaves takes nothing but its own VM with it. -/
lemma once_without (pid : Nat) : (d.without pid).custody.Once := by
  refine h.mono ?_ (Finset.Subset.refl _)
  change d.parkedVmIds + (d.without pid).workerVmIds ≤ d.parkedVmIds + d.workerVmIds
  unfold workerVmIds
  rw [Table.total_eq_add_erase d.workers.rows _ pid]
  exact add_le_add_right (le_add_left _ _) _

/-- A worker's report is safe exactly when nobody else has the VM it names. -/
lemma once_vmPrimed_iff (pid : Nat) (vmId nodeId : String) :
    (d.vmPrimed pid vmId nodeId).custody.Once ↔ d.Orderly (.vmPrimed pid vmId nodeId) := by
  rcases hworker : d.workers.rows.lookup pid with _ | worker
  · have hsame : (d.vmPrimed pid vmId nodeId).workerVmIds = d.workerVmIds := by
      change ((d.workers.modify pid _).rows.total _ : Multiset String) = _
      rw [Registry.rows_modify_of_none hworker]
      rfl
    have honce : (d.vmPrimed pid vmId nodeId).custody.Once := by
      refine h.mono ?_ (Finset.Subset.refl _)
      change d.parkedVmIds + (d.vmPrimed pid vmId nodeId).workerVmIds ≤ _
      rw [hsame]
      exact le_rfl
    exact iff_of_true honce (by simp [Orderly, hworker])
  · have hworkers : (d.vmPrimed pid vmId nodeId).workerVmIds =
        vmId ::ₘ (d.without pid).workerVmIds :=
      Registry.total_modify hworker _ _
    change Custody.Once ⟨d.parkedVmIds + (d.vmPrimed pid vmId nodeId).workerVmIds,
      (d.without pid).custody.withdrawn⟩ ↔ _
    rw [hworkers, add_cons, Custody.once_cons_iff, Orderly, mem_knownVmIds, not_or]
    constructor
    · rintro ⟨hheld, hwithdrawn, -⟩ -
      exact ⟨hheld, hwithdrawn⟩
    · intro hguard
      obtain ⟨hheld, hwithdrawn⟩ := hguard (by rw [hworker]; rfl)
      exact ⟨hheld, hwithdrawn, once_without h pid⟩

lemma once_finishWorker (cfg : DispatcherConfig) (pid : Nat) (outcome : Outcome)
    (backoff : Option Nat) (env : DrainEnv) :
    (d.finishWorker cfg pid outcome backoff env).custody.Once := by
  unfold finishWorker
  rcases hworker : d.workers.rows.lookup pid with _ | worker
  · exact h
  · rw [custody_drainAll]
    change ((d.without pid).applyOutcome worker.taskId outcome backoff).custody.Once
    rw [custody_applyOutcome]
    exact once_without h pid

lemma once_runSweep_iff (cfg : DispatcherConfig) (io : SweepIo) :
    (d.runSweep cfg io).custody.Once ↔ d.Orderly (.sweep io) := by
  have hrefresh : (d.refreshClaimedVmIds io.claims).custody.Once ↔ d.Orderly (.sweep io) :=
    once_withdraw_iff h (fun _ => decide_eq_true_iff) Finset.subset_union_left
  unfold runSweep
  split
  · exact hrefresh
  · next backlog _ =>
    rw [custody_drainAll, once_adoptInventory]
    have hbacklog : ∀ tracked, (backlog.foldl (sweepOne tracked io.backoff)
        (d.refreshClaimedVmIds io.claims)).custody = (d.refreshClaimedVmIds io.claims).custody :=
      fun tracked => run_invariant
        (fun d' : Dispatcher => d'.custody = (d.refreshClaimedVmIds io.claims).custody)
        (fun d' item h => (custody_sweepOne tracked io.backoff d' item).trans h) rfl backlog
    rw [hbacklog]
    exact hrefresh

/-- **One message.** From a state with every VM in one place, a message leads to such a state
exactly when it is orderly. -/
theorem once_step_iff (cfg : DispatcherConfig) (m : DispatcherMessage) :
    (d.step cfg m).custody.Once ↔ d.Orderly m := by
  cases m with
  | enqueue taskId wl pr env =>
    refine iff_of_true ?_ trivial
    rw [step, custody_drainWorkload, custody_doEnqueue]
    exact h
  | deposit nodeId wl vmId env =>
    refine iff_of_true ?_ trivial
    rw [step, custody_drainWorkload, once_putVmIfUnknown]
    exact h
  | dropVm vmId => exact iff_of_true (once_dropVmId h vmId) trivial
  | claim nodeId wl => exact iff_of_true (once_claim h nodeId wl) trivial
  | reserveSessionVm vmId => exact once_sessionVm_iff h vmId rfl (d.withdrawn_reserveSessionVm vmId)
  | commitSessionVm vmId => exact once_sessionVm_iff h vmId rfl (d.withdrawn_commitSessionVm vmId)
  | releaseSessionVm vmId =>
    refine iff_of_true ?_ trivial
    exact h.mono le_rfl (Finset.union_subset_union (Finset.erase_subset _ _)
      (Finset.Subset.refl _))
  | vmPrimed pid vmId nodeId => exact once_vmPrimed_iff h pid vmId nodeId
  | assignDone pid outcome backoff env =>
    exact iff_of_true (once_finishWorker h cfg pid outcome backoff env) trivial
  | down pid backoff env =>
    exact iff_of_true (once_finishWorker h cfg pid _ backoff env) trivial
  | retryTask taskId => exact iff_of_true h trivial
  | sweep io => exact once_runSweep_iff h cfg io

end Dispatcher

/-! ## The fleet -/

/-- A VM a node reports as primed: the instance, the workload and the VM. -/
abbrev Listing := String × String × String

/-- The dispatcher among its nodes. -/
structure Fleet where
  dispatcher : Dispatcher
  /-- The VMs that are primed on some node: their Prime has succeeded, and they have been neither
  assigned nor destroyed there. -/
  primed : List Listing

/-- What happens in the fleet. -/
inductive FleetEvent where
  /-- A Prime succeeds on a node, whoever asked for it. -/
  | primeSucceeded (nodeId wl vmId : String)
  /-- A node assigns or destroys a VM. -/
  | vmConsumed (vmId : String)
  /-- The dispatcher handles a message. -/
  | message (m : Dispatcher.DispatcherMessage)

/-- The VMs a row of the capacity table lists as primed. -/
def CapacityFacts.listings (f : CapacityFacts) : List Listing :=
  f.workloads.entries.flatMap fun e => e.2.primedVmIds.map fun vmId => (f.instanceIdOf, e.1, vmId)

namespace Fleet

/-- A fresh dispatcher, and nothing primed. -/
def init : Fleet := ⟨.init, []⟩

/-- The fleet after an event. -/
def step (cfg : DispatcherConfig) (s : Fleet) : FleetEvent → Fleet
  | .primeSucceeded nodeId wl vmId => { s with primed := (nodeId, wl, vmId) :: s.primed }
  | .vmConsumed vmId => { s with primed := s.primed.filter fun l => l.2.2 != vmId }
  | .message m => { s with dispatcher := s.dispatcher.step cfg m }

/-- What a sweep reads lists a VM as primed only while it is primed. -/
def Truthful (s : Fleet) : FleetEvent → Prop
  | .message (.sweep io) => ∀ f ∈ io.facts, ∀ l ∈ f.listings, l ∈ s.primed
  | _ => True

instance (s : Fleet) (e : FleetEvent) : Decidable (s.Truthful e) :=
  match e with
  | .primeSucceeded .. | .vmConsumed .. => isTrue trivial
  | .message m =>
    match m with
    | .sweep io => inferInstanceAs (Decidable (∀ f ∈ io.facts, ∀ l ∈ f.listings, l ∈ s.primed))
    | .enqueue .. | .deposit .. | .dropVm .. | .claim .. | .reserveSessionVm ..
    | .commitSessionVm .. | .releaseSessionVm .. | .vmPrimed .. | .assignDone .. | .down ..
    | .retryTask .. => isTrue trivial

/-- Every message is orderly when it is handled. -/
def Orderly (s : Fleet) : FleetEvent → Prop
  | .message m => s.dispatcher.Orderly m
  | _ => True

/-- **Single use.** In a run of the fleet, with any placement policy, any reports of the nodes and
any answers of the task store, every VM is in at most one inventory queue or live worker, and no VM
of a session is in one, in every state the run passes through, exactly when every message is orderly
when it is handled. -/
theorem vms_single_use_iff_orderly (cfg : DispatcherConfig) (events : List FleetEvent) :
    Along (step cfg) Orderly init events ↔
      ∀ n, (run (step cfg) init (events.take n)).dispatcher.custody.Once := by
  have hiff : ∀ s e, s.dispatcher.custody.Once →
      ((step cfg s e).dispatcher.custody.Once ↔ s.Orderly e) := by
    intro s e h
    cases e with
    | primeSucceeded nodeId wl vmId | vmConsumed vmId => exact iff_of_true h trivial
    | message m => exact Dispatcher.once_step_iff h cfg m
  have hinit : init.dispatcher.custody.Once := Dispatcher.once_start 0
  exact along_iff_forall_take (fun s : Fleet => s.dispatcher.custody.Once)
    (fun s : Fleet => s.dispatcher.custody.Once) (fun s e h hg => (hiff s e h).mpr hg)
    (fun _ h => h) (fun s e h hs => (hiff s e h).mp hs) hinit events

/-! ### A report that comes too late -/

/-- One brick that holds a base of workload `fn` and reports the given VMs. -/
def brick (vmIds : List String) : CapacityFacts where
  instanceId := some "node-4/pod-a"
  configuredId := "node-4"
  updatedAt := some 0
  draining := false
  workloads := AList.insert "fn" ⟨.ready, some "base-1", vmIds⟩ ∅

/-- Room for two tasks, one brick, and a task store that accepts everything. -/
def idleEnv : DrainEnv where
  catalog _ := some ⟨2, none⟩
  io _ _ :=
    { now := 0, facts := [brick []], order := fun fs _ => fs, place := fun fs _ _ => fs,
      withinQuota := fun _ => true, wall := 0, expiresAt := fun _ => none, assign := true,
      start := true }

/-- The worker of `t1` primes `vm-1`; before its report is handled, a sweep adopts the VM from the
node's own report and `t2` takes it from the inventory. -/
def lateReport : List FleetEvent :=
  [ .message (.enqueue "t1" "fn" "demos" idleEnv),
    .primeSucceeded "node-4/pod-a" "fn" "vm-1",
    .message (.sweep ⟨some ∅, some [⟨.running, "t1", "fn", "demos"⟩], fun _ => none,
      [brick ["vm-1"]], idleEnv⟩),
    .message (.enqueue "t2" "fn" "demos" idleEnv),
    .message (.vmPrimed 0 "vm-1" "node-4/pod-a") ]

/-- Two live workers hold the same VM, although every sweep read the truth. -/
theorem late_report_shares_vm : Along (step ⟨15000, none⟩) Truthful init lateReport ∧
      (run (step ⟨15000, none⟩) init lateReport).dispatcher.workerVmIds.count "vm-1" = 2 ∧
        ¬ (run (step ⟨15000, none⟩) init lateReport).dispatcher.custody.Once := by
  decide +kernel

end Fleet

end Homelab.Embervm
