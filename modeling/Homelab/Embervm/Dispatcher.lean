import Mathlib.Data.Finset.Union
import Mathlib.Data.Rat.Defs
import Mathlib.Algebra.Order.Group.Multiset
import Homelab.Lib.Loop
import Homelab.Embervm.Brick
import Homelab.Embervm.Retry
import Homelab.Embervm.Dispatcher.FairQueue

/-!
# The dispatcher

`Embervm.Dispatcher`: the process that turns queued tasks into assigns against primed VMs. It owns
the fair queues, the inventory of primed VMs, the in-flight counters and the assign workers.

* A worker is a separate process; the dispatcher sees it as a row under the worker's pid and as the
  messages it sends. `spawn_monitor` returns a pid no row has, so the rows are a `Registry`.
* What a message handler reads from outside is an argument of the message: the node capacity facts,
  the workload catalog, the clocks, the quota answers and the replies of the task store. The drain
  loop reads them afresh in every iteration, so it takes them by workload and iteration
  (`DrainEnv`). How the scheduler orders bricks is one of these arguments, so everything below holds
  for any placement policy.
* The drain loop of the source recurses after each task it takes off the queue. It is a `loop` whose
  body says whether to go round again; `drainLoop_fuel` shows that its bound is no restriction.

The frontier of a miss, the in-flight memory ledger, traces and the watchdog message (which kills a
worker, and so arrives as its `DOWN`) do not touch the state modelled here and are left out.
Sources without a file name are in `dispatcher.ex`.
-/

namespace Homelab.Embervm

open Homelab.Lib

/-! ## What the dispatcher reads -/

/-- What a node reports about one workload. -/
structure WorkloadCapacity where
  baseState : BaseState
  snapshotRef : Option String
  primedVmIds : List String

/-- A row of the capacity table.
Source: `node_capacity.ex`; the fields the scheduler reads are left to the placement policy -/
structure CapacityFacts where
  instanceId : Option String
  configuredId : String
  updatedAt : Option Int
  draining : Bool
  workloads : Table String WorkloadCapacity

namespace CapacityFacts

variable (f : CapacityFacts)

/-- Source: `instance_id_of/1` -/
def instanceIdOf : String := f.instanceId.getD f.configuredId

/-- Source: `stale?/3` -/
def stale? (now staleAfter : Int) : Bool :=
  staleAfter < now - f.updatedAt.getD 0

/-- Source: `base_ready?/2` -/
def baseReady? (wl : String) : Bool :=
  match f.workloads.lookup wl with
  | some wc => wc.baseState.ready? && wc.snapshotRef.any (· != "")
  | none => false

end CapacityFacts

/-- A catalog entry, as far as dispatch reads it. -/
structure CatalogEntry where
  cap : Nat
  memMib : Option Nat

/-- Options of the process.
Source: `init/1` -/
structure DispatcherConfig where
  staleAfterMs : Int
  /-- A configured share of the workload cap; a float in the source. -/
  shareFraction : Option ℚ

/-- What one iteration of the drain loop reads. -/
structure DrainIo where
  /-- The monotonic clock. -/
  now : Int
  facts : List CapacityFacts
  /-- `Scheduler.Score.order/2` -/
  order : List CapacityFacts → String → List CapacityFacts
  /-- `Scheduler.place/1`, which also reads the in-flight ledger -/
  place : List CapacityFacts → String → Nat → List CapacityFacts
  /-- `Metering.within_quota?/4` for a principal -/
  withinQuota : String → Bool
  /-- The wall clock. -/
  wall : Int
  /-- The `expires_at` the task store answers, if it answers with one. -/
  expiresAt : String → Option Int
  /-- Whether `TaskStore.assign` succeeds. -/
  assign : Bool
  /-- Whether `TaskStore.start` succeeds. -/
  start : Bool

/-- What the drains of one message read: the catalog, and per workload and iteration the rest. -/
structure DrainEnv where
  catalog : String → Option CatalogEntry
  io : String → Nat → DrainIo

/-! ## State -/

/-- How a task gets its VM. -/
inductive DispatchMode where
  /-- From the inventory. -/
  | warm
  /-- The worker primes one. -/
  | miss
  deriving DecidableEq, Repr

/-- Source: the `denials` counters -/
inductive DenialKind where
  | cap
  | principalShare
  | staleCapacity
  | noCapacity
  | quota
  | pressure
  deriving DecidableEq, Repr

/-- The row of a live assign worker.
Source: `meta` in `spawn_assign_worker/10` -/
structure WorkerMeta where
  taskId : String
  workload : String
  principal : String
  nodeId : String
  mode : DispatchMode
  /-- `none` until a miss worker reports the VM it primed. -/
  vmId : Option String
  needMib : Nat
  deriving DecidableEq, Repr

/-- Source: the dynamic state of `init/1` and the depth table -/
structure Dispatcher where
  queues : Table String FairQueue
  queuedIds : Finset String
  depth : Table (String × String) Nat
  /-- The primed VMs of each instance and workload, the next one first. -/
  inventory : Table (String × String) (List String)
  inflightWl : Table String Nat
  inflightPr : Table (String × String) Nat
  workers : Registry WorkerMeta
  retryTimers : Finset String
  denials : DenialKind → Nat
  warmHits : Nat
  misses : Nat
  adoptionVmIds : Finset String
  claimedVmIds : Finset String
  sessionReservations : Finset String

namespace Dispatcher

/-- A fresh process; the pids of its workers start at `pid`.
Source: `init/1` -/
def start (pid : Nat) : Dispatcher where
  queues := ∅
  queuedIds := ∅
  depth := ∅
  inventory := ∅
  inflightWl := ∅
  inflightPr := ∅
  workers := Registry.emptyAt pid
  retryTimers := ∅
  denials _ := 0
  warmHits := 0
  misses := 0
  adoptionVmIds := ∅
  claimedVmIds := ∅
  sessionReservations := ∅

/-- The first start. -/
def init : Dispatcher := start 0

variable (d : Dispatcher) (vmId taskId nodeId : String)

/-- A handler that raises ends the process, and the supervisor starts a fresh one. -/
def crash : Dispatcher := start d.workers.next

/-! ## The VMs the dispatcher holds -/

/-- The VMs in all inventory queues, with multiplicity. -/
def parkedVmIds : Multiset String :=
  d.inventory.total fun q => (q : Multiset String)

/-- The VMs of all live assign workers, with multiplicity. -/
def workerVmIds : Multiset String :=
  d.workers.rows.total fun worker => (worker.vmId.toList : Multiset String)

/-- Source: `known_vm_ids/1` -/
def knownVmIds : Finset String :=
  (d.parkedVmIds + d.workerVmIds).toFinset ∪ d.sessionReservations ∪ d.claimedVmIds

variable (wl : String)

/-- The inventory queue of an instance and workload. -/
def stock : List String :=
  (d.inventory.lookup (nodeId, wl)).getD []

/-- Source: `put_vm_if_unknown/4` -/
def putVmIfUnknown (vmId : String) : Dispatcher :=
  if vmId = "" ∨ vmId ∈ d.knownVmIds then d
  else { d with inventory := d.inventory.insert (nodeId, wl) (d.stock nodeId wl ++ [vmId]) }

/-- Take every VM that satisfies `p` out of the inventory queues. -/
def rejectParked (p : String → Bool) : Dispatcher :=
  { d with inventory := d.inventory.mapVal fun _ q => q.filter fun vmId => !p vmId }

/-- Source: `drop_vm_id/2` -/
def dropVmId : Dispatcher :=
  { d.rejectParked (· = vmId) with
    adoptionVmIds := d.adoptionVmIds.erase vmId
    claimedVmIds := d.claimedVmIds.erase vmId
    sessionReservations := d.sessionReservations.erase vmId }

/-- `claims` is what `claimed_vm_ids_fun` returned, `none` when it raised.
Source: `refresh_claimed_vm_ids/1` -/
def refreshClaimedVmIds (claims : Option (Finset String)) : Dispatcher :=
  let claims := claims.getD d.claimedVmIds
  { d.rejectParked (· ∈ claims) with claimedVmIds := claims }

/-! ## Counters -/

/-- Source: `bump_denial/2` -/
def bumpDenial (kind : DenialKind) : Dispatcher :=
  { d with denials := fun k => if k = kind then d.denials k + 1 else d.denials k }

/-- Source: `tally/2` -/
def tally : DispatchMode → Dispatcher
  | .warm => { d with warmHits := d.warmHits + 1 }
  | .miss => { d with misses := d.misses + 1 }

/-- Add one to a counter that starts at zero. -/
def incKey {κ : Type} [DecidableEq κ] (t : Table κ Nat) (k : κ) : Table κ Nat :=
  t.insert k ((t.lookup k).getD 0 + 1)

/-- Source: `dec_key/2` -/
def decKey {κ : Type} [DecidableEq κ] (t : Table κ Nat) (k : κ) : Table κ Nat :=
  let n := (t.lookup k).getD 0
  if n ≤ 1 then t.erase k else t.insert k (n - 1)

/-- Source: `inc_inflight/3` -/
def incInflight (pr : String) : Dispatcher :=
  { d with inflightWl := incKey d.inflightWl wl, inflightPr := incKey d.inflightPr (wl, pr) }

/-- Source: `dec_inflight/3` -/
def decInflight (pr : String) : Dispatcher :=
  { d with inflightWl := decKey d.inflightWl wl, inflightPr := decKey d.inflightPr (wl, pr) }

/-- Source: `inflight_count/2` -/
def inflightCount : Nat := (d.inflightWl.lookup wl).getD 0

/-- Source: `release_depth/3`; the counter stops at zero -/
def releaseDepth (pr : String) : Dispatcher :=
  { d with depth := d.depth.insert (wl, pr) ((d.depth.lookup (wl, pr)).getD 0 - 1) }

/-! ## Queues -/

/-- Source: `do_enqueue/4` -/
def doEnqueue (pr : String) : Dispatcher :=
  if taskId ∈ d.queuedIds then d
  else
    { d with
      depth := incKey d.depth (wl, pr)
      queues := d.queues.insert wl
        (((d.queues.lookup wl).getD FairQueue.newFq).fqEnqueue pr taskId)
      queuedIds := insert taskId d.queuedIds }

/-- The task is no longer the dispatcher's: its depth and its slot in `queued_ids` are released. -/
def dequeue (pr : String) : Dispatcher :=
  { d.releaseDepth wl pr with queuedIds := d.queuedIds.erase taskId }

/-- Source: `fq_empty?/2` -/
def fqEmpty? : Bool :=
  match d.queues.lookup wl with
  | none => true
  | some fq => fq.fqEmptyQ?

/-- The number of tasks queued for a workload. -/
def queueDepth : Nat :=
  (d.queues.lookup wl).elim 0 FairQueue.fqDepth

/-- The principals with a queued task.
Source: `fq_principals/1` -/
def queuedPrincipals : Finset String :=
  (d.queues.lookup wl).elim ∅ FairQueue.members

/-- Source: `active_principals/2` -/
def activePrincipals : Nat :=
  let inflight := (d.inflightPr.keys.filter fun key => key.1 = wl).map Prod.snd
  (d.queuedPrincipals wl ∪ inflight.toFinset).card

/-- Source: `over_budget_principals/2` -/
def overBudgetPrincipals (io : DrainIo) : Finset String :=
  (d.queuedPrincipals wl).filter fun pr => io.withinQuota pr = false

/-- Source: `share_cap/3` -/
def shareCap (cfg : DispatcherConfig) (d : Dispatcher) (wl : String) (entry : CatalogEntry) : Nat :=
  match cfg.shareFraction with
  | some f =>
    if 0 < f then max 1 (entry.cap * f).floor.toNat
    else max 1 (entry.cap / max (d.activePrincipals wl) 1)
  | none => max 1 (entry.cap / max (d.activePrincipals wl) 1)

/-! ## Placement -/

/-- Source: `inventory_ready?/3` -/
def inventoryReady? : Bool := d.stock nodeId wl != []

/-- Source: `pick_node/3` -/
def pickNode (cfg : DispatcherConfig) (d : Dispatcher) (wl : String) (entry : CatalogEntry)
    (io : DrainIo) : Except DenialKind (String × DispatchMode) :=
  let needMib := entry.memMib.getD 0
  let withBase := io.facts.filter fun f => (f.workloads.lookup wl).isSome
  let candidates := withBase.filter fun f =>
    !f.stale? io.now cfg.staleAfterMs && !f.draining && f.baseReady? wl
  if candidates.isEmpty && !withBase.isEmpty
      && withBase.any fun f => f.stale? io.now cfg.staleAfterMs then .error .staleCapacity
  else if candidates.isEmpty then .error .noCapacity
  else
    -- a brick with a primed VM in inventory comes before any brick that has to prime one
    let warmCandidates := candidates.filter fun f => d.inventoryReady? f.instanceIdOf wl
    match io.order warmCandidates wl with
    | warm :: _ => .ok (warm.instanceIdOf, .warm)
    | [] =>
      match io.place candidates wl needMib with
      | [] => .error .noCapacity
      | f :: _ => .ok (f.instanceIdOf, .miss)

/-- A warm reservation from an empty queue degrades to a miss.
Source: `reserve_vm/4` -/
def reserveVm : DispatchMode → Dispatcher × Option String
  | .warm =>
    match d.stock nodeId wl with
    | vmId :: rest => ({ d with inventory := d.inventory.insert (nodeId, wl) rest }, some vmId)
    | [] => (d, none)
  | .miss => (d, none)

/-- Back to the front of the queue it was taken from.
Source: `return_vm/5` -/
def returnVm : DispatchMode → Option String → Dispatcher
  | .warm, some vmId =>
    { d with inventory := d.inventory.insert (nodeId, wl) (vmId :: d.stock nodeId wl) }
  | _, _ => d

/-- Source: `spawn_assign_worker/10` -/
def spawnAssignWorker (pr wl nodeId : String) (mode : DispatchMode)
    (vmId : Option String) (entry : CatalogEntry) : Dispatcher :=
  { d with
    workers := d.workers.register ⟨taskId, wl, pr, nodeId, mode, vmId, entry.memMib.getD 0⟩
    adoptionVmIds := vmId.elim d.adoptionVmIds d.adoptionVmIds.erase }

/-! ## Drain -/

section Drain

variable (cfg : DispatcherConfig) (wl : String) (entry : CatalogEntry) (io : DrainIo)
  (d : Dispatcher) (nodeId : String) (mode : DispatchMode) (taskId : String)

/-- Source: `commit_dispatch/9` -/
def commitDispatch (pr : String) : Dispatcher :=
  let (reserved, vmId) := d.reserveVm nodeId wl mode
  if io.assign && io.start then
    (((reserved.dequeue taskId wl pr).incInflight wl pr).tally mode).spawnAssignWorker
      taskId pr wl nodeId mode vmId entry
  else (reserved.returnVm nodeId wl mode vmId).dequeue taskId wl pr

/-- Source: `expired?/2` -/
def expired? : Bool := (io.expiresAt taskId).any fun exp => exp < io.wall

/-- A task past its `expires_at` is dropped before a VM is reserved for it.
Source: `commit/9` -/
def commit (pr : String) : Dispatcher :=
  if expired? io taskId then d.dequeue taskId wl pr
  else d.commitDispatch wl entry io nodeId mode taskId pr

/-- The take of `dispatch_one`; a workload without a queue has nothing to take. -/
def takeNext : Option (String × String) × FairQueue :=
  match d.queues.lookup wl with
  | none => (none, FairQueue.newFq)
  | some fq =>
    FairQueue.fqTake wl (shareCap cfg d wl entry) d.inflightPr (d.overBudgetPrincipals wl io) fq

/-- Source: `dispatch_one/7` -/
def dispatchOne : Pass Dispatcher :=
  match d.takeNext cfg wl entry io with
  | (none, fq) =>
    let taken := { d with queues := d.queues.insert wl fq }
    if taken.fqEmpty? wl then .stop taken
    else if 0 < (d.overBudgetPrincipals wl io).card then .stop (taken.bumpDenial .quota)
    else .stop (taken.bumpDenial .principalShare)
  | (some (taskId, pr), fq) =>
    let taken := { d with queues := d.queues.insert wl fq }
    .again (taken.commit wl entry io nodeId mode taskId pr)

/-- One iteration of the loop.
Source: `drain_loop/3` -/
def drainPass : Pass Dispatcher :=
  if d.fqEmpty? wl then .stop d
  else if entry.cap ≤ d.inflightCount wl then .stop (d.bumpDenial .cap)
  else
    match d.pickNode cfg wl entry io with
    | .error kind => .stop (d.bumpDenial kind)
    | .ok (nodeId, mode) => d.dispatchOne cfg wl entry io nodeId mode

end Drain

variable (cfg : DispatcherConfig)

/-- Source: `drain_loop/3` -/
def drainLoop (wl : String) (entry : CatalogEntry) (io : Nat → DrainIo)
    (d : Dispatcher) : Dispatcher :=
  loop (fun i d => d.drainPass cfg wl entry (io i)) (d.queueDepth wl + 1) 0 d

/-- Source: `drain_workload/2` -/
def drainWorkload (env : DrainEnv) (d : Dispatcher) (wl : String) : Dispatcher :=
  match env.catalog wl with
  | none => d.bumpDenial .noCapacity
  | some entry => d.drainLoop cfg wl entry (env.io wl)

/-- Source: `drain_all/1` -/
def drainAll (env : DrainEnv) (d : Dispatcher) : Dispatcher :=
  d.queues.keys.foldl (drainWorkload cfg env) d

/-! ## Worker completion -/

/-- What a worker reports.
Source: the clauses of `apply_outcome/3`; results and usage go to the task store -/
inductive Outcome where
  | succeeded
  | failed (reason : FailReason)
  deriving DecidableEq, Repr

/-- Source: `arm_retry/3` -/
def armRetry : Dispatcher :=
  { d with retryTimers := insert taskId d.retryTimers }

/-- `backoff` is the backoff `TaskStore.fail` answers, if it answers with one.
Source: `apply_failure/4` -/
def applyFailure (backoff : Option Nat) : Dispatcher :=
  match backoff with
  | some _ => d.armRetry taskId
  | none => d

/-- Source: `apply_outcome/3` -/
def applyOutcome (outcome : Outcome) (backoff : Option Nat) : Dispatcher :=
  match outcome with
  | .succeeded => d
  | .failed .capacity => (d.bumpDenial .pressure).applyFailure taskId backoff
  | .failed _ => d.applyFailure taskId backoff

/-- Source: `finish_worker/4` -/
def finishWorker (d : Dispatcher) (pid : Nat) (outcome : Outcome)
    (backoff : Option Nat) (env : DrainEnv) : Dispatcher :=
  match d.workers.rows.lookup pid with
  | none => d
  | some worker =>
    let finished := { d with workers := d.workers.remove pid }
    ((finished.applyOutcome worker.taskId outcome backoff).decInflight
      worker.workload worker.principal).drainAll cfg env

/-! ## Sweep -/

/-- A row of the task store's backlog. -/
structure BacklogItem where
  state : TaskState
  taskId : String
  workload : String
  principal : String

/-- What a sweep reads. -/
structure SweepIo where
  /-- The durable session claims, if they could be read. -/
  claims : Option (Finset String)
  backlog : Option (List BacklogItem)
  /-- The backoff `TaskStore.fail` answers for an orphan. -/
  backoff : String → Option Nat
  /-- The capacity table as `adopt_inventory` reads it. -/
  facts : List CapacityFacts
  drain : DrainEnv

/-- A retryable task without a timer is retried by the task store, which enqueues it again by a
message of its own.
Source: `sweep_one/3` -/
def sweepOne (tracked : List String) (backoff : String → Option Nat) (d : Dispatcher)
    (item : BacklogItem) : Dispatcher :=
  match item.state with
  | .queued => d.doEnqueue item.taskId item.workload item.principal
  | .assigned | .running =>
    if item.taskId ∈ tracked then d else d.applyFailure item.taskId (backoff item.taskId)
  | _ => d

/-- Source: the body of `adopt_inventory/1` for one reported VM -/
def adoptVm (wl : String) (d : Dispatcher) (vmId : String) : Dispatcher :=
  if vmId ∈ d.knownVmIds then d
  else
    { d.putVmIfUnknown nodeId wl vmId with adoptionVmIds := insert vmId d.adoptionVmIds }

/-- Source: `adopt_inventory/1` -/
def adoptInventory (facts : List CapacityFacts) : Dispatcher :=
  facts.foldl (fun d f =>
    f.workloads.entries.foldl (fun d e =>
      e.2.primedVmIds.foldl (adoptVm f.instanceIdOf e.1) d) d) d

/-- Source: `run_sweep/1` -/
def runSweep (d : Dispatcher) (io : SweepIo) : Dispatcher :=
  let d := d.refreshClaimedVmIds io.claims
  match io.backlog with
  | none => d
  | some backlog =>
    let tracked := d.workers.rows.entries.map fun e => e.2.taskId
    let swept := backlog.foldl (sweepOne tracked io.backoff) d
    (swept.adoptInventory io.facts).drainAll cfg io.drain

/-! ## Sessions and messages -/

/-- Source: `handle_call({:claim, ..})` -/
def claim (wl : String) : Option String × Dispatcher :=
  match d.reserveVm nodeId wl .warm with
  | (d', some vmId) =>
    (some vmId, { d' with sessionReservations := insert vmId d'.sessionReservations })
  | (d', none) => (none, d')

/-- No clause takes an empty id, so the call raises.
Source: `handle_call({:reserve_session_vm, ..})` -/
def reserveSessionVm : Dispatcher :=
  if vmId = "" then d.crash
  else
    let dropped := d.dropVmId vmId
    { dropped with sessionReservations := insert vmId dropped.sessionReservations }

/-- Source: `handle_call({:commit_session_vm, ..})` -/
def commitSessionVm : Dispatcher :=
  if vmId = "" then d.crash
  else
    let dropped := d.dropVmId vmId
    { dropped with
      claimedVmIds := insert vmId dropped.claimedVmIds
      sessionReservations := dropped.sessionReservations.erase vmId }

/-- Source: `handle_call({:release_session_vm, ..})` -/
def releaseSessionVm : Dispatcher :=
  { d with sessionReservations := d.sessionReservations.erase vmId }

/-- Source: `handle_info({:vm_primed, ..})` -/
def vmPrimed (pid : Nat) (vmId nodeId : String) : Dispatcher :=
  { d with workers := d.workers.modify pid fun worker =>
      { worker with vmId := some vmId, nodeId := nodeId } }

/-- One message to the dispatcher, with what its handler reads from outside. -/
inductive DispatcherMessage where
  | enqueue (taskId wl pr : String) (env : DrainEnv)
  | deposit (nodeId wl vmId : String) (env : DrainEnv)
  | dropVm (vmId : String)
  | claim (nodeId wl : String)
  | reserveSessionVm (vmId : String)
  | commitSessionVm (vmId : String)
  | releaseSessionVm (vmId : String)
  | vmPrimed (pid : Nat) (vmId nodeId : String)
  | assignDone (pid : Nat) (outcome : Outcome) (backoff : Option Nat) (env : DrainEnv)
  | down (pid : Nat) (backoff : Option Nat) (env : DrainEnv)
  | retryTask (taskId : String)
  | sweep (io : SweepIo)

/-- The state after a message.
Source: `handle_cast/2`, `handle_call/3`, `handle_info/2` -/
def step (d : Dispatcher) : DispatcherMessage → Dispatcher
  | .enqueue taskId wl pr env => (d.doEnqueue taskId wl pr).drainWorkload cfg env wl
  | .deposit nodeId wl vmId env => (d.putVmIfUnknown nodeId wl vmId).drainWorkload cfg env wl
  | .dropVm vmId => d.dropVmId vmId
  | .claim nodeId wl => (d.claim nodeId wl).2
  | .reserveSessionVm vmId => d.reserveSessionVm vmId
  | .commitSessionVm vmId => d.commitSessionVm vmId
  | .releaseSessionVm vmId => d.releaseSessionVm vmId
  | .vmPrimed pid vmId nodeId => d.vmPrimed pid vmId nodeId
  | .assignDone pid outcome backoff env => d.finishWorker cfg pid outcome backoff env
  | .down pid backoff env => d.finishWorker cfg pid (.failed .transport) backoff env
  | .retryTask taskId => { d with retryTimers := d.retryTimers.erase taskId }
  | .sweep io => d.runSweep cfg io

/-! ## The drain loop ends -/

section Fuel

variable {cfg : DispatcherConfig} {wl : String} {entry : CatalogEntry} {io : DrainIo}

/-- A reservation, its return and the start of a worker leave the queues alone. -/
lemma queues_commit (d : Dispatcher) (nodeId : String) (mode : DispatchMode) (taskId pr : String) :
    (d.commit wl entry io nodeId mode taskId pr).queues = d.queues := by
  unfold commit commitDispatch
  split
  · rfl
  · cases mode with
    | miss => dsimp only [reserveVm]; split <;> rfl
    | warm =>
      dsimp only [reserveVm]
      rcases d.stock nodeId wl with _ | ⟨vmId, rest⟩ <;> dsimp only <;> split <;> rfl

lemma fqDepth_takeNext (d : Dispatcher) :
    (d.takeNext cfg wl entry io).2.fqDepth + (d.takeNext cfg wl entry io).1.toList.length =
      d.queueDepth wl := by
  unfold takeNext queueDepth
  rcases d.queues.lookup wl with _ | fq
  · rfl
  · exact FairQueue.fqDepth_fqTake fq

/-- Going round again means a task left the queue. -/
lemma queueDepth_lt_of_again {d d' : Dispatcher} (h : d.drainPass cfg wl entry io = .again d') :
    d'.queueDepth wl < d.queueDepth wl := by
  unfold drainPass at h
  split at h
  · cases h
  split at h
  · cases h
  split at h
  · cases h
  · next nodeId mode _ =>
    have hdepth : (d.takeNext cfg wl entry io).2.fqDepth
        + (d.takeNext cfg wl entry io).1.toList.length = d.queueDepth wl := fqDepth_takeNext d
    unfold dispatchOne at h
    rcases htake : d.takeNext cfg wl entry io with ⟨_ | ⟨taskId, pr⟩, fq⟩ <;> rw [htake] at h hdepth
    · dsimp only at h
      split at h
      · cases h
      split at h <;> cases h
    · injection h with h
      subst h
      unfold queueDepth at hdepth ⊢
      rw [queues_commit, AList.lookup_insert]
      simp only [Option.elim_some, Option.toList_some, List.length_singleton] at hdepth ⊢
      omega

/-- **The bound of the drain loop is no restriction**: any larger one gives the same result, so the
loop ends because its body stops. -/
theorem drainLoop_fuel (io : Nat → DrainIo) (d : Dispatcher) (extra : Nat) :
    loop (fun i d => d.drainPass cfg wl entry (io i)) (d.queueDepth wl + 1 + extra) 0 d =
      d.drainLoop cfg wl entry io :=
  loop_fuel (fun d => d.queueDepth wl) (fun _ _ _ h => queueDepth_lt_of_again h)
    (Nat.lt_succ_self _) extra

end Fuel

end Dispatcher

end Homelab.Embervm
