import Homelab.Embervm.OpLog.Sqlite

/-!
# The stateful store: instances

`Embervm.StatefulStore`: the hot set of stateful instances over the op-log's `stateful_instances`
projection. This module has the state of the store, its rebuild, and the handlers that write
instances; the volume and blessing handlers are in `Homelab.Embervm.StatefulStore.Volumes`.

* `appendAndUpdate` is the write-through core: an append that fails leaves memory as it was. The
  tables below have moved all the same if it only timed out.
* `doMarkWithUpdates`, `adoptState` and `adoptEndpoint` write memory only; a restart forgets them.
* `start` and `coldBoot` are the only handlers that look at the other instances of a workload.
* `DurableMove` lists the durable transitions the manager and the sweeper ask for, each with the op
  it appends and the fields it merges into the row.

Each clock reading and each failed append is an argument (`AppendIo`). Where a handler folds over
the ETS table, whose order is unspecified, the order of the scan is an argument.
Sources without a file name are in `stateful_store.ex`.
-/

namespace Homelab.Embervm

open Homelab.Lib
open Homelab.Embervm.OpLog

/-! ## State -/

/-- What a node's activator last reported about a parked connection. -/
structure ActivatorPark where
  ms : Nat
  atUnixMs : Nat
  seq : Nat
  deriving DecidableEq, Repr

/-- An instance in memory; its id is the key of the table.
Source: `row_to_instance/1` and `append_start/4` -/
structure StatefulInstance where
  tenant : String
  principal : Option String
  workload : String
  state : StatefulState
  nodeId : Option String
  vmId : Option String
  ip : Option String
  port : Option Nat
  healthy : Bool
  drainReason : Option String
  generation : Option Nat
  snapshotRef : Option String
  snapshotGeneration : Option Nat
  snapshotSizeBytes : Option Nat
  createdAt : Int
  lastActiveAt : Option Int
  activatorPark : Option ActivatorPark
  /-- `checkpoint_token` and `checkpoint_generation`, once a checkpoint was taken. -/
  checkpoint : Option (String × Nat)
  destroyingEnteredAt : Option Int
  updatedAt : Int
  terminalReason : Option String
  deriving DecidableEq, Repr

/-- A map of fields to merge into an instance: `none` is a key that is absent. -/
structure InstanceUpdates where
  nodeId : Option (Option String) := none
  vmId : Option (Option String) := none
  ip : Option (Option String) := none
  port : Option (Option Nat) := none
  healthy : Option Bool := none
  drainReason : Option (Option String) := none
  generation : Option (Option Nat) := none
  snapshotRef : Option (Option String) := none
  snapshotGeneration : Option (Option Nat) := none
  snapshotSizeBytes : Option (Option Nat) := none
  activatorPark : Option ActivatorPark := none
  checkpoint : Option (String × Nat) := none
  deriving DecidableEq, Repr

/-- `Map.merge(instance, updates)`. -/
def StatefulInstance.merge (i : StatefulInstance) (u : InstanceUpdates) : StatefulInstance :=
  { i with
    nodeId := u.nodeId.getD i.nodeId
    vmId := u.vmId.getD i.vmId
    ip := u.ip.getD i.ip
    port := u.port.getD i.port
    healthy := u.healthy.getD i.healthy
    drainReason := u.drainReason.getD i.drainReason
    generation := u.generation.getD i.generation
    snapshotRef := u.snapshotRef.getD i.snapshotRef
    snapshotGeneration := u.snapshotGeneration.getD i.snapshotGeneration
    snapshotSizeBytes := u.snapshotSizeBytes.getD i.snapshotSizeBytes
    activatorPark := u.activatorPark.or i.activatorPark
    checkpoint := u.checkpoint.or i.checkpoint }

/-- A volume in memory; the workload is its key.
Source: `volume_row/1` and the `:upsert_volume` handler -/
structure Volume where
  nodeId : Option String
  generation : Nat
  /-- `none` while the key is absent. -/
  exportedGeneration : Option Nat
  sizeBytes : Option Nat
  allocatedBytes : Option Nat
  updatedAt : Int
  /-- `volume_projection_dirty`: the last durable write of the volume facts failed. -/
  projectionDirty : Bool
  /-- `volume_projection_node_id`, the anchor that write was to record. -/
  projectionNodeId : Option (Option String)
  deriving DecidableEq, Repr

/-- A fact of the blessing ledger; the workload is its key. -/
structure Blessing where
  blessedGeneration : Option Nat
  quarantined : Bool
  clearSuppressed : Bool
  deriving DecidableEq, Repr

/-- An unresolved checkpoint dispatch; the workload is its key. -/
structure CheckpointDispatch where
  vmId : String
  generation : Nat
  deriving DecidableEq, Repr

/-- The live and banked instances of a workload. -/
structure BucketCounts where
  live : Nat
  banked : Nat
  deriving DecidableEq, Repr

/-- The store: the tables it writes through and its hot set. -/
structure StatefulStore where
  db : StatefulTables
  instances : Table String StatefulInstance
  volumes : Table String Volume
  blessing : Table String Blessing
  leases : Table (String × String) LeaseRow
  dispatches : Table String CheckpointDispatch
  counts : Table String BucketCounts
  brokenStreak : Table String Nat

/-- Why a call failed. -/
inductive StatefulError where
  | notFound (instanceId : String)
  | illegalTransition (e : StatefulState.IllegalTransition)
  | alreadyLive
  | volumeChangedDuringStoreConsult
  | opLog (e : OpLogError)
  deriving DecidableEq, Repr

namespace StatefulStore

/-! ## Counts -/

/-- Source: `bucket_of/1` -/
inductive Bucket where
  | live
  | banked
  deriving DecidableEq, Repr

/-- Source: `bucket_of/1` -/
def bucketOf : Option StatefulState → Option Bucket
  | none => none
  | some .banked => some .banked
  | some .starting | some .serving | some .banking | some .checkpointed | some .relighting
  | some .coldBooting => some .live
  | some _ => none

/-- Source: `instance_table.ex`, `dec_bucket/2` -/
def decBucket (c : BucketCounts) : Option Bucket → BucketCounts
  | none => c
  | some .live => { c with live := c.live - 1 }
  | some .banked => { c with banked := c.banked - 1 }

/-- Source: `instance_table.ex`, `inc_bucket/2` -/
def incBucket (c : BucketCounts) : Option Bucket → BucketCounts
  | none => c
  | some .live => { c with live := c.live + 1 }
  | some .banked => { c with banked := c.banked + 1 }

/-- Source: `instance_table.ex`, `bump_counts/4`; `stateful_store.ex`, `bump_counts/4` -/
def bumpCounts (counts : Table String BucketCounts) (prior : Option StatefulState)
    (next : StatefulState) (workload : String) : Table String BucketCounts :=
  let c := (counts.lookup workload).getD ⟨0, 0⟩
  counts.insert workload (incBucket (decBucket c (bucketOf prior)) (bucketOf (some next)))

/-! ## Rebuild -/

/-- Source: `row_to_instance/1` -/
def rowToInstance (row : StatefulRow) : StatefulInstance where
  tenant := row.tenant
  principal := row.principal
  workload := row.workload
  state := row.state
  nodeId := row.nodeId
  vmId := row.vmId
  ip := row.ip
  port := row.port
  healthy := row.state = .serving
  drainReason := none
  generation := some row.generation
  snapshotRef := row.snapshotRef
  snapshotGeneration := row.snapshotGeneration
  snapshotSizeBytes := row.snapshotSizeBytes
  createdAt := row.createdAt
  lastActiveAt := row.lastActiveAt
  activatorPark := some ⟨0, 0, 0⟩
  checkpoint := none
  destroyingEnteredAt := if row.state = .destroying then some row.updatedAt else none
  updatedAt := row.updatedAt
  terminalReason := row.terminalReason

/-- Source: `volume_row/1` -/
def volumeRow (row : VolumeRow) : Volume where
  nodeId := row.nodeId
  generation := row.generation
  exportedGeneration := some row.exportedGeneration
  sizeBytes := row.sizeBytes
  allocatedBytes := row.allocatedBytes
  updatedAt := row.updatedAt
  projectionDirty := false
  projectionNodeId := none

variable (s : StatefulStore) (db : StatefulTables) (attrs : StartAttrs) (birth : Birth)
  (workload instanceId : String) (i : StatefulInstance) (next : StatefulState) (ts : Int)
  (scan : List String) (io : AppendIo) (volumeTs : Int)

/-- A store started on existing tables.
Source: `rebuild/1` -/
def rebuild : StatefulStore where
  db := db
  instances := db.instances.mapVal fun _ row => rowToInstance row
  volumes := db.volumes.mapVal fun _ row => volumeRow row
  blessing := db.blessing.mapVal fun _ row => ⟨some row.blessedGeneration, false, false⟩
  leases := db.leases
  dispatches := db.dispatches.mapVal fun _ row => ⟨row.vmId, row.generation⟩
  counts := db.instances.entries.foldl (fun c e => bumpCounts c none e.2.state e.2.workload) ∅
  brokenStreak := ∅

/-! ## Helpers -/

/-- The op of an act on a workload, whose principal is the workload's system owner. -/
def systemOp (kind : StatefulOpKind) (ts : Int) : StatefulOp where
  kind := kind
  tenant := "homelab"
  principal := some ("system:stateful:" ++ workload)
  workload := workload
  instanceId := none
  ts := ts

/-- Source: `instance_table.ex`, `fetch/2` -/
def fetch : Except StatefulError StatefulInstance :=
  match s.instances.lookup instanceId with
  | some i => .ok i
  | none => .error (.notFound instanceId)

/-- Source: `has_live_instance?/2` -/
def hasLiveInstance? : Bool :=
  s.instances.exists? fun _ i => i.workload = workload && i.state.live

/-- The first banked instance of the workload in the order of the scan.
Source: `banked_instance/2` -/
def bankedInstance : Option StatefulInstance :=
  scan.findSome? fun id =>
    (s.instances.lookup id).filter fun i => i.workload = workload && i.state = .banked

/-- Source: `do_pair_valid?/2` -/
def doPairValid? : Bool :=
  match s.bankedInstance workload scan, s.volumes.lookup workload with
  | some i, some v => i.snapshotGeneration = some v.generation
  | _, _ => false

/-- The workload's volume, or the row a first write to it starts from: no anchor, generation 0, no
export proof. -/
def volumeBase : Volume :=
  (s.volumes.lookup workload).getD ⟨none, 0, none, none, none, ts, false, none⟩

/-- Mirror the generation a boot or relight attached the volume at, never backwards.
Source: `bump_volume_ets/4` -/
def bumpVolumeEts (nodeId : Option String) (generation : Option Nat) (ts : Int) : StatefulStore :=
  match generation with
  | none => s
  | some generation =>
    let base := s.volumeBase workload ts
    if base.generation ≤ generation then
      { s with
        volumes := s.volumes.insert workload
          { base with
            generation := generation, nodeId := nodeId.or base.nodeId, updatedAt := ts } }
    else s

/-! ## Births -/

/-- Source: the attributes of `start/2` and `cold_boot/2` -/
structure StartAttrs where
  instanceId : String
  tenant : String
  principal : Option String
  workload : String
  nodeId : Option String
  vmId : Option String
  generation : Nat
  /-- Why a cold boot discarded warmth. -/
  reason : Option String
  deriving DecidableEq, Repr

/-- The two birth ops. -/
inductive Birth where
  | started
  | coldBooted
  deriving DecidableEq, Repr

/-- Source: the payload of `append_start/4` and `maybe_put_reason/3` -/
def birthKind : Birth → StatefulOpKind
  | .started => .started attrs.nodeId attrs.vmId attrs.generation
  | .coldBooted => .coldBooted attrs.nodeId attrs.vmId attrs.generation attrs.reason

/-- The instance a birth puts into memory. -/
def bornInstance : StatefulInstance where
  tenant := attrs.tenant
  principal := attrs.principal
  workload := attrs.workload
  state := .starting
  nodeId := attrs.nodeId
  vmId := attrs.vmId
  ip := none
  port := none
  healthy := false
  drainReason := none
  generation := some attrs.generation
  snapshotRef := none
  snapshotGeneration := none
  snapshotSizeBytes := none
  createdAt := ts
  lastActiveAt := none
  activatorPark := none
  checkpoint := none
  destroyingEnteredAt := none
  updatedAt := ts
  terminalReason := none

/-- The op of a birth. -/
def birthOp : StatefulOp :=
  ⟨birthKind attrs birth, attrs.tenant, attrs.principal, attrs.workload, some attrs.instanceId, ts⟩

/-- The store once the birth op is durable in `db`. -/
def insertBorn : StatefulStore :=
  bumpVolumeEts
    { s with
      db := db
      instances := s.instances.insert attrs.instanceId (bornInstance attrs ts)
      counts := bumpCounts s.counts none .starting attrs.workload }
    attrs.workload attrs.nodeId (some attrs.generation) volumeTs

/-- Source: `append_start/4` -/
def appendStart : Except StatefulError StatefulInstance × StatefulStore :=
  match s.db.append (birthOp attrs birth io.ts) io.fault with
  | .error (e, db) => (.error (.opLog e), { s with db := db })
  | .ok db => (.ok (bornInstance attrs io.ts), s.insertBorn db attrs io.ts volumeTs)

/-- The singleton gate, then the birth.
Source: `do_start/3` -/
def doStart : Except StatefulError StatefulInstance × StatefulStore :=
  if s.hasLiveInstance? attrs.workload then (.error .alreadyLive, s)
  else s.appendStart attrs birth io volumeTs

/-! ## Durable transitions -/

/-- The reason in an op's payload, if it has one. -/
def payloadReason : StatefulOpKind → Option String
  | .coldBooted _ _ _ reason | .evicted reason | .destroying reason | .destroyed reason
  | .failed reason => reason
  | .published _ _ reason => some reason
  | _ => none

/-- Source: `stamp_destroying_entry/3` -/
def stampDestroyingEntry : StatefulInstance :=
  if next = .destroying then { i with destroyingEnteredAt := some ts } else i

/-- Source: `post_transition_endpoint/3` -/
def postTransitionEndpoint : StatefulInstance :=
  if next.terminal || next = .banked then { i with healthy := false, ip := none, port := none }
  else i

/-- What a durable transition does to the row in memory. -/
def moved (kind : StatefulOpKind) (next : StatefulState)
    (updates : InstanceUpdates) (ts : Int) : StatefulInstance :=
  let terminalReason :=
    if next.terminal then some ((payloadReason kind).getD next.name) else i.terminalReason
  let base := { i.merge updates with
    state := next, updatedAt := ts, terminalReason := terminalReason }
  postTransitionEndpoint (stampDestroyingEntry base next ts) next

/-- The op of a durable transition. -/
def moveOp (kind : StatefulOpKind) (ts : Int) : StatefulOp :=
  ⟨kind, i.tenant, i.principal, i.workload, some instanceId, ts⟩

/-- The store once the op of a durable transition is durable in `db`; a relight attached the volume
and mirrors its generation. -/
def putMoved (kind : StatefulOpKind) (next : StatefulState) (updates : InstanceUpdates)
    (ts volumeTs : Int) : StatefulStore :=
  let s : StatefulStore :=
    { s with
      db := db
      instances := s.instances.insert instanceId (moved i kind next updates ts)
      counts := bumpCounts s.counts (some i.state) next i.workload }
  match kind with
  | .relit _ _ _ =>
    s.bumpVolumeEts i.workload (updates.nodeId.getD none) (updates.generation.getD none) volumeTs
  | _ => s

/-- The write-through core.
Source: `append_and_update/6` -/
def appendAndUpdate (kind : StatefulOpKind) (next : StatefulState) (updates : InstanceUpdates)
    (io : AppendIo) (volumeTs : Int) : Except StatefulError StatefulInstance × StatefulStore :=
  match s.db.append (moveOp instanceId i kind io.ts) io.fault with
  | .error (e, db) => (.error (.opLog e), { s with db := db })
  | .ok db =>
    (.ok (moved i kind next updates io.ts),
      s.putMoved db instanceId i kind next updates io.ts volumeTs)

/-- Source: `do_transition/6` -/
def doTransition (event : StatefulEvent) (kind : StatefulOpKind) (updates : InstanceUpdates)
    (io : AppendIo) (volumeTs : Int) : Except StatefulError StatefulInstance × StatefulStore :=
  match s.fetch instanceId with
  | .error e => (.error e, s)
  | .ok i =>
    match i.state.transition event with
    | .error e => (.error (.illegalTransition e), s)
    | .ok next => s.appendAndUpdate instanceId i kind next updates io volumeTs

/-- The durable transitions the manager and the sweeper ask for.
Source: `stateful_manager.ex` and `stateful_sweeper.ex`, the calls of
`StatefulStore.transition/6` -/
inductive DurableMove where
  | bankReady (snapshotRef : String) (sizeBytes generation : Nat) (nodeId : String)
  | commit (snapshotRef : String) (sizeBytes generation : Nat) (nodeId : String)
  | relightReady (nodeId vmId : String) (generation : Nat)
  | evict (reason : String)
  | beginDestroy (reason : String)
  | destroy (reason : String)
  | fail (reason : String)
  deriving DecidableEq, Repr

/-- The FSM event of a move. -/
def DurableMove.event : DurableMove → StatefulEvent
  | bankReady _ _ _ _ => .bankReady
  | commit _ _ _ _ => .commit
  | relightReady _ _ _ => .relightReady
  | evict _ => .evict
  | beginDestroy _ => .beginDestroy
  | destroy _ => .destroy
  | fail _ => .fail

/-- The op of a move. -/
def DurableMove.kind : DurableMove → StatefulOpKind
  | bankReady ref size generation _ | commit ref size generation _ =>
    .banked (some ref) (some generation) (some size)
  | relightReady nodeId vmId generation => .relit (some nodeId) (some vmId) generation
  | evict reason => .evicted (some reason)
  | beginDestroy reason => .destroying (some reason)
  | destroy reason => .destroyed (some reason)
  | fail reason => .failed (some reason)

/-- The fields a move merges into the row in memory. -/
def DurableMove.updates : DurableMove → InstanceUpdates
  | bankReady ref size generation nodeId | commit ref size generation nodeId =>
    { snapshotRef := some (some ref), snapshotSizeBytes := some (some size)
      snapshotGeneration := some (some generation), nodeId := some (some nodeId)
      vmId := some none }
  | relightReady nodeId vmId generation =>
    { nodeId := some (some nodeId), vmId := some (some vmId)
      generation := some (some generation) }
  | evict _ | beginDestroy _ | destroy _ | fail _ => {}

/-- Source: the `:transition` handler -/
def transition (move : DurableMove) (io : AppendIo)
    (volumeTs : Int) : Except StatefulError StatefulInstance × StatefulStore :=
  s.doTransition instanceId move.event move.kind move.updates io volumeTs

/-- Source: the `:publish` handler -/
def publish (s : StatefulStore) (instanceId ip : String) (port : Nat) (reason : String)
    (io : AppendIo) : Except StatefulError StatefulInstance × StatefulStore :=
  s.doTransition instanceId .publish (.published (some ip) (some port) reason)
    { ip := some (some ip), port := some (some port), healthy := some true
      drainReason := some none } io io.ts

/-! ## Writes in memory only -/

/-- What an ETS-only FSM move does to the row. -/
def marked (updates : InstanceUpdates) (ts : Int) : StatefulInstance :=
  stampDestroyingEntry { i.merge updates with state := next, updatedAt := ts } next ts

/-- Source: `do_mark_with_updates/4`, behind `:mark` and `:mark_with` -/
def doMarkWithUpdates (event : StatefulEvent) (updates : InstanceUpdates) (ts : Int) :
    Except StatefulError StatefulInstance × StatefulStore :=
  match s.fetch instanceId with
  | .error e => (.error e, s)
  | .ok i =>
    match i.state.transition event with
    | .error e => (.error (.illegalTransition e), s)
    | .ok next =>
      let updated := marked i next updates ts
      (.ok updated,
        { s with
          instances := s.instances.insert instanceId updated
          counts := bumpCounts s.counts (some i.state) next i.workload })

/-- Source: the `:unpublish` handler -/
def unpublish (s : StatefulStore) (instanceId reason : String) (ts : Int) :
    Except StatefulError StatefulInstance × StatefulStore :=
  s.doMarkWithUpdates instanceId .unpublish
    { healthy := some false, drainReason := some (some reason), ip := some none, port := some none }
    ts

/-- Source: the `:set_health` handler -/
def setHealth (healthy : Bool) (ts : Int) : StatefulStore :=
  { s with
    instances := s.instances.update instanceId fun i =>
      { i with healthy := healthy, updatedAt := ts } }

/-- Source: the `:touch_active` handler -/
def touchActive : StatefulStore :=
  { s with
    instances := s.instances.update instanceId fun i =>
      { i with lastActiveAt := some ts, updatedAt := ts } }

/-- The states adoption may force. -/
inductive AdoptedState where
  | serving
  | starting
  | banked
  deriving DecidableEq, Repr

def AdoptedState.state : AdoptedState → StatefulState
  | serving => .serving
  | starting => .starting
  | banked => .banked

/-- What a forced state does to the row. -/
def adopted (new : AdoptedState) (updates : InstanceUpdates) (ts : Int) : StatefulInstance :=
  match new with
  | .banked =>
    { i.merge updates with
      state := .banked, healthy := false, ip := none, port := none, vmId := none
      updatedAt := ts }
  | _ => { i.merge updates with state := new.state, updatedAt := ts }

/-- Source: the `:adopt_state` handler -/
def adoptState (new : AdoptedState) (updates : InstanceUpdates) (ts : Int) : StatefulStore :=
  match s.instances.lookup instanceId with
  | none => s
  | some i =>
    if i.state.terminal then s
    else if i.state = new.state ∧ updates = {} then s
    else
      { s with
        instances := s.instances.insert instanceId (adopted i new updates ts)
        counts :=
          if i.state = new.state then s.counts
          else bumpCounts s.counts (some i.state) new.state i.workload }

/-- A bank bundle as a node reports it. -/
structure Bundle where
  snapshotRef : String
  generation : Option Nat
  sizeBytes : Option Nat
  deriving DecidableEq, Repr

/-- The fields the adoption of a bundle merges. -/
def Bundle.updates (bundle : Bundle) (nodeId : String) : InstanceUpdates where
  snapshotRef := some (some bundle.snapshotRef)
  snapshotGeneration := some bundle.generation
  snapshotSizeBytes := some bundle.sizeBytes
  generation := some bundle.generation
  nodeId := some (some nodeId)
  vmId := some none
  drainReason := some none

/-- The op the adoption of a bundle appends. -/
def Bundle.kind (bundle : Bundle) : StatefulOpKind :=
  .banked (some bundle.snapshotRef) bundle.generation bundle.sizeBytes

/-- The reply is the adopted row, `none` for `:unchanged`.
Source: the `:adopt_banked_bundle` handler -/
def adoptBankedBundle (nodeId : String) (bundle : Bundle)
    (io : AppendIo) : Except StatefulError (Option StatefulInstance) × StatefulStore :=
  match s.instances.lookup instanceId with
  | none => (.ok none, s)
  | some i =>
    if i.state.terminal then (.ok none, s)
    else if i.state = .banked ∧ i.snapshotRef = some bundle.snapshotRef then (.ok none, s)
    else
      match s.appendAndUpdate instanceId i bundle.kind .banked (bundle.updates nodeId) io
        io.ts with
      | (.ok i, s) => (.ok (some i), s)
      | (.error e, s) => (.error e, s)

/-- Source: the `:adopt_endpoint` handler -/
def adoptEndpoint (nodeId vmId : String) (ip : Option String)
    (port : Option Nat) (healthy : Option Bool) : StatefulStore :=
  { s with
    instances := s.instances.update instanceId fun i =>
      { i with
        nodeId := some nodeId, vmId := some vmId, ip := ip, port := port
        healthy := healthy.getD i.healthy } }

/-! ## Eager eviction -/

/-- Source: `@broken_evict_threshold` -/
def brokenEvictThreshold : Nat := 3

/-- Source: `put_broken_streak/3` -/
def putBrokenStreak (streak : Nat) : StatefulStore :=
  { s with
    brokenStreak :=
      if streak = 0 then s.brokenStreak.erase instanceId
      else s.brokenStreak.insert instanceId streak }

/-- One banked instance of a sweep.
Source: the fold of `do_eager_evict_broken_pairs/1` -/
def evictIfBroken : StatefulStore :=
  if s.doPairValid? i.workload scan then s.putBrokenStreak instanceId 0
  else
    let streak := (s.brokenStreak.lookup instanceId).getD 0 + 1
    if brokenEvictThreshold ≤ streak then
      match s.appendAndUpdate instanceId i (.evicted (some "pair_broken")) .evicted {} io io.ts with
      | (.ok _, s) => s.putBrokenStreak instanceId 0
      | (.error _, s) => s.putBrokenStreak instanceId streak
    else s.putBrokenStreak instanceId streak

/-- The banked instances in the order of the scan. -/
def bankedScan : List (String × StatefulInstance) :=
  scan.dedup.filterMap fun id =>
    ((s.instances.lookup id).filter fun i => i.state = .banked).map fun i => (id, i)

/-- Source: `do_eager_evict_broken_pairs/1` -/
def eagerEvictBrokenPairs (io : String → AppendIo) : StatefulStore :=
  let banked := s.bankedScan scan
  let s := banked.foldl (fun s e => s.evictIfBroken e.1 e.2 scan (io e.1)) s
  { s with
    brokenStreak := banked.foldl
      (fun kept e =>
        match s.brokenStreak.lookup e.1 with
        | some n => kept.insert e.1 n
        | none => kept) ∅ }

end StatefulStore

end Homelab.Embervm
