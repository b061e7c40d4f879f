import Homelab.Embervm.StatefulStore.Instances

/-!
# The stateful store: volumes, blessing and leases

The volume facts of `Embervm.StatefulStore`, and the ledger that blesses volume generations.

* `upsertVolume` takes a node's report. The stored generation never goes back, the other fields take
  the report's value (the anchor `node_id` among them), and only export proof and an explicit
  re-anchor are written through.
* `updateQuarantine` is the ladder that judges an unblessed generation past the watermark:
  the control plane's own aborted checkpoint is blessed, an open checkpoint that does not match
  quarantines, the anchor's own report is adopted, any other quarantines.
* `nextBlessedGeneration`, `blessGeneration` and `ensureBlessingLease` carve the numbers of one line
  into single blessings and lease ranges. Sources without a file name are in `stateful_store.ex`.
-/

namespace Homelab.Embervm

open Homelab.Lib
open Homelab.Embervm.OpLog

namespace StatefulStore

/-! ## The blessing ledger -/

variable (base : Volume) (s : StatefulStore) (workload : String) (reported : Nat) (f : VolumeFields)
  (generation : Nat) (nodeId : String) (io : AppendIo)

/-- Source: `fetch_blessing/2` -/
def fetchBlessing : Blessing :=
  (s.blessing.lookup workload).getD ⟨none, false, false⟩

lemma fetchBlessing_insert (db : StatefulTables) (workload w : String) (fact : Blessing) :
    fetchBlessing { s with db := db, blessing := s.blessing.insert workload fact } w =
      if w = workload then fact else s.fetchBlessing w := by
  unfold fetchBlessing
  rw [Table.lookup_insert]
  split_ifs with hw
  · rfl
  · rfl

/-- Source: the `:blessing_watermark` handler -/
def blessingWatermark : Nat :=
  (s.fetchBlessing workload).blessedGeneration.getD 0

/-- Source: the `:quarantined?` handler -/
def quarantined? : Bool :=
  (s.fetchBlessing workload).quarantined

/-- The stored generation of a workload's volume, 0 without one. -/
def volumeGeneration : Nat :=
  ((s.volumes.lookup workload).map Volume.generation).getD 0

/-- The ends of the leases of a workload whose range is not empty. -/
def leaseEnds : List Nat :=
  (s.leases.entries.filter fun e =>
    e.1.1 = workload && e.2.nextGeneration < e.2.leaseEnd).map fun e => e.2.leaseEnd

/-- Source: `handle_call_next_blessed/2` -/
def nextBlessedGeneration : Nat :=
  (s.leaseEnds workload).foldl max
    (max (s.blessingWatermark workload + 1) (s.volumeGeneration workload + 1))

/-- Source: `do_bless_append/3` -/
def doBlessAppend : Except OpLogError Unit × StatefulStore :=
  match s.db.append (systemOp workload (.generationBlessed generation) io.ts) io.fault with
  | .ok db =>
    (.ok (), { s with
      db := db, blessing := s.blessing.insert workload ⟨some generation, false, false⟩ })
  | .error (e, db) => (.error e, { s with db := db })

/-- Source: `bless_generation_append/3` -/
def blessGenerationAppend : Except OpLogError Blessing × StatefulStore :=
  match s.doBlessAppend workload generation io with
  | (.ok _, s) => (.ok (s.fetchBlessing workload), s)
  | (.error e, s) => (.error e, s)

/-- A generation at or below the watermark is answered `ok` without a write.
Source: the `:bless_generation` handler -/
def blessGeneration : Except OpLogError Blessing × StatefulStore :=
  match (s.fetchBlessing workload).blessedGeneration with
  | some current =>
    if generation ≤ current then (.ok (s.fetchBlessing workload), s)
    else s.blessGenerationAppend workload generation io
  | none => s.blessGenerationAppend workload generation io

/-- Source: the `:seed_blessed_generation_if_unset` handler -/
def seedBlessedGenerationIfUnset : StatefulStore :=
  match (s.fetchBlessing workload).blessedGeneration with
  | some _ => s
  | none => { s with blessing := s.blessing.insert workload ⟨some generation, false, false⟩ }

/-! ## Leases -/

/-- Source: `@blessing_lease_size` -/
def blessingLeaseSize : Nat := 50

/-- The first generation of the next lease of a workload.
Source: `append_blessing_lease/3` -/
def leaseStart : Nat :=
  max (max (s.nextBlessedGeneration workload) (s.blessingWatermark workload + 1))
    (s.volumeGeneration workload + 1)

/-- The op of a lease. -/
def leaseOp (ts : Int) : StatefulOp :=
  systemOp workload (.blessingLeaseGranted nodeId (s.leaseStart workload)
    (s.leaseStart workload + blessingLeaseSize)) ts

/-- The store once the lease is durable in `db`. -/
def putLease (db : StatefulTables) (workload nodeId : String)
    (createdTs updatedTs : Int) : StatefulStore :=
  { s with
    db := db
    leases := s.leases.insert (workload, nodeId)
      ⟨s.leaseStart workload, s.leaseStart workload + blessingLeaseSize, createdTs, updatedTs⟩ }

/-- Source: `append_blessing_lease/3` -/
def appendBlessingLease (createdTs updatedTs : Int) : Except OpLogError Unit × StatefulStore :=
  match s.db.append (s.leaseOp workload nodeId io.ts) io.fault with
  | .ok db => (.ok (), s.putLease db workload nodeId createdTs updatedTs)
  | .error (e, db) => (.error e, { s with db := db })

/-- Source: `lease_low_or_absent?/3` -/
def leaseLowOrAbsent? : Bool :=
  match (s.leases.lookup (workload, nodeId)).filter fun r => r.nextGeneration < r.leaseEnd with
  | none => true
  | some lease =>
    lease.leaseEnd ≤ s.blessingWatermark workload ||
      lease.leaseEnd - lease.nextGeneration < 12

/-- Whether the node is the anchor of a volume that is not quarantined. -/
def mayGrantLease : Bool :=
  match s.volumes.lookup workload with
  | some v => v.nodeId = some nodeId && !s.quarantined? workload
  | none => false

/-- Source: the `:ensure_blessing_lease` handler -/
def ensureBlessingLease
    (createdTs updatedTs : Int) : Except OpLogError (Option LeaseRow) × StatefulStore :=
  if s.mayGrantLease workload nodeId && s.leaseLowOrAbsent? workload nodeId then
    match s.appendBlessingLease workload nodeId io createdTs updatedTs with
    | (.ok _, s) => (.ok (s.leases.lookup (workload, nodeId)), s)
    | (.error e, s) => (.error e, s)
  else (.ok (s.leases.lookup (workload, nodeId)), s)

/-! ## Checkpoint dispatches -/

/-- Source: the `:record_checkpoint_dispatch` handler -/
def recordCheckpointDispatch (vmId : String) (generation : Nat) (io : AppendIo) : StatefulStore :=
  match s.db.append (systemOp workload (.checkpointDispatched vmId generation) io.ts) io.fault with
  | .ok db => { s with db := db, dispatches := s.dispatches.insert workload ⟨vmId, generation⟩ }
  | .error (_, db) => { s with db := db }

/-- Source: `clear_checkpoint_dispatch_write/2` -/
def clearCheckpointDispatchWrite : StatefulStore :=
  match s.db.append (systemOp workload .checkpointResolved io.ts) io.fault with
  | .ok db => { s with db := db, dispatches := s.dispatches.erase workload }
  | .error (_, db) => { s with db := db }

/-- Source: the `:clear_checkpoint_dispatch` handler -/
def clearCheckpointDispatch : StatefulStore :=
  match s.dispatches.lookup workload with
  | none => s
  | some _ => s.clearCheckpointDispatchWrite workload io

/-! ## Quarantine -/

/-- Source: `workload_has_live_vm?/3` -/
def workloadHasLiveVm? (vmId : String) : Bool :=
  s.instances.exists? fun _ i =>
    i.workload = workload && i.vmId = some vmId && i.state.live

/-- Source: `checkpoint_abort_signature?/3` -/
def checkpointAbortSignature? : Bool :=
  match s.dispatches.lookup workload with
  | some d => reported = d.generation + 1 && s.workloadHasLiveVm? workload d.vmId
  | none => false

/-- Source: `has_checkpoint_dispatch?/2` -/
def hasCheckpointDispatch? : Bool :=
  (s.dispatches.lookup workload).isSome

/-- Write the quarantine flag, leaving the suppression marker alone. -/
def setQuarantined : StatefulStore :=
  { s with
    blessing := s.blessing.insert workload { s.fetchBlessing workload with quarantined := true } }

/-- Source: `auto_heal_checkpoint_abort/4` -/
def autoHealCheckpointAbort (bless resolve : AppendIo) : StatefulStore :=
  match s.doBlessAppend workload reported bless with
  | (.ok _, s) => s.clearCheckpointDispatchWrite workload resolve
  | (.error _, s) => s.setQuarantined workload

/-- Whether a report is unblessed and past the watermark. -/
def forwardUnblessed? (blessedOnWire : Bool) : Bool :=
  !blessedOnWire &&
    match (s.fetchBlessing workload).blessedGeneration with
    | some blessed => blessed < reported
    | none => false

/-- Whether the reporting node is the anchor; an unknown node on either side is none. -/
def fencedWriter? (reportingNode anchorNode : Option String) : Bool :=
  reportingNode.isSome && reportingNode = anchorNode

/-- Source: `update_quarantine/6` -/
def updateQuarantine (blessedOnWire : Bool)
    (reportingNode anchorNode : Option String) (bless resolve : AppendIo) : StatefulStore :=
  let fact := s.fetchBlessing workload
  if s.forwardUnblessed? workload reported blessedOnWire then
    if s.checkpointAbortSignature? workload reported then
      s.autoHealCheckpointAbort workload reported bless resolve
    else if s.hasCheckpointDispatch? workload then s.setQuarantined workload
    else if fencedWriter? reportingNode anchorNode then
      { s with blessing := s.blessing.insert workload ⟨some reported, false, false⟩ }
    else s.setQuarantined workload
  else
    let leaseShielded := fact.quarantined && blessedOnWire &&
      match fact.blessedGeneration with
      | some blessed => blessed < reported
      | none => false
    { s with
      blessing := s.blessing.insert workload
        { fact with quarantined := leaseShielded, clearSuppressed := leaseShielded } }

/-! ## Volume facts -/

/-- The fields of a volume report: `none` is a key that is absent. -/
structure VolumeFields where
  nodeId : Option String := none
  generation : Option Nat := none
  exportedGeneration : Option Nat := none
  sizeBytes : Option Nat := none
  allocatedBytes : Option Nat := none
  generationBlessed : Option Bool := none
  deriving DecidableEq, Repr

/-- `map_size(fields) == 1 and Map.has_key?(fields, :node_id)`. -/
def VolumeFields.onlyNodeId : Bool :=
  f.nodeId.isSome && f.generation.isNone && f.exportedGeneration.isNone && f.sizeBytes.isNone &&
    f.allocatedBytes.isNone && f.generationBlessed.isNone

/-- The report merged over the row: its generation is floored to the stored one. -/
def mergeVolume (ts : Int) : Volume :=
  { base with
    nodeId := f.nodeId.or base.nodeId
    generation := (f.generation.map fun g => max g base.generation).getD base.generation
    exportedGeneration := f.exportedGeneration.or base.exportedGeneration
    sizeBytes := f.sizeBytes.or base.sizeBytes
    allocatedBytes := f.allocatedBytes.or base.allocatedBytes
    updatedAt := ts }

/-- Source: `volume_projection_changed?/3` -/
def volumeProjectionChanged? (merged : Volume) (f : VolumeFields) : Bool :=
  base.projectionDirty ||
    (f.exportedGeneration.isSome &&
      base.exportedGeneration.getD 0 ≠ merged.exportedGeneration.getD 0) ||
    (0 < base.exportedGeneration.getD 0 && f.onlyNodeId && base.nodeId ≠ merged.nodeId)

/-- Source: `recovery_projection_node_id/3` -/
def recoveryProjectionNodeId (merged : Volume) (f : VolumeFields) : Option String :=
  match base.projectionNodeId with
  | some nodeId => nodeId
  | none => if f.onlyNodeId then merged.nodeId else base.nodeId.or merged.nodeId

/-- What a volume report reads from outside: the clock and the failures of the three appends it may
make. -/
structure UpsertIo where
  volume : AppendIo
  bless : AppendIo
  resolve : AppendIo

/-- The volume part of a report: merge, and write through what recovery depends on. -/
def upsertVolumeFacts : Volume × StatefulStore :=
  let base := s.volumeBase workload io.ts
  let merged := mergeVolume base f io.ts
  if volumeProjectionChanged? base merged f then
    let nodeId := recoveryProjectionNodeId base merged f
    let kind := StatefulOpKind.volumeRecoveryUpdated nodeId merged.generation
      (merged.exportedGeneration.getD 0)
    match s.db.append (systemOp workload kind io.ts) io.fault with
    | .ok db =>
      let merged := { merged with projectionDirty := false, projectionNodeId := none }
      (merged, { s with db := db, volumes := s.volumes.insert workload merged })
    | .error (_, db) =>
      let merged := { merged with projectionDirty := true, projectionNodeId := some nodeId }
      (merged, { s with db := db, volumes := s.volumes.insert workload merged })
  else (merged, { s with volumes := s.volumes.insert workload merged })

/-- The node the volume is anchored to. -/
def anchorNode : Option String :=
  (s.volumes.lookup workload).bind Volume.nodeId

/-- Source: the `:upsert_volume` handler -/
def upsertVolume (io : UpsertIo) : StatefulStore :=
  let reported := s.upsertVolumeFacts workload f io.volume
  match f.generationBlessed with
  | none => reported.2
  | some blessedOnWire =>
    -- the anchor the report is judged against is the one before the merge
    reported.2.updateQuarantine workload (f.generation.getD reported.1.generation) blessedOnWire
      f.nodeId (s.anchorNode workload) io.bless io.resolve

/-- Source: the `:adopt_exported_generation` handler -/
def adoptExportedGeneration (anchorNodeId : String) (generation : Nat)
    (io : AppendIo) : Except StatefulError Volume × StatefulStore :=
  match s.volumes.lookup workload with
  | none => (.error .volumeChangedDuringStoreConsult, s)
  | some volume =>
    if volume.nodeId ≠ some anchorNodeId then (.error .volumeChangedDuringStoreConsult, s)
    else if volume.generation = generation ∧ volume.exportedGeneration.getD 0 = generation then
      (.ok volume, s)
    else
      let kind := StatefulOpKind.volumeRecoveryUpdated (some anchorNodeId) generation generation
      match s.db.append (systemOp workload kind io.ts) io.fault with
      | .error (e, db) => (.error (.opLog e), { s with db := db })
      | .ok db =>
        let adopted : Volume :=
          { volume with
            generation := generation, exportedGeneration := some generation
            updatedAt := io.ts, projectionDirty := false, projectionNodeId := none }
        (.ok adopted, { s with db := db, volumes := s.volumes.insert workload adopted })

/-- The fields of a volume that was created. -/
structure CreateFields where
  nodeId : Option String
  generation : Nat
  exportedGeneration : Option Nat
  sizeBytes : Option Nat
  allocatedBytes : Option Nat
  deriving DecidableEq, Repr

/-- Source: the `:create_volume` handler -/
def createVolume (f : CreateFields) (io : AppendIo) : StatefulStore :=
  let kind := StatefulOpKind.volumeCreated f.nodeId f.generation (f.exportedGeneration.getD 0)
    f.sizeBytes f.allocatedBytes
  match s.db.append (systemOp workload kind io.ts) io.fault with
  | .error (_, db) => { s with db := db }
  | .ok db =>
    let base := s.volumeBase workload io.ts
    let merged : Volume :=
      { base with
        nodeId := f.nodeId, generation := f.generation, sizeBytes := f.sizeBytes
        allocatedBytes := f.allocatedBytes, updatedAt := io.ts
        exportedGeneration :=
          some ((f.exportedGeneration.or base.exportedGeneration).getD 0) }
    { s with db := db, volumes := s.volumes.insert workload merged }

/-- Source: the `:delete_volume` handler -/
def deleteVolume : StatefulStore :=
  match s.db.append (systemOp workload .volumeDeleted io.ts) io.fault with
  | .error (_, db) => { s with db := db }
  | .ok db => { s with db := db, volumes := s.volumes.erase workload }

end StatefulStore

/-! ## Runs -/

/-- A message to the store that can change it, or its restart. -/
inductive StatefulCall where
  | start (attrs : StatefulStore.StartAttrs) (birth : StatefulStore.Birth) (io : AppendIo)
      (volumeTs : Int)
  | transition (instanceId : String) (move : StatefulStore.DurableMove) (io : AppendIo)
      (volumeTs : Int)
  | publish (instanceId ip : String) (port : Nat) (reason : String) (io : AppendIo)
  | unpublish (instanceId reason : String) (ts : Int)
  | markWith (instanceId : String) (event : StatefulEvent) (updates : InstanceUpdates) (ts : Int)
  | setHealth (instanceId : String) (healthy : Bool) (ts : Int)
  | touchActive (instanceId : String) (ts : Int)
  | adoptState (instanceId : String) (new : StatefulStore.AdoptedState)
      (updates : InstanceUpdates) (ts : Int)
  | adoptBankedBundle (instanceId nodeId : String) (bundle : StatefulStore.Bundle) (io : AppendIo)
  | adoptEndpoint (instanceId nodeId vmId : String) (ip : Option String) (port : Option Nat)
      (healthy : Option Bool)
  | eagerEvictBrokenPairs (scan : List String) (io : String → AppendIo)
  | upsertVolume (workload : String) (f : StatefulStore.VolumeFields) (io : StatefulStore.UpsertIo)
  | adoptExportedGeneration (workload anchorNodeId : String) (generation : Nat) (io : AppendIo)
  | createVolume (workload : String) (f : StatefulStore.CreateFields) (io : AppendIo)
  | deleteVolume (workload : String) (io : AppendIo)
  | blessGeneration (workload : String) (generation : Nat) (io : AppendIo)
  | seedBlessedGenerationIfUnset (workload : String) (generation : Nat)
  | ensureBlessingLease (workload nodeId : String) (io : AppendIo) (createdTs updatedTs : Int)
  | recordCheckpointDispatch (workload vmId : String) (generation : Nat) (io : AppendIo)
  | clearCheckpointDispatch (workload : String) (io : AppendIo)
  /-- Not a message: a retention batch of the op-log below. -/
  | compact (cutoff : Int) (batch : Nat) (scan : List String)
  | restart

namespace StatefulStore

/-- A store on new tables. -/
def init : StatefulStore := rebuild .empty

/-- The store after one call. -/
def step (s : StatefulStore) : StatefulCall → StatefulStore
  | .start attrs birth io volumeTs => (s.doStart attrs birth io volumeTs).2
  | .transition instanceId move io volumeTs => (s.transition instanceId move io volumeTs).2
  | .publish instanceId ip port reason io => (s.publish instanceId ip port reason io).2
  | .unpublish instanceId reason ts => (s.unpublish instanceId reason ts).2
  | .markWith instanceId event updates ts => (s.doMarkWithUpdates instanceId event updates ts).2
  | .setHealth instanceId healthy ts => s.setHealth instanceId healthy ts
  | .touchActive instanceId ts => s.touchActive instanceId ts
  | .adoptState instanceId new updates ts => s.adoptState instanceId new updates ts
  | .adoptBankedBundle instanceId nodeId bundle io =>
    (s.adoptBankedBundle instanceId nodeId bundle io).2
  | .adoptEndpoint instanceId nodeId vmId ip port healthy =>
    s.adoptEndpoint instanceId nodeId vmId ip port healthy
  | .eagerEvictBrokenPairs scan io => s.eagerEvictBrokenPairs scan io
  | .upsertVolume workload f io => s.upsertVolume workload f io
  | .adoptExportedGeneration workload anchorNodeId generation io =>
    (s.adoptExportedGeneration workload anchorNodeId generation io).2
  | .createVolume workload f io => s.createVolume workload f io
  | .deleteVolume workload io => s.deleteVolume workload io
  | .blessGeneration workload generation io => (s.blessGeneration workload generation io).2
  | .seedBlessedGenerationIfUnset workload generation =>
    s.seedBlessedGenerationIfUnset workload generation
  | .ensureBlessingLease workload nodeId io createdTs updatedTs =>
    (s.ensureBlessingLease workload nodeId io createdTs updatedTs).2
  | .recordCheckpointDispatch workload vmId generation io =>
    s.recordCheckpointDispatch workload vmId generation io
  | .clearCheckpointDispatch workload io => s.clearCheckpointDispatch workload io
  | .compact cutoff batch scan => { s with db := s.db.prune cutoff batch scan }
  | .restart => rebuild s.db

end StatefulStore

end Homelab.Embervm
