import Homelab.Lib.Fallible
import Homelab.Lib.Table
import Homelab.Embervm.StatefulState
import Homelab.Embervm.OpLog.Tasks

/-!
# Stateful ops and their projection

The stateful side of `Embervm.OpLog.SQLite`: the ops `Embervm.StatefulStore` appends, the tables
`stateful_instances`, `volumes`, `volume_blessing`, `blessing_lease` and `checkpoint_dispatch`, and
`project/3` for the stateful kinds. `stateful_stats` is left out: it only accrues usage.

* An `UPDATE` addresses a row by its key and hits nothing when the row is absent; the two birth
  kinds insert and are refused on an id that has a row already.
* `bumpVolumeGeneration` sets the generation of an existing volume row whatever it was, and
  creates none.
-/

namespace Homelab.Embervm.OpLog

open Homelab.Lib

/-! ## Ops -/

/-- The kind of a stateful op, with the part of its payload the projection reads.
Source: `op_log.ex`, `kinds/0`; `stateful_store.ex`, the payloads -/
inductive StatefulOpKind where
  | volumeCreated (nodeId : Option String) (generation exportedGeneration : Nat)
      (sizeBytes allocatedBytes : Option Nat)
  | volumeRecoveryUpdated (nodeId : Option String) (generation exportedGeneration : Nat)
  | volumeDeleted
  | generationBlessed (generation : Nat)
  | blessingLeaseGranted (nodeId : String) (nextGeneration leaseEnd : Nat)
  | checkpointDispatched (vmId : String) (generation : Nat)
  | checkpointResolved
  | started (nodeId vmId : Option String) (generation : Nat)
  | coldBooted (nodeId vmId : Option String) (generation : Nat) (reason : Option String)
  | published (ip : Option String) (port : Option Nat) (reason : String)
  | unpublished
  | banked (snapshotRef : Option String) (generation sizeBytes : Option Nat)
  | relit (nodeId vmId : Option String) (generation : Nat)
  | evicted (reason : Option String)
  | destroying (reason : Option String)
  | destroyed (reason : Option String)
  | failed (reason : Option String)
  deriving DecidableEq, Repr

/-- An op of a stateful workload; ops about an instance name it.
Source: `op_log.ex`, `Embervm.OpLog.Op` -/
structure StatefulOp where
  /-- The kind and its payload. -/
  kind : StatefulOpKind
  /-- The tenant. -/
  tenant : String
  /-- The principal. -/
  principal : Option String
  /-- The workload. -/
  workload : String
  /-- `stateful_instance_id`. -/
  instanceId : Option String
  /-- The clock reading of the append. -/
  ts : Int
  deriving DecidableEq, Repr

/-! ## Tables -/

/-- A row of `stateful_instances`; the instance id is its key. -/
structure StatefulRow where
  tenant : String
  principal : Option String
  workload : String
  state : StatefulState
  nodeId : Option String
  vmId : Option String
  ip : Option String
  port : Option Nat
  generation : Nat
  snapshotRef : Option String
  snapshotGeneration : Option Nat
  snapshotSizeBytes : Option Nat
  createdAt : Int
  lastActiveAt : Option Int
  updatedAt : Int
  terminalReason : Option String
  deriving DecidableEq, Repr

/-- A row of `volumes`; the workload is its key. -/
structure VolumeRow where
  nodeId : Option String
  generation : Nat
  exportedGeneration : Nat
  sizeBytes : Option Nat
  allocatedBytes : Option Nat
  createdAt : Int
  updatedAt : Int
  deriving DecidableEq, Repr

/-- A row of `volume_blessing`; the workload is its key. -/
structure BlessingRow where
  blessedGeneration : Nat
  createdAt : Int
  updatedAt : Int
  deriving DecidableEq, Repr

/-- A row of `blessing_lease`; workload and node are its key. -/
structure LeaseRow where
  nextGeneration : Nat
  leaseEnd : Nat
  createdAt : Int
  updatedAt : Int
  deriving DecidableEq, Repr

/-- A row of `checkpoint_dispatch`; the workload is its key. -/
structure DispatchRow where
  vmId : String
  generation : Nat
  createdAt : Int
  updatedAt : Int
  deriving DecidableEq, Repr

/-- The tables the stateful ops project onto. -/
structure StatefulTables where
  instances : Table String StatefulRow
  volumes : Table String VolumeRow
  blessing : Table String BlessingRow
  leases : Table (String × String) LeaseRow
  dispatches : Table String DispatchRow

namespace StatefulTables

/-- The tables of a new database. -/
def empty : StatefulTables := ⟨∅, ∅, ∅, ∅, ∅⟩

variable (t : StatefulTables) (op : StatefulOp)

/-- An `UPDATE` of the op's instance; an op that names none addresses no row. -/
def updateInstance (f : StatefulRow → StatefulRow) : StatefulTables :=
  match op.instanceId with
  | none => t
  | some id => { t with instances := t.instances.update id f }

/-- Source: `sqlite.ex`, `insert_stateful_instance/3` -/
def insertStatefulInstance (state : StatefulState)
    (nodeId vmId : Option String) (generation : Nat) : Except OpLogError StatefulTables :=
  match op.instanceId with
  | none => .error .constraint
  | some id =>
    match t.instances.lookup id with
    | some _ => .error .constraint
    | none =>
      .ok { t with
        instances := t.instances.insert id
          { tenant := op.tenant, principal := op.principal, workload := op.workload,
            state := state, nodeId := nodeId, vmId := vmId, ip := none, port := none,
            generation := generation, snapshotRef := none, snapshotGeneration := none,
            snapshotSizeBytes := none, createdAt := op.ts, lastActiveAt := none,
            updatedAt := op.ts, terminalReason := none } }

/-- Source: `sqlite.ex`, `bump_volume_generation/2` -/
def bumpVolumeGeneration (generation : Nat) : StatefulTables :=
  { t with
    volumes := t.volumes.update op.workload fun row =>
      { row with generation := generation, updatedAt := op.ts } }

/-- A terminal transition: state and reason, nothing else.
Source: `sqlite.ex`, `terminate_stateful/3` -/
def terminateStateful (state : StatefulState) (reason : String) : StatefulTables :=
  t.updateInstance op fun row =>
    { row with state := state, terminalReason := some reason, updatedAt := op.ts }

/-- The write-through projection of one stateful op.
Source: `sqlite.ex`, `project/3`, the volume, blessing, checkpoint and stateful kinds -/
def project : Except OpLogError StatefulTables :=
  match op.kind with
  | .volumeCreated nodeId generation exportedGeneration sizeBytes allocatedBytes =>
    -- an upsert: `created_at` is the only column a conflict leaves alone
    .ok { t with
      volumes := t.volumes.insert op.workload
        { nodeId := nodeId, generation := generation, exportedGeneration := exportedGeneration,
          sizeBytes := sizeBytes, allocatedBytes := allocatedBytes,
          createdAt := ((t.volumes.lookup op.workload).map VolumeRow.createdAt).getD op.ts,
          updatedAt := op.ts } }
  | .volumeRecoveryUpdated nodeId generation exportedGeneration =>
    .ok { t with
      volumes := t.volumes.update op.workload fun row =>
        { row with
          nodeId := nodeId, generation := generation, exportedGeneration := exportedGeneration,
          updatedAt := op.ts } }
  | .volumeDeleted => .ok { t with volumes := t.volumes.erase op.workload }
  | .generationBlessed generation =>
    .ok { t with
      blessing := t.blessing.insert op.workload
        { blessedGeneration := generation,
          createdAt := ((t.blessing.lookup op.workload).map BlessingRow.createdAt).getD op.ts,
          updatedAt := op.ts } }
  | .blessingLeaseGranted nodeId nextGeneration leaseEnd =>
    .ok { t with
      leases := t.leases.insert (op.workload, nodeId)
        { nextGeneration := nextGeneration, leaseEnd := leaseEnd,
          createdAt :=
            ((t.leases.lookup (op.workload, nodeId)).map LeaseRow.createdAt).getD op.ts,
          updatedAt := op.ts } }
  | .checkpointDispatched vmId generation =>
    .ok { t with
      dispatches := t.dispatches.insert op.workload
        { vmId := vmId, generation := generation,
          createdAt := ((t.dispatches.lookup op.workload).map DispatchRow.createdAt).getD op.ts,
          updatedAt := op.ts } }
  | .checkpointResolved => .ok { t with dispatches := t.dispatches.erase op.workload }
  | .started nodeId vmId generation =>
    (t.insertStatefulInstance op .starting nodeId vmId generation).map
      fun t => t.bumpVolumeGeneration op generation
  | .coldBooted nodeId vmId generation _ =>
    (t.insertStatefulInstance op .starting nodeId vmId generation).map
      fun t => t.bumpVolumeGeneration op generation
  | .published ip port _ =>
    .ok (t.updateInstance op fun row =>
      { row with state := .serving, ip := ip, port := port, updatedAt := op.ts })
  | .unpublished => .ok (t.updateInstance op fun row => { row with updatedAt := op.ts })
  | .banked snapshotRef generation sizeBytes =>
    -- `vm_id` is not among the columns a bank writes
    .ok (t.updateInstance op fun row =>
      { row with
        state := .banked, snapshotRef := snapshotRef, snapshotGeneration := generation,
        snapshotSizeBytes := sizeBytes, ip := none, port := none, updatedAt := op.ts })
  | .relit nodeId vmId generation =>
    .ok ((t.updateInstance op fun row =>
      { row with
        state := .starting, nodeId := nodeId, vmId := vmId, generation := generation,
        snapshotRef := none, snapshotGeneration := none,
        updatedAt := op.ts }).bumpVolumeGeneration op generation)
  | .evicted reason => .ok (t.terminateStateful op .evicted (reason.getD "evicted"))
  | .destroying _ =>
    .ok (t.updateInstance op fun row =>
      { row with state := .destroying, updatedAt := op.ts })
  | .destroyed reason => .ok (t.terminateStateful op .destroyed (reason.getD "destroyed"))
  | .failed reason => .ok (t.terminateStateful op .failed (reason.getD "failed"))

/-- Append a stateful op.
Source: `sqlite.ex`, `do_append/2` -/
def append (fault : Option AppendFault) : Except (OpLogError × StatefulTables) StatefulTables :=
  answered t (t.project op) fault

/-! ## Retention -/

/-- A terminal row past the retention cutoff. -/
def aged (cutoff : Int) (row : StatefulRow) : Bool :=
  row.state.terminal && row.updatedAt < cutoff

/-- The rows a retention batch deletes, at most `batch` in the order of the scan.
Source: `sqlite.ex`, `delete_terminal_stateful_instances/4` -/
def prune (cutoff : Int) (batch : Nat) (scan : List String) : StatefulTables :=
  { t with instances := t.instances.deleteLimit (fun _ row => aged cutoff row) batch scan }

end StatefulTables

/-! ## What an op writes -/

/-- The tables of the stateful projection. -/
inductive StatefulTable where
  | instances
  | volumes
  | blessing
  | leases
  | dispatches
  deriving DecidableEq, Repr

/-- The tables an op of a kind writes. -/
def StatefulOpKind.writes : StatefulOpKind → StatefulTable → Bool
  | .volumeCreated _ _ _ _ _, c | .volumeRecoveryUpdated _ _ _, c | .volumeDeleted, c =>
    c = .volumes
  | .generationBlessed _, c => c = .blessing
  | .blessingLeaseGranted _ _ _, c => c = .leases
  | .checkpointDispatched _ _, c | .checkpointResolved, c => c = .dispatches
  | .started _ _ _, c | .coldBooted _ _ _ _, c | .relit _ _ _, c => c = .instances || c = .volumes
  | .published _ _ _, c | .unpublished, c | .banked _ _ _, c | .evicted _, c | .destroying _, c
  | .destroyed _, c | .failed _, c => c = .instances

/-- What an op of a kind sets in the row of its instance. -/
def StatefulOpKind.onRow (ts : Int) (row : StatefulRow) : StatefulOpKind → StatefulRow
  | .published ip port _ => { row with state := .serving, ip := ip, port := port, updatedAt := ts }
  | .unpublished => { row with updatedAt := ts }
  | .banked snapshotRef generation sizeBytes =>
    { row with
      state := .banked, snapshotRef := snapshotRef, snapshotGeneration := generation,
      snapshotSizeBytes := sizeBytes, ip := none, port := none, updatedAt := ts }
  | .relit nodeId vmId generation =>
    { row with
      state := .starting, nodeId := nodeId, vmId := vmId, generation := generation,
      snapshotRef := none, snapshotGeneration := none, updatedAt := ts }
  | .evicted reason =>
    { row with
      state := .evicted, terminalReason := some (reason.getD "evicted"), updatedAt := ts }
  | .destroying _ => { row with state := .destroying, updatedAt := ts }
  | .destroyed reason =>
    { row with
      state := .destroyed, terminalReason := some (reason.getD "destroyed"), updatedAt := ts }
  | .failed reason =>
    { row with
      state := .failed, terminalReason := some (reason.getD "failed"), updatedAt := ts }
  | _ => row

/-- The kinds that update the row of an instance. -/
def StatefulOpKind.isMove : StatefulOpKind → Bool
  | .published _ _ _ | .unpublished | .banked _ _ _ | .relit _ _ _ | .evicted _ | .destroying _
  | .destroyed _ | .failed _ => true
  | _ => false

/-! ## Frames -/

namespace StatefulTables

variable {writes : StatefulTable → Bool} {t t' : StatefulTables} {op : StatefulOp}
  {nodeId vmId : Option String} {generation : Nat}

/-- `t'` has the tables of `t` that are not among those written. -/
structure Frame (writes : StatefulTable → Bool) (t t' : StatefulTables) : Prop where
  instances : writes .instances = false → t'.instances = t.instances
  volumes : writes .volumes = false → t'.volumes = t.volumes
  blessing : writes .blessing = false → t'.blessing = t.blessing
  leases : writes .leases = false → t'.leases = t.leases
  dispatches : writes .dispatches = false → t'.dispatches = t.dispatches

lemma Frame.refl (writes : StatefulTable → Bool) (t : StatefulTables) : Frame writes t t :=
  ⟨fun _ => rfl, fun _ => rfl, fun _ => rfl, fun _ => rfl, fun _ => rfl⟩

lemma Frame.mono {writes' : StatefulTable → Bool} (h : Frame writes t t')
    (hle : ∀ c, writes c = true → writes' c = true) : Frame writes' t t' := by
  have hnot : ∀ c, writes' c = false → writes c = false := by
    intro c hc
    by_contra hne
    rw [hle c (Bool.not_eq_false _ |>.mp hne)] at hc
    simp at hc
  exact ⟨fun hc => h.instances (hnot _ hc), fun hc => h.volumes (hnot _ hc),
    fun hc => h.blessing (hnot _ hc), fun hc => h.leases (hnot _ hc),
    fun hc => h.dispatches (hnot _ hc)⟩

lemma frame_updateInstance (f : StatefulRow → StatefulRow) (h : writes .instances = true) :
    Frame writes t (t.updateInstance op f) := by
  unfold updateInstance
  rcases op.instanceId with _ | id
  · exact .refl _ _
  · refine ⟨fun hw => ?_, fun _ => rfl, fun _ => rfl, fun _ => rfl, fun _ => rfl⟩
    rw [h] at hw
    simp at hw

/-- A birth inserts a row under an id that had none, attaches the volume, and does nothing else. -/
lemma birth_eq_ok (h : (t.insertStatefulInstance op .starting nodeId vmId generation).map
      (fun t => t.bumpVolumeGeneration op generation) = .ok t') :
    ∃ id row, op.instanceId = some id ∧ t.instances.lookup id = none ∧
      t' = bumpVolumeGeneration { t with instances := t.instances.insert id row } op generation ∧
      row.state = .starting := by
  obtain ⟨t₁, hins, rfl⟩ := except_map_eq_ok.mp h
  unfold insertStatefulInstance at hins
  rcases hid : op.instanceId with _ | id
  · simp only [hid] at hins
    simp at hins
  rcases hl : t.instances.lookup id with _ | row
  · simp only [hid, hl, Except.ok.injEq] at hins
    exact ⟨id, _, rfl, hl, by rw [hins], rfl⟩
  · simp only [hid, hl] at hins
    simp at hins

lemma frame_birth (hw : writes = fun c => c = .instances || c = .volumes)
    (h : (t.insertStatefulInstance op .starting nodeId vmId generation).map
      (fun t => t.bumpVolumeGeneration op generation) = .ok t') : Frame writes t t' := by
  obtain ⟨id, row, -, -, rfl, -⟩ := birth_eq_ok h
  subst hw
  exact ⟨by simp, by simp, fun _ => rfl, fun _ => rfl, fun _ => rfl⟩

/-- **What an accepted op leaves alone**: the tables its kind does not write. -/
theorem frame_project (h : t.project op = .ok t') : Frame op.kind.writes t t' := by
  rcases op with ⟨kind, tenant, principal, workload, instanceId, ts⟩
  cases kind with
  | started nodeId vmId generation => exact frame_birth rfl h
  | coldBooted nodeId vmId generation reason => exact frame_birth rfl h
  | relit nodeId vmId generation =>
    obtain rfl := Except.ok.inj h
    have hup : Frame (StatefulOpKind.writes (.relit nodeId vmId generation)) t
        (t.updateInstance
          ⟨.relit nodeId vmId generation, tenant, principal, workload, instanceId, ts⟩
          fun row => { row with
            state := .starting, nodeId := nodeId, vmId := vmId, generation := generation,
            snapshotRef := none, snapshotGeneration := none, updatedAt := ts }) :=
      frame_updateInstance _ rfl
    exact ⟨hup.instances, by simp [StatefulOpKind.writes], hup.blessing, hup.leases,
      hup.dispatches⟩
  | published ip port reason | unpublished | banked snapshotRef generation sizeBytes
  | evicted reason | destroying reason | destroyed reason | failed reason =>
    obtain rfl := Except.ok.inj h
    exact frame_updateInstance _ rfl
  | _ =>
    obtain rfl := Except.ok.inj h
    constructor <;> simp [StatefulOpKind.writes]

/-- The instances after an accepted op that moves one of them. -/
lemma instances_project_of_isMove {id : String} (hid : op.instanceId = some id)
    (hmove : op.kind.isMove = true) (h : t.project op = .ok t') :
    t'.instances = t.instances.update id fun row => op.kind.onRow op.ts row := by
  rcases op with ⟨kind, tenant, principal, workload, instanceId, ts⟩
  obtain rfl : instanceId = some id := hid
  cases kind <;> first
    | (obtain rfl := Except.ok.inj h
       rfl)
    | simp [StatefulOpKind.isMove] at hmove

/-- What an accepted birth inserts. -/
lemma project_birth {id : String} (hid : op.instanceId = some id)
    (h : (t.insertStatefulInstance op .starting nodeId vmId generation).map
      (fun t => t.bumpVolumeGeneration op generation) = .ok t') :
    t.instances.lookup id = none ∧
      ∃ row, t'.instances = t.instances.insert id row ∧ row.state = .starting := by
  obtain ⟨id', row, hid', hnone, rfl, hrow⟩ := birth_eq_ok h
  obtain rfl := Option.some.inj (hid.symm.trans hid')
  exact ⟨hnone, row, rfl, hrow⟩

/-- An accepted op leaves the rows of the instances it does not name. -/
lemma lookup_project_of_ne {id : String} (hid : op.instanceId ≠ some id)
    (h : t.project op = .ok t') : t'.instances.lookup id = t.instances.lookup id := by
  rcases hw : op.kind.writes .instances with _ | _
  · rw [(frame_project h).instances hw]
  rcases op with ⟨kind, tenant, principal, workload, instanceId, ts⟩
  have hmoved (hmove : kind.isMove = true) :
      t'.instances.lookup id = t.instances.lookup id := by
    rcases instanceId with _ | id'
    · cases kind <;> first
        | (obtain rfl := Except.ok.inj h
           rfl)
        | simp [StatefulOpKind.isMove] at hmove
    · rw [instances_project_of_isMove rfl hmove h]
      exact Table.lookup_update_of_ne _ _ fun he => hid (congrArg some he.symm)
  have hborn {nodeId vmId : Option String} {generation : Nat}
      (h : (t.insertStatefulInstance ⟨kind, tenant, principal, workload, instanceId, ts⟩ .starting
        nodeId vmId generation).map (fun t => t.bumpVolumeGeneration
          ⟨kind, tenant, principal, workload, instanceId, ts⟩ generation) = .ok t') :
      t'.instances.lookup id = t.instances.lookup id := by
    obtain ⟨id', row, hid', -, rfl, -⟩ := birth_eq_ok h
    exact AList.lookup_insert_ne fun he => hid (hid'.trans (congrArg some he.symm))
  cases kind with
  | started nodeId vmId generation => exact hborn h
  | coldBooted nodeId vmId generation reason => exact hborn h
  | _ => first | exact hmoved rfl | simp [StatefulOpKind.writes] at hw

end StatefulTables

end Homelab.Embervm.OpLog
