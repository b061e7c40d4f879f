import Homelab.Lib.Calls
import Homelab.Noded.Stateful.Registry
import Homelab.Noded.Stateful.Driver

/-!
# Starting and stopping stateful VMs

`stateful.go`, for one workload: `StartStateful`, `StopStateful`, `ResolveStateful`, the auto-abort
of a checkpoint and `DeleteVolume`, as programs over the operations of the volume manager, the two
registries, a VM's teardown and the driver. Each of these operations is atomic, and calls interleave
between them.

* An operation that only looks at what is not modelled (admission, the image of a boot, the
  readiness of a guest) is a `check` with any outcome.
* Taps, probes, logs, exports and the reports to the control plane are left out. `Delete` of the
  volume manager holds its mutex only to look at the attach, so it is two operations here.
* After every operation the node notes whether a guest has the volume file writable (`observe`).
Sources without a file name are in `stateful.go`.
-/

namespace Homelab.Noded

open Homelab.Lib

/-- The gRPC codes of the refusals below. -/
inductive Code where
  | invalidArgument
  | failedPrecondition
  | resourceExhausted
  | internal
  | unimplemented
  | unavailable
  deriving DecidableEq, Repr

/-- The part of the daemon that has to do with one stateful workload. -/
structure StatefulNode where
  volume : Volume
  vms : StatefulRegistry
  bundles : StatefulBundleRegistry
  driver : StatefulDriver

namespace StatefulNode

/-- A daemon on a node that has never had the workload. -/
def empty : StatefulNode := ⟨.empty, ∅, ∅, .empty⟩

variable (s : StatefulNode)

/-- A guest has, or may have had, the volume file writable just now. -/
def touch : StatefulNode :=
  { s with volume.dir.vol := s.volume.dir.vol.map fun img =>
      { img with writtenAt := s.driver.moments } }

/-- Some guest has the volume file writable and is not paused. -/
def guestRuns : Bool := s.volume.dir.vol.any fun img => s.driver.runs img.id

/-- The volume file remembers when a guest last had it writable. -/
def observe : StatefulNode := if s.guestRuns then s.touch else s

@[simp] lemma observe_gen : s.observe.volume.dir.gen = s.volume.dir.gen := by
  unfold observe
  split <;> rfl

/-- Source: `statefulPendingAttachGrace`, in milliseconds -/
def pendingAttachGrace : Nat := 5 * 60 * 1000

end StatefulNode

/-! ## Operations -/

/-- What a call looks at outside the modelled state. -/
inductive Check where
  /-- The configuration, draining, the request's fields and `admit`. -/
  | admission
  /-- `refuseIfStale`. -/
  | registryStale
  /-- The scratch generation, the base and the image of a cold boot. -/
  | bootImage
  /-- `refuseIfSilenced`. -/
  | silenced
  /-- The tap of a boot. -/
  | tap
  /-- `waitStatefulReady` and the DNAT rule. -/
  | ready
  deriving DecidableEq, Repr

inductive StatefulOp where
  | check (c : Check)
  | socketDead (vmID : VmId)
  | volumeExists
  | create (sizeBytes : Nat)
  | generation
  | recordBlessed (gen : Nat)
  | bumpGeneration
  | consumeGenerationFromLease
  | applyBlessingLease (lease : BlessingLease)
  | attach
  | bind (vmID : VmId)
  | releaseOrphaned
  | detach
  | isAttached
  | removeAll
  | add (e : StatefulEntry)
  | beginStop (vmID : VmId)
  | beginDestroy (vmID : VmId)
  | allowTeardownRetry (vmID : VmId)
  | clearInFlight (vmID : VmId)
  | markCheckpointed (vmID : VmId) (token : Token)
  | setCheckpointTimer (vmID : VmId) (token : Token)
  | claimResolve (vmID : VmId) (token : Token)
  | resolveGeneration (vmID : VmId) (token : Token)
  | resumeFromCheckpoint (vmID : VmId) (gen : Nat)
  | remove (vmID : VmId)
  | byWorkload
  | tryLock (vmID : VmId)
  | unlock (vmID : VmId)
  | finish (vmID : VmId)
  | getBundle (ref : SnapshotRef)
  | bundleByWorkload
  | addBundle (b : StatefulBundleEntry)
  | removeBundleEntry (ref : SnapshotRef)
  | claimStateful
  | restoreStateful (ref : SnapshotRef)
  | release (vmID : VmId)
  | removeBundle (vmID : VmId)
  | snapshotStateful (vmID : VmId) (gen : Nat)
  | checkpointStateful (vmID : VmId) (gen : Nat)
  | resolveStatefulCommit (token : Token)
  | resolveStatefulAbort (token : Token)
  | removeStatefulBundle (ref : SnapshotRef)
  deriving DecidableEq, Repr

/-- What an operation answers. A boot answers the VM, a check the code it refuses with. -/
abbrev StatefulOp.Ans : StatefulOp → Type
  | .check _ => Option Code
  | .socketDead _ | .volumeExists | .create _ | .attach | .isAttached | .removeAll => Bool
  | .generation | .recordBlessed _ | .bumpGeneration | .resolveGeneration _ _ => Option Nat
  | .consumeGenerationFromLease => Option (List Nat)
  | .releaseOrphaned => Option Volume.OrphanReason
  | .beginStop _ | .claimResolve _ _ | .byWorkload => Option StatefulEntry
  | .beginDestroy _ => StatefulRegistry.BeginDestroy
  | .tryLock _ => StatefulRegistry.TryLock
  | .getBundle _ | .bundleByWorkload => Option StatefulBundleEntry
  | .claimStateful | .restoreStateful _ => Option VmId
  | .release _ | .removeBundle _ | .resolveStatefulAbort _ => Bool
  | .snapshotStateful _ _ | .resolveStatefulCommit _ => Option SnapshotRef
  | .checkpointStateful _ _ => Option Token
  | _ => Unit

/-- What an operation finds outside the modelled state. -/
structure StatefulIo where
  file : FileIo := {}
  driver : DriverIo := {}
  /-- What a check refuses with. -/
  refusal : Option Code := none
  socketDead : Bool := false
  /-- Whether `RemoveBundle` succeeds. -/
  removeBundle : Bool := true
  /-- What a map is read at first. -/
  pick : Nat := 0
  deriving DecidableEq, Repr

namespace StatefulNode

/-- A boot of a VM with the current volume file. One that fails may have run its guest. -/
def boot (s : StatefulNode) (io : DriverIo) : Option VmId × StatefulNode :=
  match s.volume.dir.vol with
  | none => (none, s)
  | some img =>
    if io.ok then
      let (vmID, driver) := s.driver.boot img.id
      (some vmID, { s with driver := driver })
    else (none, s.touch)

/-- A VM is restored from a bundle on disk. -/
def restore (s : StatefulNode) (ref : SnapshotRef) (io : DriverIo) : Option VmId × StatefulNode :=
  match s.driver.bundles.lookup ref with
  | none => (none, s)
  | some _ => s.boot io

/-- A boot that fails leaves the node as it was, but for what its guest may have written. -/
lemma boot_cases (s : StatefulNode) (io : DriverIo) :
    s.boot io = (none, s) ∨ s.boot io = (none, s.touch) ∨
      ∃ img, s.volume.dir.vol = some img ∧
        s.boot io = (some s.driver.nextId, { s with driver := { s.driver with
          live := s.driver.live.insert s.driver.nextId ⟨img.id, false⟩
          nextId := s.driver.nextId + 1 } }) := by
  unfold boot
  rcases s.volume.dir.vol with _ | img
  · exact .inl rfl
  · cases io.ok with
    | false => exact .inr (.inl rfl)
    | true => exact .inr (.inr ⟨img, rfl, rfl⟩)

lemma restore_cases (s : StatefulNode) (ref : SnapshotRef) (io : DriverIo) :
    s.restore ref io = (none, s) ∨
      ∃ bundle, s.driver.bundles.lookup ref = some bundle ∧ s.restore ref io = s.boot io := by
  unfold restore
  rcases s.driver.bundles.lookup ref with _ | bundle
  · exact .inl rfl
  · exact .inr ⟨bundle, rfl, rfl⟩

/-- An operation on the node, before the node looks at its guests. -/
def apply (now : Nat) (o : StatefulOp) (io : StatefulIo) (s : StatefulNode) :
    o.Ans × StatefulNode :=
  match o with
  | .check _ => (io.refusal, s)
  | .socketDead _ => (io.socketDead, s)
  | .volumeExists => (s.volume.exists?, s)
  | .create sizeBytes =>
    let (x, volume) := s.volume.create sizeBytes io.file
    (x, { s with volume := volume })
  | .generation => (s.volume.generation io.file, s)
  | .recordBlessed gen =>
    let (x, volume) := s.volume.recordBlessed gen io.file
    (x, { s with volume := volume })
  | .bumpGeneration =>
    let (x, volume) := s.volume.bumpGeneration io.file
    (x, { s with volume := volume })
  | .consumeGenerationFromLease =>
    let (x, volume) := s.volume.consumeGenerationFromLease 1 io.file
    (x, { s with volume := volume })
  | .applyBlessingLease lease =>
    ((), { s with volume := (s.volume.applyBlessingLease lease io.file).2 })
  | .attach =>
    let (x, volume) := s.volume.attach now
    (x, { s with volume := volume })
  | .bind vmID => ((), { s with volume := s.volume.bind vmID })
  | .releaseOrphaned =>
    let (x, volume) := s.volume.releaseOrphaned none pendingAttachGrace now
    (x, { s with volume := volume })
  | .detach => ((), { s with volume := s.volume.detach })
  | .isAttached => (s.volume.isAttached, s)
  | .removeAll =>
    let (x, volume) := s.volume.removeAll io.file
    (x, { s with volume := volume })
  | .add e => ((), { s with vms := s.vms.add e })
  | .beginStop vmID =>
    let (x, vms) := s.vms.beginStop vmID
    (x, { s with vms := vms })
  | .beginDestroy vmID =>
    let (x, vms) := s.vms.beginDestroy vmID
    (x, { s with vms := vms })
  | .allowTeardownRetry vmID => ((), { s with vms := s.vms.allowTeardownRetry vmID })
  | .clearInFlight vmID => ((), { s with vms := s.vms.clearInFlight vmID })
  | .markCheckpointed vmID token => ((), { s with vms := s.vms.markCheckpointed vmID token })
  | .setCheckpointTimer vmID token => ((), { s with vms := s.vms.setCheckpointTimer vmID token })
  | .claimResolve vmID token =>
    let (x, vms) := s.vms.claimResolve vmID token
    (x, { s with vms := vms })
  | .resolveGeneration vmID token => (s.vms.resolveGeneration vmID token, s)
  | .resumeFromCheckpoint vmID gen => ((), { s with vms := s.vms.resumeFromCheckpoint vmID gen })
  | .remove vmID => ((), { s with vms := s.vms.remove vmID })
  | .byWorkload => (s.vms.byWorkload io.pick, s)
  | .tryLock vmID =>
    let (x, vms) := s.vms.tryLock vmID
    (x, { s with vms := vms })
  | .unlock vmID => ((), { s with vms := s.vms.unlock vmID })
  | .finish vmID => ((), { s with vms := s.vms.finish vmID })
  | .getBundle ref => (s.bundles.lookup ref, s)
  | .bundleByWorkload => (s.bundles.byWorkload io.pick, s)
  | .addBundle b => ((), { s with bundles := s.bundles.insert b.snapshotRef b })
  | .removeBundleEntry ref => ((), { s with bundles := s.bundles.erase ref })
  | .claimStateful => s.boot io.driver
  | .restoreStateful ref => s.restore ref io.driver
  | .release vmID =>
    let (x, driver) := s.driver.release vmID io.driver.release
    (x, { s with driver := driver, vms := if x then s.vms.markReleased vmID else s.vms })
  | .removeBundle _ => (io.removeBundle, s)
  | .snapshotStateful vmID gen =>
    let (x, driver) := s.driver.snapshotStateful vmID gen io.driver
    (x, { s with driver := driver })
  | .checkpointStateful vmID gen =>
    let (x, driver) := s.driver.checkpointStateful vmID gen io.driver
    (x, { s with driver := driver })
  | .resolveStatefulCommit token =>
    let (x, driver) := s.driver.resolveStatefulCommit token io.driver
    (x, { s with driver := driver })
  | .resolveStatefulAbort token =>
    let (x, driver) := s.driver.resolveStatefulAbort token io.driver
    let s' := { s with driver := driver }
    -- a guest whose resume fails may have run
    (x, if !x && (s.driver.paused? token).isSome then s'.touch else s')
  | .removeStatefulBundle ref =>
    ((), { s with driver := s.driver.removeStatefulBundle ref io.driver })

/-- An operation on the node. -/
def exec (now : Nat) (o : StatefulOp) (io : StatefulIo) (s : StatefulNode) : o.Ans × StatefulNode :=
  ((s.apply now o io).1, (s.apply now o io).2.observe)

end StatefulNode

/-! ## Requests and replies -/

inductive StartStatefulMode where
  | fresh
  | relight
  | cold
  deriving DecidableEq, Repr

/-- The fields of a start that the programs below read. -/
structure StartStatefulRequest where
  mode : StartStatefulMode
  relightSnapshotRef : Option SnapshotRef := none
  createIfMissing : Bool := false
  volumeSizeBytes : Nat := 0
  blessedGeneration : Nat := 0
  origin : InstanceOrigin := .controlPlane
  deriving DecidableEq, Repr

inductive StopStatefulMode where
  | bank
  | destroy
  | checkpoint
  deriving DecidableEq, Repr

inductive ResolveMode where
  | commit
  | abort
  deriving DecidableEq, Repr

/-- The calls on a workload. The activator starts VMs with `start`, and a sync delivers leases. -/
inductive StatefulRequest where
  | start (req : StartStatefulRequest)
  | stop (vmID : VmId) (mode : StopStatefulMode)
  | resolve (vmID : VmId) (token : Token) (mode : ResolveMode) (blessedGeneration : Nat)
  | autoAbort (vmID : VmId) (token : Token)
  | deleteVolume
  | releaseOrphanedAttach
  | applyBlessingLease (lease : BlessingLease)
  deriving DecidableEq, Repr

/-- Source: `coldBootReasonGenerationMismatch` and its siblings -/
inductive ColdBootReason where
  | generationMismatch
  | noBundle
  | ledgerUnreadable
  deriving DecidableEq, Repr

inductive StatefulReply where
  | started (vmID : VmId) (generation : Nat) (wasRelight : Bool) (reason : Option ColdBootReason)
  | banked (ref : SnapshotRef) (generation : Nat)
  | checkpointed (token : Token) (generation : Nat)
  | teardownConfirmed
  | committed (ref : SnapshotRef) (generation : Nat)
  | aborted (generation : Nat)
  | done
  | refused (code : Code)
  deriving DecidableEq, Repr

/-! ## Programs -/

/-- What answers a call. -/
abbrev StatefulProg := Proc StatefulOp.Ans

namespace Stateful

/-- One operation. -/
abbrev perform (o : StatefulOp) : StatefulProg o.Ans := Proc.perform o

/-- How a reap ends. -/
inductive Reap where
  | completed
  | inProgress
  | failed
  deriving DecidableEq, Repr

/-- Source: the self-bump of `attachGeneration` -/
def selfBump : StatefulProg (Except Code Nat) := do
  match ← perform .bumpGeneration with
  | some gen => pure (.ok gen)
  | none => pure (.error .internal)

variable (req : StartStatefulRequest) (vmID : VmId) (token : Token) (blessedGeneration : Nat)

/-- Source: `attachGeneration` -/
def attachGeneration (activatorOrigin : Bool) : StatefulProg (Except Code Nat) :=
  if blessedGeneration > 0 then do
    match ← perform (.recordBlessed blessedGeneration) with
    | some gen => pure (.ok gen)
    | none => pure (.error .internal)
  else if activatorOrigin then do
    match ← perform (.check .silenced) with
    | some code => pure (.error code)
    | none =>
      match ← perform .consumeGenerationFromLease with
      | some (g :: _) =>
        match ← perform (.recordBlessed g) with
        | some gen => pure (.ok gen)
        | none => selfBump
      | _ => selfBump
  else pure (.error .failedPrecondition)

/-- What a reap does with the teardown's mutex, once it has tried to release the process.
Source: the cleanup of `reapStatefulEntry`, with `reapTracked` of `server.go` -/
def cleanup (gone : Bool) : StatefulProg Reap :=
  if gone then do
    let removed : Bool ← perform (.removeBundle vmID)
    if removed then
      perform .detach
      perform (.remove vmID)
      perform (.finish vmID)
      pure .completed
    else
      perform (.unlock vmID)
      pure .failed
  else do
    perform (.unlock vmID)
    pure .failed

/-- The process is released once, also when the cleanup after it is retried.
Source: `reapStatefulEntry`, with `run` of `server.go` -/
def reapStatefulEntry : StatefulProg Reap := do
  match ← perform (.tryLock vmID) with
  | .inProgress => pure .inProgress
  | .done => pure .completed
  | .locked true => cleanup vmID true
  | .locked false =>
    let gone : Bool ← perform (.release vmID)
    cleanup vmID gone

/-- The VM of a start that is not registered.
Source: `reapStateful` -/
def reapStateful : StatefulProg Unit := do
  let gone : Bool ← perform (.release vmID)
  if gone then
    let removed : Bool ← perform (.removeBundle vmID)
    if removed then perform .detach

/-- Source: `releaseOrphanedAttach` -/
def releaseOrphanedAttach : StatefulProg Unit := do
  match ← perform .byWorkload with
  | some e =>
    let dead : Bool ← perform (.socketDead e.vmID)
    if dead then
      match ← perform (.beginDestroy e.vmID) with
      | .claimed _ =>
        let _ ← reapStatefulEntry e.vmID
        pure ()
      | _ => pure ()
  | none =>
    let _ ← perform .releaseOrphaned
    pure ()

/-- Source: `finishStatefulStart` -/
def finishStatefulStart (sourceRef : Option SnapshotRef) (generation : Nat)
    (reason : Option ColdBootReason) (origin : InstanceOrigin) : StatefulProg StatefulReply := do
  match ← perform (.check .ready) with
  | some code =>
    reapStateful vmID
    pure (.refused code)
  | none =>
    perform (.bind vmID)
    perform (.add
      { vmID := vmID, generation := generation, origin := origin, snapshotRef := sourceRef })
    pure (.started vmID generation sourceRef.isSome reason)

/-- From the attach on, the two ways to boot differ in the driver's call only: the attach lock, the
generation, the tap, and the detach of every failure before the VM exists.
Source: the common part of `startStatefulRelight` and `coldBootStateful` -/
def attachAndBoot (sourceRef : Option SnapshotRef) (reason : Option ColdBootReason)
    (boot : StatefulProg (Option VmId)) : StatefulProg StatefulReply := do
  releaseOrphanedAttach
  let attached : Bool ← perform .attach
  if attached then
    match ← attachGeneration req.blessedGeneration (req.origin == .activator) with
    | .error code =>
      perform .detach
      pure (.refused code)
    | .ok gen =>
      match ← perform (.check .tap) with
      | some code =>
        perform .detach
        pure (.refused code)
      | none =>
        match ← boot with
        | none =>
          perform .detach
          pure (.refused .failedPrecondition)
        | some vmID => finishStatefulStart vmID sourceRef gen reason req.origin
  else pure (.refused .failedPrecondition)

/-- Source: `coldBootStateful` -/
def coldBootStateful (reason : Option ColdBootReason) : StatefulProg StatefulReply := do
  match ← perform (.check .bootImage) with
  | some code => pure (.refused code)
  | none => attachAndBoot req none reason (perform .claimStateful)

/-- Source: `startStatefulFresh` -/
def startStatefulFresh : StatefulProg StatefulReply := do
  match ← perform (.check .registryStale) with
  | some code => pure (.refused code)
  | none =>
    let present : Bool ← perform .volumeExists
    if present then coldBootStateful req none
    else if !req.createIfMissing then pure (.refused .failedPrecondition)
    else if req.volumeSizeBytes = 0 then pure (.refused .invalidArgument)
    else
      let created : Bool ← perform (.create req.volumeSizeBytes)
      if created then coldBootStateful req none else pure (.refused .internal)

/-- Source: `startStatefulCold` -/
def startStatefulCold : StatefulProg StatefulReply := do
  let present : Bool ← perform .volumeExists
  if present then coldBootStateful req none else pure (.refused .failedPrecondition)

/-- Why a relight does not resume its bundle.
Source: the switch of `startStatefulRelight` -/
def coldBootReason (bundle : Option StatefulBundleEntry) (volGen : Option Nat) :
    Option ColdBootReason :=
  match volGen, bundle with
  | none, _ => some .ledgerUnreadable
  | some _, none => some .noBundle
  | some gen, some b => if b.generation = gen then none else some .generationMismatch

/-- Source: `startStatefulRelight` -/
def startStatefulRelight : StatefulProg StatefulReply := do
  match req.relightSnapshotRef with
  | none => pure (.refused .invalidArgument)
  | some ref =>
    let present : Bool ← perform .volumeExists
    if present then
      let bundle : Option StatefulBundleEntry ← perform (.getBundle ref)
      let volGen : Option Nat ← perform .generation
      match coldBootReason bundle volGen with
      | some reason =>
        if bundle.isSome then
          perform (.removeStatefulBundle ref)
          perform (.removeBundleEntry ref)
        coldBootStateful req (some reason)
      | none => attachAndBoot req (some ref) none (perform (.restoreStateful ref))
    else pure (.refused .failedPrecondition)

/-- Source: `startStateful` -/
def startStateful : StatefulProg StatefulReply := do
  match ← perform (.check .admission) with
  | some code => pure (.refused code)
  | none =>
    match req.mode with
    | .fresh => startStatefulFresh req
    | .relight => startStatefulRelight req
    | .cold => startStatefulCold req

/-- Source: `recordStatefulBundle` -/
def recordStatefulBundle (ref : SnapshotRef) (generation : Nat) : StatefulProg Unit := do
  match ← perform .bundleByWorkload with
  | some prior =>
    if prior.snapshotRef ≠ ref then
      perform (.removeStatefulBundle prior.snapshotRef)
      perform (.removeBundleEntry prior.snapshotRef)
  | none => pure ()
  perform (.addBundle ⟨ref, generation⟩)

/-- A VM that the driver has torn down leaves the registry and gives its attach back.
Source: the failures of `stopStatefulBank`, `commitCheckpoint` and `abortCheckpoint` -/
def dropEntry : StatefulProg Unit := do
  perform (.remove vmID)
  perform .detach

/-- Source: `stopStatefulBank` -/
def stopStatefulBank : StatefulProg StatefulReply := do
  match ← perform (.beginStop vmID) with
  | none => pure (.refused .failedPrecondition)
  | some e =>
    match ← perform (.snapshotStateful vmID e.generation) with
    | none =>
      dropEntry vmID
      pure (.refused .failedPrecondition)
    | some ref =>
      match ← reapStatefulEntry vmID with
      | .completed =>
        recordStatefulBundle ref e.generation
        pure (.banked ref e.generation)
      | _ =>
        perform (.allowTeardownRetry vmID)
        pure (.refused .failedPrecondition)

/-- Source: `stopStatefulDestroy` -/
def stopStatefulDestroy : StatefulProg StatefulReply := do
  match ← perform (.beginDestroy vmID) with
  | .refused => pure (.refused .failedPrecondition)
  | .unknown => pure .teardownConfirmed
  | .claimed _ =>
    match ← reapStatefulEntry vmID with
    | .completed => pure .teardownConfirmed
    | .inProgress => pure (.refused .unavailable)
    | .failed => pure (.refused .internal)

/-- The token is published before its timer is armed.
Source: `stopStatefulCheckpoint` -/
def stopStatefulCheckpoint : StatefulProg StatefulReply := do
  match ← perform (.beginStop vmID) with
  | none => pure (.refused .failedPrecondition)
  | some e =>
    match ← perform (.checkpointStateful vmID e.generation) with
    | none =>
      perform (.clearInFlight vmID)
      pure (.refused .failedPrecondition)
    | some token =>
      perform (.markCheckpointed vmID token)
      perform (.setCheckpointTimer vmID token)
      pure (.checkpointed token e.generation)

/-- Source: `commitCheckpoint` -/
def commitCheckpoint (e : StatefulEntry) (token : Token) : StatefulProg StatefulReply := do
  match ← perform (.resolveStatefulCommit token) with
  | none =>
    dropEntry vmID
    pure (.refused .failedPrecondition)
  | some ref =>
    dropEntry vmID
    recordStatefulBundle ref e.generation
    pure (.committed ref e.generation)

/-- Source: `recordAbortGeneration` -/
def recordAbortGeneration : StatefulProg (Option Nat) :=
  if blessedGeneration > 0 then perform (.recordBlessed blessedGeneration)
  else perform .bumpGeneration

/-- A generation that cannot be advanced does not stop the abort.
Source: `abortCheckpoint` -/
def abortCheckpoint (e : StatefulEntry) (token : Token) (blessedGeneration : Nat) :
    StatefulProg StatefulReply := do
  let advanced ← recordAbortGeneration blessedGeneration
  let gen := advanced.getD e.generation
  let resumed : Bool ← perform (.resolveStatefulAbort token)
  if resumed then
    perform (.resumeFromCheckpoint vmID gen)
    pure (.aborted gen)
  else
    dropEntry vmID
    pure (.refused .failedPrecondition)

/-- What an abort must carry is looked at before the resolve is claimed.
Source: `ResolveStateful` -/
def resolveAbort : StatefulProg StatefulReply := do
  match ← perform (.resolveGeneration vmID token) with
  | none => pure (.refused .failedPrecondition)
  | some checkpointGeneration =>
    if blessedGeneration = 0 ∨ blessedGeneration ≤ checkpointGeneration then
      pure (.refused .failedPrecondition)
    else
      match ← perform (.claimResolve vmID token) with
      | none => pure (.refused .failedPrecondition)
      | some e => abortCheckpoint vmID e token blessedGeneration

/-- Source: `ResolveStateful` -/
def resolveCommit : StatefulProg StatefulReply := do
  match ← perform (.claimResolve vmID token) with
  | none => pure (.refused .failedPrecondition)
  | some e => commitCheckpoint vmID e token

/-- Source: `autoAbortCheckpoint` -/
def autoAbortCheckpoint : StatefulProg StatefulReply := do
  match ← perform (.claimResolve vmID token) with
  | none => pure .done
  | some e => abortCheckpoint vmID e token 0

/-- Source: `DeleteVolume`, with `Delete` of `volume.go` -/
def deleteVolume : StatefulProg StatefulReply := do
  let attached : Bool ← perform .isAttached
  if attached then pure (.refused .failedPrecondition)
  else
    let removed : Bool ← perform .removeAll
    pure (if removed then .done else .refused .failedPrecondition)

def body : StatefulRequest → StatefulProg StatefulReply
  | .start req => startStateful req
  | .stop vmID .bank => stopStatefulBank vmID
  | .stop vmID .destroy => stopStatefulDestroy vmID
  | .stop vmID .checkpoint => stopStatefulCheckpoint vmID
  | .resolve vmID token .commit _ => resolveCommit vmID token
  | .resolve vmID token .abort blessedGeneration => resolveAbort vmID token blessedGeneration
  | .autoAbort vmID token => autoAbortCheckpoint vmID token
  | .deleteVolume => deleteVolume
  | .releaseOrphanedAttach => do
    releaseOrphanedAttach
    pure .done
  | .applyBlessingLease lease => do
    perform (.applyBlessingLease lease)
    pure .done

end Stateful

end Homelab.Noded
