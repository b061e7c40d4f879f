import Homelab.Lib.Table
import Homelab.Noded.Volume

/-!
# The driver of stateful VMs

`driver.go`, the part that boots, snapshots and releases the stateful VMs of one workload. A VM is
live until `Release` has seen its process exit, so a VM whose release failed is still live. The
driver has failures of its own: which calls succeed is data, a `DriverIo`, and `release` is also the
outcome of the release that a failed snapshot, a commit or a failed abort makes inside the driver,
whose error they drop.

A snapshot remembers what its memory was taken against, a `Memory`: the volume file its VM had
writable, and the number of snapshots taken before it, which orders it against the moments a guest
was running.
-/

namespace Homelab.Noded

open Homelab.Lib

structure DriverIo where
  ok : Bool := true
  release : Bool := true
  deriving DecidableEq, Repr

/-- A live VM and the volume file it has writable. -/
structure Guest where
  volume : Nat
  paused : Bool
  deriving DecidableEq, Repr

/-- What a snapshot is of. -/
structure Memory where
  volume : Nat
  moment : Nat
  deriving DecidableEq, Repr

/-- A bundle on disk, with its generation sidecar. -/
structure Bundle where
  generation : Nat
  memory : Memory
  deriving DecidableEq, Repr

/-- Source: `driver.go`, `statefulCheckpoint` -/
structure StatefulCheckpoint where
  vmID : VmId
  snapshotRef : SnapshotRef
  bundle : Bundle
  deriving DecidableEq, Repr

structure StatefulDriver where
  live : Table VmId Guest
  checkpoints : Table Token StatefulCheckpoint
  bundles : Table SnapshotRef Bundle
  /-- The next value of `newID`. -/
  nextId : Nat
  /-- How many snapshots have been taken. -/
  moments : Nat

namespace StatefulDriver

def empty : StatefulDriver := ⟨∅, ∅, ∅, 0, 0⟩

variable (d : StatefulDriver)

/-- A guest that has the volume file writable and is not paused. -/
def runs (volume : Nat) : Bool := d.live.exists? fun _ g => decide (g.volume = volume) && !g.paused

variable (id : VmId)

/-- Source: `driver.go`, `Release` -/
def release (succeeds : Bool) : Bool × StatefulDriver :=
  match d.live.lookup id with
  | none => (false, d)
  | some _ => if succeeds then (true, { d with live := d.live.erase id }) else (false, d)

/-- A release whose error is dropped. -/
def drop (succeeds : Bool) : StatefulDriver := (d.release id succeeds).2

/-- A VM boots, or is restored, with the volume file. -/
def boot (volume : Nat) : VmId × StatefulDriver :=
  (d.nextId, { d with live := d.live.insert d.nextId ⟨volume, false⟩, nextId := d.nextId + 1 })

/-- The VM is paused, and its memory is taken. -/
def snapshot (guest : Guest) : Memory × StatefulDriver :=
  (⟨guest.volume, d.moments⟩,
    { d with live := d.live.insert id { guest with paused := true }, moments := d.moments + 1 })

/-- The reference is drawn here, by the server in the source. A failed snapshot tears its VM down.
Source: `driver.go`, `SnapshotStateful` -/
def snapshotStateful (generation : Nat) (io : DriverIo) : Option SnapshotRef × StatefulDriver :=
  match d.live.lookup id with
  | none => (none, d)
  | some guest =>
    if io.ok then
      let (memory, d) := d.snapshot id guest
      (some d.nextId, { d with
        bundles := d.bundles.insert d.nextId ⟨generation, memory⟩
        nextId := d.nextId + 1 })
    else (none, d.drop id io.release)

/-- A failed checkpoint leaves the VM live.
Source: `driver.go`, `CheckpointStateful` -/
def checkpointStateful (generation : Nat) (io : DriverIo) : Option Token × StatefulDriver :=
  match d.live.lookup id with
  | none => (none, d)
  | some guest =>
    if io.ok then
      let (memory, d) := d.snapshot id guest
      (some d.nextId, { d with
        checkpoints := d.checkpoints.insert d.nextId ⟨id, d.nextId + 1, ⟨generation, memory⟩⟩
        nextId := d.nextId + 2 })
    else (none, d)

/-- The token is consumed, and the VM is released, whether the publication succeeds or not.
Source: `driver.go`, `ResolveStatefulCommit` -/
def resolveStatefulCommit (token : Token) (io : DriverIo) : Option SnapshotRef × StatefulDriver :=
  match d.checkpoints.lookup token with
  | none => (none, d)
  | some cp =>
    let d := { d with checkpoints := d.checkpoints.erase token }
    if io.ok then
      let d := { d with bundles := d.bundles.insert cp.snapshotRef cp.bundle }
      (some cp.snapshotRef, d.drop cp.vmID io.release)
    else (none, d.drop cp.vmID io.release)

/-- The VM a checkpoint would resume. -/
def paused? (token : Token) : Option Guest :=
  (d.checkpoints.lookup token).bind fun cp => d.live.lookup cp.vmID

/-- The token is consumed and the VM runs again; one that cannot be resumed is torn down.
Source: `driver.go`, `ResolveStatefulAbort` -/
def resolveStatefulAbort (token : Token) (io : DriverIo) : Bool × StatefulDriver :=
  match d.checkpoints.lookup token with
  | none => (false, d)
  | some cp =>
    let d := { d with checkpoints := d.checkpoints.erase token }
    match d.live.lookup cp.vmID with
    | none => (false, d)
    | some guest =>
      if io.ok then
        (true, { d with live := d.live.insert cp.vmID { guest with paused := false } })
      else (false, d.drop cp.vmID io.release)

/-- Source: `driver.go`, `RemoveStatefulBundle` -/
def removeStatefulBundle (ref : SnapshotRef) (io : DriverIo) : StatefulDriver :=
  if io.ok then { d with bundles := d.bundles.erase ref } else d

/-! ## What each call can do -/

variable {id : VmId} {token : Token} {io : DriverIo}

lemma release_cases (id : VmId) (succeeds : Bool) : d.release id succeeds = (false, d) ∨
      ∃ guest, d.live.lookup id = some guest ∧
        d.release id succeeds = (true, { d with live := d.live.erase id }) := by
  unfold release
  rcases d.live.lookup id with _ | guest
  · exact .inl rfl
  · cases succeeds with
    | false => exact .inl rfl
    | true => exact .inr ⟨guest, rfl, rfl⟩

/-- After a release that is not known to fail, the VM is gone. -/
lemma drop_true (id : VmId) : d.drop id true = { d with live := d.live.erase id } := by
  unfold drop release
  rcases h : d.live.lookup id with _ | guest
  · have herase : d.live.erase id = d.live := by
      apply AList.ext
      exact List.kerase_of_notMem_keys (AList.lookup_eq_none.mp h)
    rw [herase]
  · rfl

lemma drop_of_dead (h : d.live.lookup id = none) (succeeds : Bool) : d.drop id succeeds = d := by
  rw [drop, release, h]

/-- A snapshot that fails on a live VM has failed in the driver. -/
lemma snapshotStateful_cases (id : VmId) (generation : Nat)
    (hrelease : io.ok = false → io.release = true) :
    d.snapshotStateful id generation io = (none, d.drop id true) ∨
      ∃ guest, d.live.lookup id = some guest ∧
        d.snapshotStateful id generation io = (some d.nextId, { d with
          live := d.live.insert id { guest with paused := true }
          moments := d.moments + 1
          bundles := d.bundles.insert d.nextId ⟨generation, ⟨guest.volume, d.moments⟩⟩
          nextId := d.nextId + 1 }) := by
  unfold snapshotStateful
  rcases h : d.live.lookup id with _ | guest
  · exact .inl (by rw [d.drop_of_dead h true])
  · cases hok : io.ok with
    | false => exact .inl (by rw [hrelease hok]; rfl)
    | true => exact .inr ⟨guest, rfl, rfl⟩

lemma checkpointStateful_cases (id : VmId) (generation : Nat) (io : DriverIo) :
    d.checkpointStateful id generation io = (none, d) ∨
      ∃ guest, d.live.lookup id = some guest ∧
        d.checkpointStateful id generation io = (some d.nextId, { d with
          live := d.live.insert id { guest with paused := true }
          moments := d.moments + 1
          checkpoints := d.checkpoints.insert d.nextId
            ⟨id, d.nextId + 1, ⟨generation, ⟨guest.volume, d.moments⟩⟩⟩
          nextId := d.nextId + 2 }) := by
  unfold checkpointStateful
  rcases d.live.lookup id with _ | guest
  · exact .inl rfl
  · cases io.ok with
    | false => exact .inl rfl
    | true => exact .inr ⟨guest, rfl, rfl⟩

variable {cp : StatefulCheckpoint}

/-- A commit ends its VM, whether it publishes the bundle or not. -/
lemma resolveStatefulCommit_cases (hcp : d.checkpoints.lookup token = some cp)
    (hrelease : io.release = true) : d.resolveStatefulCommit token io = (none, { d with
        checkpoints := d.checkpoints.erase token
        live := d.live.erase cp.vmID }) ∨
      d.resolveStatefulCommit token io = (some cp.snapshotRef, { d with
        checkpoints := d.checkpoints.erase token
        bundles := d.bundles.insert cp.snapshotRef cp.bundle
        live := d.live.erase cp.vmID }) := by
  unfold resolveStatefulCommit
  rw [hcp]
  cases io.ok with
  | false => exact .inl (by rw [hrelease]; simp [drop_true])
  | true => exact .inr (by rw [hrelease]; simp [drop_true])

lemma resolveStatefulAbort_cases (hcp : d.checkpoints.lookup token = some cp)
    (hrelease : io.ok = false → io.release = true) :
    d.resolveStatefulAbort token io = (false, { d with
        checkpoints := d.checkpoints.erase token
        live := d.live.erase cp.vmID }) ∨
      ∃ guest, d.live.lookup cp.vmID = some guest ∧
        d.resolveStatefulAbort token io = (true, { d with
          checkpoints := d.checkpoints.erase token
          live := d.live.insert cp.vmID { guest with paused := false } }) := by
  unfold resolveStatefulAbort
  rw [hcp]
  rcases h : d.live.lookup cp.vmID with _ | guest
  · left
    have hlive : d.live.erase cp.vmID = d.live :=
      congrArg StatefulDriver.live ((d.drop_true cp.vmID).symm.trans (d.drop_of_dead h true))
    simp [h, hlive]
  · cases hok : io.ok with
    | false => exact .inl (by rw [hrelease hok]; simp [h, drop_true])
    | true => exact .inr ⟨guest, rfl, by simp [h]⟩

end StatefulDriver

end Homelab.Noded
