import Mathlib.Algebra.Group.Nat.Defs
import Mathlib.Tactic.Common

/-!
# The volume of a stateful workload

`volume.go`, for one workload: the directory with its volume file, generation ledger, blessed marker
and blessing lease, and the lock that makes a writable attach exclusive.

* Generations are `uint64`s: natural numbers, with the wrap-around written where the source adds.
* A file operation can fail. Which ones do is data of the call, a `FileIo`; a write that fails
  leaves the file as it was, since every write is published by a rename.
* A volume file has an identity, the number of its creation: a workload whose volume is deleted and
  created again has a new file under the old path. Sources without a file name are in `volume.go`.
-/

namespace Homelab.Noded

/-- What the daemon calls a VM, a snapshot or a checkpoint: the value of a `newID`. -/
abbrev VmId := Nat
abbrev SnapshotRef := Nat
abbrev Token := Nat

/-- The wrap-around of `uint64`. -/
def uint64 (n : Nat) : Nat := n % 2 ^ 64

/-- Source: `BlessingLease` -/
structure BlessingLease where
  nextGeneration : Nat
  /-- Exclusive. -/
  leaseEnd : Nat
  deriving DecidableEq, Repr

/-- A volume file. `writtenAt` is not on disk: it is the number of snapshots that had been taken
when a guest last had the file writable. -/
structure VolImg where
  id : Nat
  sizeBytes : Nat
  writtenAt : Nat
  deriving DecidableEq, Repr

/-- The files of a workload's directory. A ledger that is missing or malformed is none. -/
structure VolumeDir where
  vol : Option VolImg
  gen : Option Nat
  genblessed : Option Nat
  blessingLease : Option BlessingLease
  deriving DecidableEq, Repr

/-- The owner is none while a start is in flight.
Source: `attachment` -/
structure Attachment where
  owner : Option VmId
  since : Nat
  deriving DecidableEq, Repr

/-- Source: `Manager`, its part of one workload -/
structure Volume where
  dir : VolumeDir
  attached : Option Attachment
  /-- How many volume files have been created. -/
  created : Nat
  deriving DecidableEq, Repr

/-- Which file operations of a call succeed. -/
structure FileIo where
  create : Bool := true
  readGen : Bool := true
  writeGen : Bool := true
  writeBlessed : Bool := true
  readLease : Bool := true
  writeLease : Bool := true
  remove : Bool := true
  deriving DecidableEq, Repr

namespace Volume

def empty : Volume := ⟨⟨none, none, none, none⟩, none, 0⟩

/-! ## The directory -/

variable (m : Volume)

/-- Source: `Exists` -/
def exists? : Bool := m.dir.vol.isSome

/-- The ledger after a write. -/
def setGen (gen : Nat) : Volume := { m with dir := { m.dir with gen := some gen } }

/-- Source: `Create` -/
def create (m : Volume) (sizeBytes : Nat) (io : FileIo) : Bool × Volume :=
  if m.exists? then (true, m)
  else if io.create && io.writeGen then
    (true, { m with
      dir := { m.dir with vol := some ⟨m.created, sizeBytes, 0⟩, gen := some 0 }
      created := m.created + 1 })
  else (false, m)

variable (io : FileIo)

/-- Source: `Generation` -/
def generation : Option Nat := if io.readGen then m.dir.gen else none

/-- Source: `BumpGeneration` -/
def bumpGeneration : Option Nat × Volume :=
  match m.generation io with
  | none => (none, m)
  | some cur =>
    if io.writeGen then (some (uint64 (cur + 1)), m.setGen (uint64 (cur + 1))) else (none, m)

/-- The ledger and the marker are two files: the write of the second can fail after the first.
Source: `RecordBlessed` -/
def recordBlessed (gen : Nat) (io : FileIo) : Option Nat × Volume :=
  match m.generation io with
  | none => (none, m)
  | some cur =>
    if gen ≤ cur then (none, m)
    else if !io.writeGen then (none, m)
    else if !io.writeBlessed then (none, m.setGen gen)
    else (some gen, { m with dir := { m.dir with gen := some gen, genblessed := some gen } })

/-- Source: `GenerationBlessed` -/
def generationBlessed : Bool :=
  match m.generation io, m.dir.genblessed with
  | some cur, some blessed => blessed == cur
  | _, _ => false

/-- The files are gone.
Source: `Delete`, the removal -/
def removeAll : Bool × Volume :=
  if io.remove then (true, { m with dir := ⟨none, none, none, none⟩ }) else (false, m)

/-! ### What each write can do -/

section

variable (m : Volume) (io : FileIo)

lemma create_cases (sizeBytes : Nat) : (∃ x, m.create sizeBytes io = (x, m)) ∨
      m.dir.vol = none ∧ m.create sizeBytes io = (true, { m with
        dir := { m.dir with vol := some ⟨m.created, sizeBytes, 0⟩, gen := some 0 }
        created := m.created + 1 }) := by
  unfold create exists?
  rcases m.dir.vol with _ | img
  · cases h : io.create && io.writeGen with
    | false => exact .inl ⟨false, by simp⟩
    | true => exact .inr ⟨rfl, by simp⟩
  · exact .inl ⟨true, by simp⟩

lemma bumpGeneration_cases : m.bumpGeneration io = (none, m) ∨
      ∃ cur, m.dir.gen = some cur ∧
        m.bumpGeneration io = (some (uint64 (cur + 1)), m.setGen (uint64 (cur + 1))) := by
  unfold bumpGeneration generation
  cases io.readGen with
  | false => exact .inl rfl
  | true =>
    rcases m.dir.gen with _ | cur
    · exact .inl rfl
    · cases io.writeGen with
      | false => exact .inl rfl
      | true => exact .inr ⟨cur, rfl, rfl⟩

lemma recordBlessed_cases (gen : Nat) : m.recordBlessed gen io = (none, m) ∨
      ∃ cur, m.dir.gen = some cur ∧ cur < gen ∧
        (m.recordBlessed gen io = (none, m.setGen gen) ∨
          m.recordBlessed gen io =
            (some gen,
              { m with dir := { m.dir with gen := some gen, genblessed := some gen } })) := by
  unfold recordBlessed generation
  cases io.readGen with
  | false => exact .inl rfl
  | true =>
    rcases m.dir.gen with _ | cur
    · exact .inl rfl
    · by_cases hle : gen ≤ cur
      · exact .inl (by simp [hle])
      · cases hgen : io.writeGen with
        | false => exact .inl (by simp [hle])
        | true =>
          refine .inr ⟨cur, rfl, Nat.lt_of_not_le hle, ?_⟩
          cases io.writeBlessed with
          | false => exact .inl (by simp [hle])
          | true => exact .inr (by simp [hle])

end

/-! ## The blessing lease -/

def setLease (m : Volume) (lease : BlessingLease) : Volume :=
  { m with dir := { m.dir with blessingLease := some lease } }

/-- Source: `ApplyBlessingLease` -/
def applyBlessingLease (m : Volume) (lease : BlessingLease) (io : FileIo) : Bool × Volume :=
  if lease.nextGeneration ≥ lease.leaseEnd then (true, m)
  else if !io.readLease then (false, m)
  else
    let kept := m.dir.blessingLease.any fun current =>
      decide (current.nextGeneration ≥ lease.nextGeneration) &&
        decide (current.leaseEnd ≥ lease.leaseEnd)
    if kept then (true, m)
    else if io.writeLease then (true, m.setLease lease)
    else (false, m)

/-- The first number a lease still issues: its cursor, or the one after the ledger's.
Source: the clamp of `ConsumeGenerationFromLease` -/
def leaseStart (m : Volume) (lease : BlessingLease) (io : FileIo) : Nat :=
  match m.generation io with
  | some current =>
    if lease.nextGeneration ≤ current then uint64 (current + 1) else lease.nextGeneration
  | none => lease.nextGeneration

/-- None is an error; an absent or exhausted lease issues nothing.
Source: `ConsumeGenerationFromLease` -/
def consumeGenerationFromLease (m : Volume) (count : Nat) (io : FileIo) :
    Option (List Nat) × Volume :=
  if count = 0 then (some [], m)
  else if !io.readLease then (none, m)
  else
    match m.dir.blessingLease with
    | none => (some [], m)
    | some lease =>
      if lease.nextGeneration ≥ lease.leaseEnd then (some [], m)
      else
        let start := m.leaseStart lease io
        if start ≥ lease.leaseEnd then (some [], m)
        else
          let n := min count (lease.leaseEnd - start)
          if io.writeLease then
            (some ((List.range n).map (start + ·)),
              m.setLease { lease with nextGeneration := uint64 (start + n) })
          else (none, m)

/-- Both change the lease only. -/
lemma applyBlessingLease_dir (m : Volume) (lease : BlessingLease) (io : FileIo) :
    ∃ l, (m.applyBlessingLease lease io).2 =
      { m with dir := { m.dir with blessingLease := l } } := by
  unfold applyBlessingLease
  dsimp only
  repeat' split
  all_goals first
    | exact ⟨m.dir.blessingLease, rfl⟩
    | exact ⟨some lease, rfl⟩

lemma consumeGenerationFromLease_dir (m : Volume) (count : Nat) (io : FileIo) :
    ∃ l, (m.consumeGenerationFromLease count io).2 =
      { m with dir := { m.dir with blessingLease := l } } := by
  unfold consumeGenerationFromLease
  dsimp only
  repeat' split
  all_goals first
    | exact ⟨m.dir.blessingLease, rfl⟩
    | exact ⟨_, rfl⟩

/-! ## The attach lock -/

section

variable (m : Volume) (io : FileIo)

/-- The operations on the directory leave the lock alone. -/
@[simp] lemma create_attached (sizeBytes : Nat) :
    (m.create sizeBytes io).2.attached = m.attached := by
  unfold create
  split
  · rfl
  · split <;> rfl

@[simp] lemma bumpGeneration_attached : (m.bumpGeneration io).2.attached = m.attached := by
  unfold bumpGeneration
  split
  · rfl
  · split <;> rfl

@[simp] lemma recordBlessed_attached (gen : Nat) :
    (m.recordBlessed gen io).2.attached = m.attached := by
  unfold recordBlessed
  repeat' split
  all_goals rfl

@[simp] lemma removeAll_attached : (m.removeAll io).2.attached = m.attached := by
  unfold removeAll
  split <;> rfl

@[simp] lemma applyBlessingLease_attached (lease : BlessingLease) :
    (m.applyBlessingLease lease io).2.attached = m.attached := by
  obtain ⟨l, hl⟩ := m.applyBlessingLease_dir lease io
  rw [hl]

@[simp] lemma consumeGenerationFromLease_attached (count : Nat) :
    (m.consumeGenerationFromLease count io).2.attached = m.attached := by
  obtain ⟨l, hl⟩ := m.consumeGenerationFromLease_dir count io
  rw [hl]

end

/-- Source: `Attach` -/
def attach (m : Volume) (now : Nat) : Bool × Volume :=
  match m.attached with
  | some _ => (false, m)
  | none => (true, { m with attached := some ⟨none, now⟩ })

/-- Source: `Bind` -/
def bind (m : Volume) (vmID : VmId) : Volume :=
  { m with attached := m.attached.map fun a => { a with owner := some vmID } }

/-- Why an attach is reclaimed. -/
inductive OrphanReason where
  | pendingExpired
  | ownerNotLive (owner : VmId)
  deriving DecidableEq, Repr

/-- Source: the two stale cases of `ReleaseOrphaned` -/
def orphanReason (m : Volume) (liveVMID : Option VmId) (pendingGrace now : Nat) :
    Option OrphanReason :=
  match m.attached with
  | none => none
  | some ⟨none, since⟩ => if now - since > pendingGrace then some .pendingExpired else none
  | some ⟨some owner, _⟩ =>
    match liveVMID with
    | none => none
    | some live => if owner = live then none else some (.ownerNotLive owner)

/-- Source: `ReleaseOrphaned` -/
def releaseOrphaned (m : Volume) (liveVMID : Option VmId) (pendingGrace now : Nat) :
    Option OrphanReason × Volume :=
  match m.orphanReason liveVMID pendingGrace now with
  | none => (none, m)
  | some reason => (some reason, { m with attached := none })

/-- Source: `Detach` -/
def detach (m : Volume) : Volume := { m with attached := none }

/-- Source: `IsAttached` -/
def isAttached (m : Volume) : Bool := m.attached.isSome

end Volume

end Homelab.Noded
