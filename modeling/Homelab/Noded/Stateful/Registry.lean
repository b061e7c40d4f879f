import Homelab.Lib.Table
import Homelab.Noded.Volume

/-!
# The registries of stateful VMs and of their bundles

`stateful_registry.go`, for one workload, with `vmTeardown` of `registry.go`. The map of the source
holds pointers, and a call that has got an entry works on it after the entry has left the map. So an
entry stays in the table here, and `registered` says whether the map has it.

An entry's address, port, tap and probe, and the mark that its teardown has started, are left out:
no operation below reads them. Sources without a file name are in `stateful_registry.go`.
-/

namespace Homelab.Noded

open Homelab.Lib

inductive InstanceOrigin where
  | controlPlane
  | activator
  deriving DecidableEq, Repr

/-- `locked` is its mutex.
Source: `registry.go`, `vmTeardown` -/
structure VmTeardown where
  locked : Bool := false
  released : Bool := false
  done : Bool := false
  deriving DecidableEq, Repr

/-- Source: `statefulEntry` -/
structure StatefulEntry where
  vmID : VmId
  generation : Nat
  origin : InstanceOrigin
  /-- The bundle the VM was relit from. -/
  snapshotRef : Option SnapshotRef
  checkpointToken : Option Token := none
  /-- The token the armed timer was set for. -/
  checkpointTimer : Option Token := none
  inFlight : Bool := false
  teardownRetryable : Bool := false
  teardown : VmTeardown := {}
  registered : Bool := true
  deriving DecidableEq, Repr

/-- Source: `statefulRegistry` -/
abbrev StatefulRegistry := Table VmId StatefulEntry

namespace StatefulRegistry

variable (r : StatefulRegistry) (id : VmId)

/-- An entry of the map. -/
def find : Option StatefulEntry := (r.lookup id).filter (·.registered)

lemma find_eq_some {id : VmId} {e : StatefulEntry} :
    r.find id = some e ↔ r.lookup id = some e ∧ e.registered = true := by
  rw [find, Option.filter_eq_some_iff]

/-- A change of an entry of the map. -/
def edit (f : StatefulEntry → StatefulEntry) : StatefulRegistry :=
  match r.find id with
  | none => r
  | some e => r.insert id (f e)

lemma edit_of_find {id : VmId} {e : StatefulEntry} (h : r.find id = some e)
    (f : StatefulEntry → StatefulEntry) : r.edit id f = r.insert id (f e) := by
  rw [edit, h]

/-- Source: `add` -/
def add (e : StatefulEntry) : StatefulRegistry := r.insert e.vmID e

/-- Source: `beginStop` -/
def beginStop : Option StatefulEntry × StatefulRegistry :=
  match r.find id with
  | none => (none, r)
  | some e =>
    if e.inFlight then (none, r)
    else
      let e := { e with inFlight := true }
      (some e, r.insert id e)

/-- What `beginDestroy` answers: another stop is in flight, there is no such VM, or the caller may
tear the entry down. -/
inductive BeginDestroy where
  | refused
  | unknown
  | claimed (e : StatefulEntry)
  deriving DecidableEq, Repr

/-- Source: `beginDestroy` -/
def beginDestroy : BeginDestroy × StatefulRegistry :=
  match r.find id with
  | none => (.unknown, r)
  | some e =>
    if e.inFlight && !e.teardownRetryable then (.refused, r)
    else
      let e := { e with inFlight := true, teardownRetryable := true }
      (.claimed e, r.insert id e)

/-- Source: `allowTeardownRetry` -/
def allowTeardownRetry : StatefulRegistry :=
  r.edit id fun e => { e with teardownRetryable := true }

/-- Source: `clearInFlight` -/
def clearInFlight : StatefulRegistry := r.edit id fun e => { e with inFlight := false }

variable (token : Token)

/-- Source: `markCheckpointed` -/
def markCheckpointed : StatefulRegistry :=
  r.edit id fun e => { e with checkpointToken := some token }

/-- Source: `setCheckpointTimer` -/
def setCheckpointTimer : StatefulRegistry :=
  r.edit id fun e =>
    if e.checkpointToken.isNone then e else { e with checkpointTimer := some token }

/-- The entry whose pending checkpoint has the token. -/
def checkpointed : Option StatefulEntry :=
  (r.find id).filter fun e => e.checkpointToken == some token

/-- Source: `claimResolve` -/
def claimResolve : Option StatefulEntry × StatefulRegistry :=
  match r.checkpointed id token with
  | none => (none, r)
  | some e =>
    let e := { e with checkpointToken := none, checkpointTimer := none }
    (some e, r.insert id e)

/-- Source: `resolveGeneration` -/
def resolveGeneration : Option Nat :=
  (r.checkpointed id token).map (·.generation)

/-- Source: `resumeFromCheckpoint` -/
def resumeFromCheckpoint (newGeneration : Nat) : StatefulRegistry :=
  r.edit id fun e => { e with generation := newGeneration, inFlight := false }

/-- Source: `remove` -/
def remove : StatefulRegistry := r.edit id fun e => { e with registered := false }

/-- The map is read in no fixed order: `pick` is the entry it would come to first.
Source: `byWorkload` -/
def byWorkload (pick : VmId) : Option StatefulEntry :=
  match r.find pick with
  | some e => some e
  | none => (r.entries.map (·.2)).find? (·.registered)

/-! ## Teardown -/

/-- What a call of `run` finds: another has the mutex, the cleanup is done, or the mutex is taken
and `released` says whether the process is already gone. -/
inductive TryLock where
  | inProgress
  | done
  | locked (released : Bool)
  deriving DecidableEq, Repr

/-- Source: `server.go`, `vmTeardown.run`, up to the cleanup -/
def tryLock : TryLock × StatefulRegistry :=
  match r.lookup id with
  | none => (.inProgress, r)
  | some e =>
    if e.teardown.locked then (.inProgress, r)
    else if e.teardown.done then (.done, r)
    else
      (.locked e.teardown.released,
        r.insert id { e with teardown := { e.teardown with locked := true } })

/-- A change of an entry's teardown, in the map or not. -/
def editTeardown (f : VmTeardown → VmTeardown) : StatefulRegistry :=
  r.update id fun e => { e with teardown := f e.teardown }

/-- A cleanup that failed.
Source: `server.go`, `vmTeardown.run` -/
def unlock : StatefulRegistry := r.editTeardown id fun t => { t with locked := false }

/-- A cleanup that completed.
Source: `server.go`, `vmTeardown.run` -/
def finish : StatefulRegistry :=
  r.editTeardown id fun t => { t with locked := false, done := true }

/-- Source: `server.go`, `reapTracked` -/
def markReleased : StatefulRegistry :=
  r.editTeardown id fun t => { t with released := true }

/-! ## What each call can do -/

variable (id : VmId)

lemma beginStop_cases : r.beginStop id = (none, r) ∨
      ∃ e, r.find id = some e ∧ e.inFlight = false ∧
        r.beginStop id =
          (some { e with inFlight := true }, r.insert id { e with inFlight := true }) := by
  unfold beginStop
  rcases r.find id with _ | e
  · exact .inl rfl
  · cases hflight : e.inFlight with
    | true => exact .inl (by simp [hflight])
    | false => exact .inr ⟨e, rfl, hflight, by simp [hflight]⟩

lemma beginDestroy_cases : r.beginDestroy id = (.unknown, r) ∨ r.beginDestroy id = (.refused, r) ∨
      ∃ e, r.find id = some e ∧ (e.inFlight = true → e.teardownRetryable = true) ∧
        r.beginDestroy id = (.claimed { e with inFlight := true, teardownRetryable := true },
          r.insert id { e with inFlight := true, teardownRetryable := true }) := by
  unfold beginDestroy
  rcases r.find id with _ | e
  · exact .inl rfl
  · cases hrefused : e.inFlight && !e.teardownRetryable with
    | true => exact .inr (.inl (by simp [hrefused]))
    | false => exact .inr (.inr ⟨e, rfl, by simpa using hrefused, by simp [hrefused]⟩)

lemma claimResolve_cases (token : Token) : r.claimResolve id token = (none, r) ∨
      ∃ e, r.find id = some e ∧ e.checkpointToken = some token ∧
        r.claimResolve id token =
          (some { e with checkpointToken := none, checkpointTimer := none },
            r.insert id { e with checkpointToken := none, checkpointTimer := none }) := by
  unfold claimResolve
  rcases hfind : r.checkpointed id token with _ | e
  · exact .inl rfl
  · obtain ⟨hfound, htoken⟩ := Option.filter_eq_some_iff.mp hfind
    exact .inr ⟨e, hfound, by simpa using htoken, rfl⟩

lemma tryLock_cases : r.tryLock id = (.inProgress, r) ∨ r.tryLock id = (.done, r) ∨
      ∃ e, r.lookup id = some e ∧ e.teardown.locked = false ∧ e.teardown.done = false ∧
        r.tryLock id = (.locked e.teardown.released,
          r.insert id { e with teardown := { e.teardown with locked := true } }) := by
  unfold tryLock
  rcases r.lookup id with _ | e
  · exact .inl rfl
  · cases hlocked : e.teardown.locked with
    | true => exact .inl (by simp [hlocked])
    | false =>
      cases hdone : e.teardown.done with
      | true => exact .inr (.inl (by simp [hlocked, hdone]))
      | false => exact .inr (.inr ⟨e, rfl, hlocked, hdone, by simp [hlocked, hdone]⟩)

end StatefulRegistry

/-! ## Bundles -/

/-- Source: `statefulBundleEntry` -/
structure StatefulBundleEntry where
  snapshotRef : SnapshotRef
  generation : Nat
  deriving DecidableEq, Repr

/-- Source: `statefulBundleRegistry` -/
abbrev StatefulBundleRegistry := Table SnapshotRef StatefulBundleEntry

/-- As for VMs, `pick` is what the map would come to first.
Source: `byWorkload` -/
def StatefulBundleRegistry.byWorkload (r : StatefulBundleRegistry) (pick : SnapshotRef) :
    Option StatefulBundleEntry :=
  match r.lookup pick with
  | some b => some b
  | none => (r.entries.map (·.2)).head?

end Homelab.Noded
