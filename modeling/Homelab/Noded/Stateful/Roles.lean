import Homelab.Noded.Stateful

/-!
# The parts calls play in the life of a stateful VM

What a call on a stateful workload has taken on so far, its `Role`: the phase it is in, and the
bundle it carries. The phase says what the call holds. A start holds the attach lock from its attach
until its VM is registered or it detaches; a stop or a resolve holds the claim on its entry that
`inFlight` stands for; a reap holds the teardown's mutex. The bundle is the one that a relight has
found to match the ledger, or that a stop has taken and not recorded yet.

`Role.may` is the discipline: which operation needs which phase. `body_follows` shows that all the
programs of `stateful.go` keep to it, whatever the operations answer.
-/

namespace Homelab.Noded

open Homelab.Lib

/-- How far a reap has come. -/
inductive ReapStage where
  | locked
  | released
  | detached
  | removed
  deriving DecidableEq, Repr

inductive Phase where
  | free
  /-- A start with the attach lock and no VM yet; the generation it has advanced the ledger to. -/
  | attached (gen : Option Nat)
  /-- A start whose VM exists. -/
  | booted (vmID : VmId) (gen : Nat)
  /-- A start whose VM has been released. -/
  | died (vmID : VmId)
  /-- A start whose VM is bound to the attach. -/
  | bound (vmID : VmId) (gen : Nat)
  /-- A call that may tear the entry down. -/
  | destroying (vmID : VmId)
  /-- A call with the teardown's mutex; for a bank, the generation it has stamped. -/
  | reaping (bank : Option Nat) (vmID : VmId) (stage : ReapStage)
  /-- A stop that has the claim on the entry. -/
  | claimed (vmID : VmId) (gen : Nat)
  /-- A checkpoint whose token is not published. -/
  | paused (vmID : VmId) (gen : Nat) (token : Token)
  /-- A bank that has taken its snapshot. -/
  | banked (vmID : VmId) (gen : Nat)
  /-- A resolve, and the generation its VM will resume with. -/
  | resolving (vmID : VmId) (gen : Nat) (token : Token) (latest : Nat)
  | resumed (vmID : VmId) (latest : Nat)
  /-- A call whose VM the driver has torn down. -/
  | dropping (vmID : VmId)
  /-- The same, after the entry has left the registry. -/
  | dropped (vmID : VmId)
  deriving DecidableEq, Repr

/-- What a call has taken on. -/
structure Role where
  /-- It is a start. -/
  start : Bool
  begun : Nat
  carry : Option (SnapshotRef × Nat) := none
  phase : Phase := .free
  deriving DecidableEq, Repr

namespace Phase

/-- The ledger has been advanced. -/
@[simp] def advance : Phase → Option Nat → Phase
  | .attached _, some gen => .attached (some gen)
  | .resolving vmID gen token _, some latest => .resolving vmID gen token latest
  | p, _ => p

/-- The driver has booted a VM. -/
@[simp] def boot : Phase → Option VmId → Phase
  | .attached (some gen), some vmID => .booted vmID gen
  | p, _ => p

/-- The attach lock has been given back. -/
@[simp] def detach : Phase → Phase
  | .reaping bank vmID _ => .reaping bank vmID .detached
  | _ => .free

/-- The driver has released a VM, or has not. A start leaves the attach to a VM it cannot
release. -/
@[simp] def release : Phase → Bool → Phase
  | .booted vmID _, true => .died vmID
  | .booted _ _, false => .free
  | .reaping bank vmID _, true => .reaping bank vmID .released
  | p, _ => p

/-- A start ends without a detach when the files of its VM cannot be removed. -/
@[simp] def removeBundle : Phase → Bool → Phase
  | .died _, false => .free
  | p, _ => p

@[simp] def bind : Phase → Phase
  | .booted vmID gen => .bound vmID gen
  | p => p

/-- The entry has left the registry. -/
@[simp] def remove : Phase → Phase
  | .reaping bank vmID _ => .reaping bank vmID .removed
  | .dropping vmID => .dropped vmID
  | p => p

@[simp] def tryLock (vmID : VmId) : Phase → StatefulRegistry.TryLock → Phase
  | .destroying _, .locked released => .reaping none vmID (if released then .released else .locked)
  | .banked _ gen, .locked released =>
    .reaping (some gen) vmID (if released then .released else .locked)
  | .banked vmID gen, .inProgress => .banked vmID gen
  | _, _ => .free

@[simp] def unlock : Phase → Phase
  | .reaping (some gen) vmID _ => .banked vmID gen
  | _ => .free

@[simp] def snapshot : Phase → Option SnapshotRef → Phase
  | .claimed vmID gen, some _ => .banked vmID gen
  | .claimed vmID _, none => .dropping vmID
  | p, _ => p

@[simp] def checkpoint : Phase → Option Token → Phase
  | .claimed vmID gen, some token => .paused vmID gen token
  | p, _ => p

@[simp] def commit : Phase → Phase
  | .resolving vmID _ _ _ => .dropping vmID
  | p => p

@[simp] def abort : Phase → Bool → Phase
  | .resolving vmID _ _ latest, true => .resumed vmID latest
  | .resolving vmID _ _ _, false => .dropping vmID
  | p, _ => p

@[simp] def next (p : Phase) : (o : StatefulOp) → o.Ans → Phase
  | .attach, x => if x then .attached none else p
  | .recordBlessed _, x => p.advance x
  | .bumpGeneration, x => p.advance x
  | .claimStateful, x => p.boot x
  | .restoreStateful _, x => p.boot x
  | .detach, _ => p.detach
  | .release _, x => p.release x
  | .removeBundle _, x => p.removeBundle x
  | .bind _, _ => p.bind
  | .add _, _ => .free
  | .beginStop vmID, x => x.elim p fun e => .claimed vmID e.generation
  | .beginDestroy vmID, x => match x with
      | .claimed _ => .destroying vmID
      | _ => p
  | .claimResolve vmID token, x => x.elim p fun e => .resolving vmID e.generation token e.generation
  | .tryLock vmID, x => p.tryLock vmID x
  | .unlock _, _ => p.unlock
  | .finish _, _ => .free
  | .remove _, _ => p.remove
  | .allowTeardownRetry _, _ => .free
  | .clearInFlight _, _ => .free
  | .markCheckpointed _ _, _ => .free
  | .snapshotStateful _ _, x => p.snapshot x
  | .checkpointStateful _ _, x => p.checkpoint x
  | .resolveStatefulCommit _, _ => p.commit
  | .resolveStatefulAbort _, x => p.abort x
  | .resumeFromCheckpoint _ _, _ => .free
  | _, _ => p

end Phase

namespace Role

/-- The bundle a call carries after an operation. -/
@[simp] def carryNext (r : Role) : (o : StatefulOp) → o.Ans → Option (SnapshotRef × Nat)
  | .getBundle ref, x => x.map fun b => (ref, b.generation)
  | .generation, x => r.carry.filter fun b => x == some b.2
  | .snapshotStateful _ gen, x => x.map fun ref => (ref, gen)
  | .resolveStatefulCommit _, x => match r.phase with
      | .resolving _ gen _ _ => x.map fun ref => (ref, gen)
      | _ => none
  | .claimStateful, _ => none
  | .restoreStateful _, _ => none
  | .detach, _ => match r.phase with
      | .attached _ => none
      | _ => r.carry
  | .addBundle _, _ => none
  | .allowTeardownRetry _, _ => none
  | _, _ => r.carry

@[simp] def next (r : Role) (o : StatefulOp) (x : o.Ans) : Role :=
  { r with carry := r.carryNext o x, phase := r.phase.next o x }

/-- An entry as a start registers it. -/
def Fresh (e : StatefulEntry) : Prop :=
  e.checkpointToken = none ∧ e.inFlight = false ∧ e.teardownRetryable = false ∧
    e.teardown = {} ∧ e.registered = true

/-- The phase each operation needs. -/
@[simp] def may (r : Role) : StatefulOp → Prop
  | .check _ | .socketDead _ | .volumeExists | .isAttached | .byWorkload | .resolveGeneration _ _
  | .bundleByWorkload => True
  | .getBundle _ | .generation | .attach => r.phase = .free ∧ r.start = true
  | .create _ | .applyBlessingLease _ | .releaseOrphaned | .removeAll |
    .beginStop _ | .beginDestroy _
  | .claimResolve _ _ | .setCheckpointTimer _ _ | .removeBundleEntry _ | .removeStatefulBundle _ =>
    r.phase = .free
  | .recordBlessed _ | .bumpGeneration =>
    (∃ gen, r.phase = .attached gen) ∨
      ∃ vmID gen token latest, r.phase = .resolving vmID gen token latest
  | .consumeGenerationFromLease => ∃ gen, r.phase = .attached gen
  | .claimStateful => ∃ gen, r.phase = .attached (some gen)
  | .restoreStateful ref =>
    (∃ gen, r.phase = .attached (some gen)) ∧ ∃ gen, r.carry = some (ref, gen)
  | .detach =>
    (∃ gen, r.phase = .attached gen) ∨ (∃ vmID, r.phase = .died vmID) ∨
      (∃ bank vmID, r.phase = .reaping bank vmID .released) ∨ ∃ vmID, r.phase = .dropped vmID
  | .release vmID =>
    (∃ gen, r.phase = .booted vmID gen) ∨ ∃ bank, r.phase = .reaping bank vmID .locked
  | .removeBundle vmID => r.phase = .died vmID ∨ ∃ bank, r.phase = .reaping bank vmID .released
  | .bind vmID => ∃ gen, r.phase = .booted vmID gen
  | .add e => r.phase = .bound e.vmID e.generation ∧ Fresh e
  | .tryLock vmID => r.phase = .destroying vmID ∨ ∃ gen, r.phase = .banked vmID gen
  | .unlock vmID =>
    ∃ bank, r.phase = .reaping bank vmID .locked ∨ r.phase = .reaping bank vmID .released
  | .finish vmID => ∃ bank, r.phase = .reaping bank vmID .removed
  | .remove vmID => r.phase = .dropping vmID ∨ ∃ bank, r.phase = .reaping bank vmID .detached
  | .allowTeardownRetry vmID => ∃ gen, r.phase = .banked vmID gen
  | .clearInFlight vmID => ∃ gen, r.phase = .claimed vmID gen
  | .markCheckpointed vmID token => ∃ gen, r.phase = .paused vmID gen token
  | .snapshotStateful vmID gen | .checkpointStateful vmID gen => r.phase = .claimed vmID gen
  | .resolveStatefulCommit token | .resolveStatefulAbort token =>
    ∃ vmID gen latest, r.phase = .resolving vmID gen token latest
  | .resumeFromCheckpoint vmID gen => r.phase = .resumed vmID gen
  | .addBundle b => r.phase = .free ∧ r.carry = some (b.snapshotRef, b.generation)

/-- The role of a call that begins. -/
def init (req : StatefulRequest) (now : Nat) : Role :=
  { start := match req with
      | .start _ => true
      | _ => false
    begun := now }

/-- A call returns with nothing taken on. -/
def fin (r : Role) : Prop := r.phase = .free

end Role

/-- The daemon's calls on one stateful workload. -/
def stateful :
    System StatefulNode StatefulOp.Ans StatefulIo StatefulRequest Role StatefulReply where
  exec := StatefulNode.exec
  body := Stateful.body
  init := Role.init
  next := Role.next

/-! ## The programs keep the discipline -/

/-- The discipline of the calls on a stateful workload. -/
abbrev roleDiscipline : Discipline StatefulOp.Ans Role := ⟨Role.may, Role.next⟩

namespace Stateful

/-- A program that keeps the discipline and ends with nothing taken on. -/
abbrev Ends {α : Type} (p : StatefulProg α) (r : Role) : Prop :=
  p.Follows roleDiscipline (fun _ r => r.fin) r

variable {start : Bool} {begun : Nat} {carry : Option (SnapshotRef × Nat)}

/-- What an advance of the ledger leaves of the role of a start. -/
def Advanced (start : Bool) (begun : Nat) (carry : Option (SnapshotRef × Nat)) :
    Except Code Nat → Role → Prop
  | .ok gen, r => r = ⟨start, begun, carry, .attached (some gen)⟩
  | .error _, r => ∃ gen, r = ⟨start, begun, carry, .attached gen⟩

lemma selfBump_follows (gen : Option Nat) :
    selfBump.Follows roleDiscipline (Advanced start begun carry)
      ⟨start, begun, carry, .attached gen⟩ := by
  refine ⟨by simp, ?_⟩
  rintro (_ | gen')
  · exact ⟨gen, rfl⟩
  · exact rfl

lemma attachGeneration_follows (gen : Option Nat) (blessedGeneration : Nat) (activator : Bool) :
    (attachGeneration blessedGeneration activator).Follows roleDiscipline
      (Advanced start begun carry)
      ⟨start, begun, carry, .attached gen⟩ := by
  unfold attachGeneration
  split
  · refine ⟨by simp, ?_⟩
    rintro (_ | gen')
    · exact ⟨gen, rfl⟩
    · exact rfl
  · split
    · refine ⟨trivial, ?_⟩
      rintro (_ | code)
      · refine ⟨by simp, fun x => ?_⟩
        -- the lease issues a number, or the ledger is bumped
        rcases x with _ | (_ | ⟨g, _⟩)
        · exact selfBump_follows gen
        · exact selfBump_follows gen
        · refine ⟨by simp, ?_⟩
          rintro (_ | gen')
          · exact selfBump_follows gen
          · exact rfl
      · exact ⟨gen, rfl⟩
    · exact ⟨gen, rfl⟩

/-- How a reap leaves the role of its call: with nothing, or in the phase it has when it fails. -/
def Reaped (start : Bool) (begun : Nat) (carry : Option (SnapshotRef × Nat)) (failed : Phase) :
    Reap → Role → Prop
  | .completed, r => r = ⟨start, begun, carry, .free⟩
  | _, r => r = ⟨start, begun, carry, failed⟩

variable (req : StartStatefulRequest) (vmID : VmId)

lemma cleanup_follows (bank : Option Nat) (gone : Bool) : (cleanup vmID gone).Follows roleDiscipline
      (Reaped start begun carry (Phase.reaping bank vmID .released).unlock)
      ⟨start, begun, carry, .reaping bank vmID (if gone then .released else .locked)⟩ := by
  unfold cleanup
  cases gone <;> cases bank <;> simp [Reaped]

/-- A reap by a call that has claimed the teardown, or by a bank. -/
lemma reapStatefulEntry_follows (bank : Option Nat) :
    (reapStatefulEntry vmID).Follows roleDiscipline
      (Reaped start begun carry (Phase.reaping bank vmID .released).unlock)
      ⟨start, begun, carry, bank.elim (.destroying vmID) (.banked vmID)⟩ := by
  cases bank <;>
  · refine ⟨by simp, ?_⟩
    rintro (_ | _ | (_ | _))
    · exact rfl
    · exact rfl
    · refine ⟨by simp, fun gone => ?_⟩
      cases gone with
      | true => exact cleanup_follows vmID _ true
      | false => exact cleanup_follows vmID _ false
    · exact cleanup_follows vmID _ true

/-- However a reap ends, its role is one of two. -/
lemma Reaped.free {r : Role} {x : Reap} (h : Reaped start begun carry .free x r) :
    r = ⟨start, begun, carry, .free⟩ := by
  cases x <;> exact h

lemma releaseOrphanedAttach_follows :
    releaseOrphanedAttach.Follows roleDiscipline (fun _ r => r = ⟨start, begun, carry, .free⟩)
      ⟨start, begun, carry, .free⟩ := by
  refine ⟨trivial, ?_⟩
  rintro (_ | e)
  · exact ⟨rfl, fun _ => rfl⟩
  · refine ⟨trivial, fun dead => ?_⟩
    cases dead with
    | false => exact rfl
    | true =>
      refine ⟨rfl, ?_⟩
      rintro (_ | _ | e')
      · exact rfl
      · exact rfl
      · exact (reapStatefulEntry_follows e.vmID none).bind fun _ _ h => h.free

lemma reapStateful_follows (gen : Nat) :
    Ends (reapStateful vmID) ⟨start, begun, carry, .booted vmID gen⟩ := by
  refine ⟨by simp, fun gone => ?_⟩
  cases gone with
  | false => exact rfl
  | true =>
    refine ⟨by simp, fun removed => ?_⟩
    cases removed with
    | false => exact rfl
    | true => exact ⟨by simp, fun _ => rfl⟩

lemma finishStatefulStart_follows (sourceRef : Option SnapshotRef) (gen : Nat)
    (reason : Option ColdBootReason) (origin : InstanceOrigin) :
    Ends (finishStatefulStart vmID sourceRef gen reason origin)
      ⟨start, begun, carry, .booted vmID gen⟩ := by
  refine ⟨trivial, ?_⟩
  rintro (_ | code)
  · refine ⟨by simp, fun _ => ⟨?_, fun _ => rfl⟩⟩
    exact ⟨rfl, rfl, rfl, rfl, rfl, rfl⟩
  · exact (reapStateful_follows vmID gen).bind fun _ _ h => h

/-- The attach and the boot, for any call of the driver that leads from an advanced ledger to a
VM. -/
lemma attachAndBoot_follows (sourceRef : Option SnapshotRef) (reason : Option ColdBootReason)
    (boot : StatefulProg (Option VmId)) (hboot : ∀ gen, boot.Follows roleDiscipline
      (fun x r => ∃ carry', r = ⟨true, begun, carry', (Phase.attached (some gen)).boot x⟩)
      ⟨true, begun, carry, .attached (some gen)⟩) :
    Ends (attachAndBoot req sourceRef reason boot) ⟨true, begun, carry, .free⟩ := by
  apply releaseOrphanedAttach_follows.bind
  rintro - _ rfl
  refine ⟨by simp, fun attached => ?_⟩
  cases attached with
  | false => exact rfl
  | true =>
    apply (attachGeneration_follows none req.blessedGeneration (req.origin == .activator)).bind
    rintro (code | gen) r hr
    · obtain ⟨gen, rfl⟩ := hr
      exact ⟨by simp, fun _ => rfl⟩
    · obtain rfl : r = _ := hr
      refine ⟨trivial, ?_⟩
      rintro (_ | code)
      · apply (hboot gen).bind
        rintro (_ | vmID) r ⟨carry', rfl⟩
        · exact ⟨by simp, fun _ => rfl⟩
        · exact finishStatefulStart_follows vmID sourceRef gen reason req.origin
      · exact ⟨by simp, fun _ => rfl⟩

lemma coldBootStateful_follows (reason : Option ColdBootReason) :
    Ends (coldBootStateful req reason) ⟨true, begun, carry, .free⟩ := by
  refine ⟨trivial, ?_⟩
  rintro (_ | code)
  · exact attachAndBoot_follows req none reason _ fun gen => ⟨by simp, fun x => ⟨none, rfl⟩⟩
  · exact rfl

lemma startStatefulFresh_follows : Ends (startStatefulFresh req) ⟨true, begun, carry, .free⟩ := by
  refine ⟨trivial, ?_⟩
  rintro (_ | code)
  · refine ⟨trivial, fun present => ?_⟩
    cases present with
    | true => exact coldBootStateful_follows req none
    | false =>
      change Proc.Follows _ _ (if _ then _ else _) _
      split
      · exact rfl
      · split
        · exact rfl
        · refine ⟨rfl, fun created => ?_⟩
          cases created with
          | true => exact coldBootStateful_follows req none
          | false => exact rfl
  · exact rfl

lemma startStatefulCold_follows : Ends (startStatefulCold req) ⟨true, begun, carry, .free⟩ := by
  refine ⟨trivial, fun present => ?_⟩
  cases present with
  | true => exact coldBootStateful_follows req none
  | false => exact rfl

/-- A relight resumes its bundle only when the ledger has its generation. -/
lemma coldBootReason_eq_none {bundle : Option StatefulBundleEntry} {volGen : Option Nat}
    (h : coldBootReason bundle volGen = none) :
    ∃ b, bundle = some b ∧ volGen = some b.generation := by
  rcases volGen with _ | gen
  · simp [coldBootReason] at h
  · rcases bundle with _ | b
    · simp [coldBootReason] at h
    · have hgen : b.generation = gen := by simpa [coldBootReason] using h
      exact ⟨b, rfl, by rw [hgen]⟩

/-- A relight restores only a bundle whose generation it has found in the ledger. -/
lemma startStatefulRelight_follows :
    Ends (startStatefulRelight req) ⟨true, begun, carry, .free⟩ := by
  unfold startStatefulRelight
  rcases req.relightSnapshotRef with _ | ref
  · exact rfl
  · refine ⟨trivial, fun present => ?_⟩
    cases present with
    | false => exact rfl
    | true =>
      refine .perform ⟨rfl, rfl⟩ fun bundle => .perform ⟨rfl, rfl⟩ fun volGen => ?_
      rcases h : coldBootReason bundle volGen with _ | reason
      · obtain ⟨b, rfl, rfl⟩ := coldBootReason_eq_none h
        change Proc.Follows _ _ (attachAndBoot _ _ _ _) (roleDiscipline.next
          ⟨true, begun, some (ref, b.generation), .free⟩ .generation (some b.generation))
        refine attachAndBoot_follows req (some ref) none _ fun gen => ?_
        exact ⟨by simp, fun x => ⟨none, rfl⟩⟩
      · rcases bundle with _ | b
        · exact coldBootStateful_follows req (some reason)
        · exact ⟨rfl, fun _ => ⟨rfl, fun _ => coldBootStateful_follows req (some reason)⟩⟩

lemma startStateful_follows : Ends (startStateful req) ⟨true, begun, carry, .free⟩ := by
  refine .perform trivial fun x => ?_
  rcases x with _ | code
  · cases req.mode with
    | fresh => exact startStatefulFresh_follows req
    | relight => exact startStatefulRelight_follows req
    | cold => exact startStatefulCold_follows req
  · exact rfl

lemma recordStatefulBundle_follows (ref : SnapshotRef) (gen : Nat) :
    Ends (recordStatefulBundle ref gen) ⟨start, begun, some (ref, gen), .free⟩ := by
  refine ⟨trivial, ?_⟩
  rintro (_ | prior)
  · exact ⟨⟨rfl, rfl⟩, fun _ => rfl⟩
  · change Proc.Follows _ _ (if _ then _ else _) _
    split
    · exact ⟨rfl, fun _ => ⟨rfl, fun _ => ⟨⟨rfl, rfl⟩, fun _ => rfl⟩⟩⟩
    · exact ⟨⟨rfl, rfl⟩, fun _ => rfl⟩

lemma dropEntry_follows :
    (dropEntry vmID).Follows roleDiscipline (fun _ r => r = ⟨start, begun, carry, .free⟩)
      ⟨start, begun, carry, .dropping vmID⟩ :=
  ⟨.inl rfl, fun _ => ⟨by simp, fun _ => rfl⟩⟩

lemma stopStatefulBank_follows : Ends (stopStatefulBank vmID) ⟨start, begun, carry, .free⟩ := by
  refine ⟨rfl, ?_⟩
  rintro (_ | e)
  · exact rfl
  · refine ⟨rfl, ?_⟩
    rintro (_ | ref)
    · apply (dropEntry_follows vmID).bind
      rintro - _ rfl
      exact rfl
    · apply (reapStatefulEntry_follows vmID (some e.generation)).bind
      rintro (_ | _ | _) r hr
      · obtain rfl : r = _ := hr
        exact (recordStatefulBundle_follows ref e.generation).bind fun _ _ h => h
      · obtain rfl : r = _ := hr
        exact ⟨by simp, fun _ => rfl⟩
      · obtain rfl : r = _ := hr
        exact ⟨by simp, fun _ => rfl⟩

lemma stopStatefulDestroy_follows :
    Ends (stopStatefulDestroy vmID) ⟨start, begun, carry, .free⟩ := by
  refine ⟨rfl, ?_⟩
  rintro (_ | _ | e)
  · exact rfl
  · exact rfl
  · apply (reapStatefulEntry_follows vmID none).bind
    rintro x r hr
    rw [hr.free]
    cases x <;> exact rfl

lemma stopStatefulCheckpoint_follows :
    Ends (stopStatefulCheckpoint vmID) ⟨start, begun, carry, .free⟩ := by
  refine ⟨rfl, ?_⟩
  rintro (_ | e)
  · exact rfl
  · refine ⟨rfl, ?_⟩
    rintro (_ | token)
    · exact ⟨by simp, fun _ => rfl⟩
    · exact ⟨by simp, fun _ => ⟨rfl, fun _ => rfl⟩⟩

lemma commitCheckpoint_follows (e : StatefulEntry) (token : Token) :
    Ends (commitCheckpoint vmID e token)
      ⟨start, begun, carry, .resolving vmID e.generation token e.generation⟩ := by
  refine ⟨by simp, ?_⟩
  rintro (_ | ref)
  · apply (dropEntry_follows vmID).bind
    rintro - _ rfl
    exact rfl
  · apply (dropEntry_follows vmID).bind
    rintro - _ rfl
    exact (recordStatefulBundle_follows ref e.generation).bind fun _ _ h => h

/-- The generation an abort resumes its VM with is the one in its role. -/
lemma abortCheckpoint_follows (e : StatefulEntry) (token : Token) (blessedGeneration : Nat) :
    Ends (abortCheckpoint vmID e token blessedGeneration)
      ⟨start, begun, carry, .resolving vmID e.generation token e.generation⟩ := by
  have hadvance : (recordAbortGeneration blessedGeneration).Follows roleDiscipline
      (fun x r => r = ⟨start, begun, carry,
        .resolving vmID e.generation token (x.getD e.generation)⟩)
      ⟨start, begun, carry, .resolving vmID e.generation token e.generation⟩ := by
    unfold recordAbortGeneration
    split
    · refine ⟨by simp, fun x => ?_⟩
      rcases x with _ | gen <;> exact rfl
    · refine ⟨by simp, fun x => ?_⟩
      rcases x with _ | gen <;> exact rfl
  apply hadvance.bind
  rintro x r rfl
  refine ⟨by simp, fun resumed => ?_⟩
  cases resumed with
  | true => exact ⟨rfl, fun _ => rfl⟩
  | false =>
    apply (dropEntry_follows vmID).bind
    rintro - _ rfl
    exact rfl

/-- **Every call keeps the discipline.** -/
theorem body_follows (req : StatefulRequest) (now : Nat) :
    (stateful.body req).Follows roleDiscipline (fun _ r => r.fin) (stateful.init req now) := by
  cases req with
  | start req => exact startStateful_follows req
  | stop vmID mode =>
    cases mode with
    | bank => exact stopStatefulBank_follows vmID
    | destroy => exact stopStatefulDestroy_follows vmID
    | checkpoint => exact stopStatefulCheckpoint_follows vmID
  | resolve vmID token mode blessedGeneration =>
    cases mode with
    | commit =>
      refine ⟨rfl, ?_⟩
      rintro (_ | e)
      · exact rfl
      · exact commitCheckpoint_follows vmID e token
    | abort =>
      refine ⟨trivial, ?_⟩
      rintro (_ | gen)
      · exact rfl
      · change Proc.Follows _ _ (if _ then _ else _) _
        split
        · exact rfl
        · refine ⟨rfl, ?_⟩
          rintro (_ | e)
          · exact rfl
          · exact abortCheckpoint_follows vmID e token blessedGeneration
  | autoAbort vmID token =>
    refine ⟨rfl, ?_⟩
    rintro (_ | e)
    · exact rfl
    · exact abortCheckpoint_follows vmID e token 0
  | deleteVolume =>
    refine ⟨trivial, fun attached => ?_⟩
    cases attached with
    | true => exact rfl
    | false => exact ⟨rfl, fun _ => rfl⟩
  | releaseOrphanedAttach =>
    apply releaseOrphanedAttach_follows.bind
    rintro - _ rfl
    exact rfl
  | applyBlessingLease lease => exact ⟨rfl, fun _ => rfl⟩

end Stateful

end Homelab.Noded
