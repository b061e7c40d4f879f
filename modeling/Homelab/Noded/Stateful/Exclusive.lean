import Homelab.Noded.Stateful.Ownership

/-!
# One writable guest for each volume

The attach lock is meant to keep a second VM away from a volume that a VM has, or may still have,
writable. It does so as long as the lock is given back only when the VM is known to be gone. There
are four places where the source gives it back without that knowledge (`Careful` says when they do
no harm):

* A start whose guest does not become ready and cannot be released leaves its lock unbound, and
  `ReleaseOrphaned` takes an unbound lock for one of a start that never reached a VM.
* `SnapshotStateful`, `ResolveStatefulCommit` and `ResolveStatefulAbort` drop the error of the
  release that ends their VM, and the server then detaches.
-/

namespace Homelab.Noded

open Homelab.Lib Function StatefulNode StatefulRegistry

/-! ## The view of a node -/

namespace StatefulNode

variable (s : StatefulNode)

def view : View where
  attached := s.volume.attached
  live v := (s.driver.live.lookup v).isSome
  registered v := (s.vms.lookup v).map (·.registered)
  claim v := (s.vms.lookup v).map fun e => ⟨e.inFlight, e.teardownRetryable, e.checkpointToken⟩
  teardown v := (s.vms.lookup v).map (·.teardown)
  checkpoint t := (s.driver.checkpoints.lookup t).map (·.vmID)
  nextId := s.driver.nextId

@[simp] lemma view_observe : s.observe.view = s.view := by
  unfold observe
  split <;> rfl

/-- The view after an entry has been written. -/
lemma view_insert (vmID : VmId) (e : StatefulEntry) :
    ({ s with vms := s.vms.insert vmID e } : StatefulNode).view = { s.view with
      registered := update s.view.registered vmID (some e.registered)
      claim := update s.view.claim vmID
        (some ⟨e.inFlight, e.teardownRetryable, e.checkpointToken⟩)
      teardown := update s.view.teardown vmID (some e.teardown) } := by
  unfold view
  congr 1 <;> funext v <;>
    rw [Table.lookup_insert, update_apply] <;> split <;> rfl

section

variable {s} {vmID : VmId} {e₀ e : StatefulEntry} (he : s.vms.lookup vmID = some e)
include he

lemma view_registered : s.view.registered vmID = some e.registered := congrArg (Option.map _) he

lemma view_claim : s.view.claim vmID = some ⟨e.inFlight, e.teardownRetryable, e.checkpointToken⟩ :=
  congrArg (Option.map _) he

lemma view_teardown : s.view.teardown vmID = some e.teardown := congrArg (Option.map _) he

omit he in
lemma view_insert_claim (he : s.vms.lookup vmID = some e₀) (hr : e.registered = e₀.registered)
    (ht : e.teardown = e₀.teardown) :
    ({ s with vms := s.vms.insert vmID e } : StatefulNode).view = { s.view with
      claim := update s.view.claim vmID
        (some ⟨e.inFlight, e.teardownRetryable, e.checkpointToken⟩) } := by
  rw [view_insert, hr, ht, ← view_registered he, ← view_teardown he, update_eq_self,
    update_eq_self]

lemma view_insert_teardown (t : VmTeardown) :
    ({ s with vms := s.vms.insert vmID { e with teardown := t } } :
      StatefulNode).view = { s.view with
      teardown := update s.view.teardown vmID (some t) } := by
  rw [view_insert, ← view_registered he, ← view_claim he, update_eq_self,
    update_eq_self]

lemma view_insert_unregistered :
    ({ s with vms := s.vms.insert vmID { e with registered := false } } : StatefulNode).view =
      { s.view with registered := update s.view.registered vmID (some false) } := by
  rw [view_insert, ← view_teardown he, ← view_claim he, update_eq_self,
    update_eq_self]

omit he in
/-- The entry of a call that tears it down, or has the stop claim on it. -/
lemma lookup_of_teardown {t : VmTeardown} (h : s.view.teardown vmID = some t) :
    ∃ e, s.vms.lookup vmID = some e ∧ e.teardown = t := Option.map_eq_some_iff.mp h

omit he in
lemma find_of_registered (h : s.view.registered vmID = some true) :
    ∃ e, s.vms.find vmID = some e ∧ s.vms.lookup vmID = some e ∧ e.registered = true := by
  obtain ⟨e, he, hregistered⟩ := Option.map_eq_some_iff.mp h
  exact ⟨e, (find_eq_some _).mpr ⟨he, hregistered⟩, he, hregistered⟩

lemma view_editTeardown (f : VmTeardown → VmTeardown) :
    ({ s with vms := s.vms.editTeardown vmID f } : StatefulNode).view = { s.view with
      teardown := update s.view.teardown vmID (some (f e.teardown)) } := by
  rw [editTeardown, Table.update, he]
  exact view_insert_teardown he (f e.teardown)

end

/-- The timer of a checkpoint is nobody's hold. -/
lemma view_setCheckpointTimer (vmID : VmId) (token : Token) :
    ({ s with vms := s.vms.setCheckpointTimer vmID token } : StatefulNode).view = s.view := by
  unfold setCheckpointTimer edit
  rcases hfind : s.vms.find vmID with _ | e
  · rfl
  · obtain ⟨he, -⟩ := (find_eq_some _).mp hfind
    dsimp only
    split
    · rw [view_insert_claim he rfl rfl, ← view_claim he, update_eq_self]
    · rw [view_insert_claim he]
      · rw [← view_claim he, update_eq_self]
      · rfl
      · rfl

/-- The view after the driver has changed its live VMs, checkpoints and counter. -/
lemma view_driver (d : StatefulDriver) :
    ({ s with driver := d } : StatefulNode).view = { s.view with
    live := fun v => (d.live.lookup v).isSome
    checkpoint := fun t => (d.checkpoints.lookup t).map (·.vmID)
    nextId := d.nextId } := rfl

end StatefulNode

/-! ## The invariant of a node -/

/-- The phases of all calls; a call that is not in flight is free. -/
def phases (roles : Nat → Option Role) (i : Nat) : Phase := ((roles i).map (·.phase)).getD .free

variable {now : Nat} {s s' : StatefulNode} {roles : Nat → Option Role} {h : Option Holder} {i : Nat}
  {r r' : Role} {ph : Phase}

lemma phases_of_some (hr : roles i = some r) : phases roles i = r.phase := by
  rw [phases, hr]
  rfl

lemma phases_update (o : Option Role) :
    phases (update roles i o) = update (phases roles) i ((o.map (·.phase)).getD .free) :=
  comp_update (fun o : Option Role => (o.map Role.phase).getD .free) roles i o

/-- A call that begins or returns is free. -/
lemma phases_update_free {o : Option Role} (hi : phases roles i = .free)
    (ho : ∀ r', o = some r' → r'.phase = .free) : phases (update roles i o) = phases roles := by
  have hfree : (o.map (·.phase)).getD .free = phases roles i := by
    rcases o with _ | r'
    · exact hi.symm
    · exact (ho r' rfl).trans hi.symm
  rw [phases_update, hfree, update_eq_self]

/-- When calls began; and a lock that is held by a start and not bound is no older than the
start. -/
structure Timely (now : Nat) (attached : Option Attachment) (roles : Nat → Option Role)
    (h : Option Holder) : Prop where
  begun : ∀ i r, roles i = some r → r.begun ≤ now
  start : ∀ i, h = some (.start i) → ∃ r, roles i = some r ∧ r.start = true ∧
    ∀ a, attached = some a → a.owner = none → r.begun ≤ a.since

/-- The invariant of a node and its calls: the volume has one owner. -/
def Exclusive (now : Nat) (s : StatefulNode) (roles : Nat → Option Role) : Prop :=
  ∃ h, Owned s.view (phases roles) h ∧ Timely now s.volume.attached roles h

namespace Timely

variable {attached attached' : Option Attachment} (ht : Timely now attached roles h)
include ht

lemma begun_update {o : Option Role} (ho : ∀ q, o = some q → q.begun ≤ now) :
    ∀ j q, update roles i o j = some q → q.begun ≤ now :=
  (forall_update_iff roles fun _ o => ∀ q, o = some q → q.begun ≤ now).mpr
    ⟨ho, fun j _ => ht.begun j⟩

variable (hr : roles i = some r) (hbegun : r'.begun = r.begun)
include hr hbegun

lemma begun_next : ∀ j q, update roles i (some r') j = some q → q.begun ≤ now := by
  refine ht.begun_update ?_
  rintro _ ⟨⟩
  rw [hbegun]
  exact ht.begun i r hr

/-- An operation that leaves the lock with its holder, unbound only if it was. -/
lemma keep (hstart : r'.start = r.start)
    (ha : ∀ a, attached' = some a → a.owner = none → ∃ a', attached = some a' ∧ a'.owner = none ∧
      a'.since = a.since) : Timely now attached' (update roles i (some r')) h where
  begun := ht.begun_next hr hbegun
  start j hj := by
    obtain ⟨q, hq, hqs, hqa⟩ := ht.start j hj
    have hsince : ∀ a, attached' = some a → a.owner = none → q.begun ≤ a.since := by
      intro a ha' howner
      obtain ⟨a', hattached, howner', hsince⟩ := ha a ha' howner
      rw [← hsince]
      exact hqa a' hattached howner'
    by_cases hji : j = i
    · subst hji
      rw [hr] at hq
      cases hq
      exact ⟨r', update_self .., hstart.trans hqs, hbegun ▸ hsince⟩
    · exact ⟨q, by rw [update_of_ne hji, hq], hqs, hsince⟩

/-- An operation after which no start has the lock. -/
lemma other {h' : Option Holder} (hh : ∀ j, h' ≠ some (.start j)) :
    Timely now attached' (update roles i (some r')) h' where
  begun := ht.begun_next hr hbegun
  start j hj := absurd hj (hh j)

/-- A start takes the lock. -/
lemma attach (hstart : r'.start = true) :
    Timely now (some ⟨none, now⟩) (update roles i (some r')) (some (.start i)) where
  begun := ht.begun_next hr hbegun
  start j hj := by
    cases hj
    refine ⟨r', update_self .., hstart, ?_⟩
    rintro a ha -
    cases ha
    rw [hbegun]
    exact ht.begun i r hr

end Timely

/-! ## One operation -/

/-- The volume has one owner after an operation of the call `i`, with the role `r`, that leads it to
the phase `ph` and leaves the node as `s`. -/
def Kept (now : Nat) (roles : Nat → Option Role) (i : Nat) (r : Role) (ph : Phase)
    (s : StatefulNode) : Prop :=
  ∃ h, Owned s.view (update (phases roles) i ph) h ∧
    ∀ carry, Timely now s.volume.attached
      (update roles i (some { r with carry := carry, phase := ph })) h

section

variable {vmID : VmId} (ho : Owned s.view (phases roles) h)
  (ht : Timely now s.volume.attached roles h) (hr : roles i = some r)

include ht hr in
/-- The lock stays as it is. -/
lemma kept_of_owned (hattached : s'.volume.attached = s.volume.attached)
    (ho' : Owned s'.view (update (phases roles) i ph) h) : Kept now roles i r ph s' :=
  ⟨h, ho', fun _ => ht.keep hr rfl rfl fun a ha howner => ⟨a, hattached ▸ ha, howner, rfl⟩⟩

include ht hr in
/-- The lock is no start's. -/
lemma kept_of_other {h' : Option Holder} (hh : ∀ j, h' ≠ some (.start j))
    (ho' : Owned s'.view (update (phases roles) i ph) h') : Kept now roles i r ph s' :=
  ⟨h', ho', fun _ => ht.other hr (by rfl) hh⟩

include ho ht hr

/-- An operation that leaves the view as it is, and the phase as far as the invariant sees it. -/
lemma kept_quiet (hview : s'.view = s.view) (hsight : ph.sight = r.phase.sight) :
    Kept now roles i r ph s' := by
  refine kept_of_owned ht hr (congrArg View.attached hview) ?_
  rw [hview]
  rw [← phases_of_some hr] at hsight
  exact ho.idle hsight

/-! ### Starts -/

lemma kept_attach (hfree : r.phase = .free) (hstart : r.start = true) :
    Kept now roles i r (if (s.volume.attach now).1 then .attached none else r.phase)
      { s with volume := (s.volume.attach now).2 } := by
  unfold Volume.attach
  rcases ha : s.volume.attached with _ | a
  · exact ⟨some (.start i), ho.attach ((phases_of_some hr).trans hfree) ha now,
      fun _ => ht.attach hr rfl hstart⟩
  · exact kept_quiet ho ht hr rfl rfl

variable {gen : Nat}

/-- A boot, cold or from a bundle. -/
lemma kept_boot (hp : r.phase = .attached (some gen)) (io : DriverIo) :
    Kept now roles i r (r.phase.boot (s.boot io).1) (s.boot io).2 := by
  rcases s.boot_cases io with hboot | hboot | ⟨img, -, hboot⟩ <;> rw [hboot, hp]
  · exact kept_quiet ho ht hr rfl (by rw [hp]; rfl)
  · exact kept_quiet ho ht hr rfl (by rw [hp]; rfl)
  · refine kept_of_owned ht hr rfl ?_
    have hbooted := ho.boot ((phases_of_some hr).trans hp)
    rw [view_driver, Table.comp_lookup_insert _ Option.isSome]
    exact hbooted

lemma kept_restore (hp : r.phase = .attached (some gen)) (ref : SnapshotRef) (io : DriverIo) :
    Kept now roles i r (r.phase.boot (s.restore ref io).1) (s.restore ref io).2 := by
  rcases s.restore_cases ref io with hrestore | ⟨bundle, -, hrestore⟩ <;> rw [hrestore]
  · exact kept_quiet ho ht hr rfl (by rw [hp]; rfl)
  · exact kept_boot ho ht hr hp io

lemma kept_bind (hp : r.phase = .booted vmID gen) :
    Kept now roles i r r.phase.bind { s with volume := s.volume.bind vmID } := by
  have hp' := (phases_of_some hr).trans hp
  have hstart : h = some (.start i) := ho.lock.starting i (by rw [hp']; rfl)
  obtain ⟨a, ha⟩ : ∃ a, s.volume.attached = some a := by
    rw [← Option.ne_none_iff_exists']
    exact fun hnone => by simpa [hstart] using ho.lock.free.mpr hnone
  refine ⟨h, ?_, fun _ => ht.keep hr rfl rfl ?_⟩
  · have := ho.bind hp' a
    rw [hp]
    unfold Volume.bind
    rw [ha]
    exact this
  · -- a lock that is bound is not unbound
    intro b hb howner
    rw [Volume.bind, ha] at hb
    cases hb
    cases howner

lemma kept_add {e : StatefulEntry} (hp : r.phase = .bound e.vmID e.generation)
    (hfresh : Role.Fresh e) : Kept now roles i r .free { s with vms := s.vms.add e } := by
  obtain ⟨htoken, hflight, hretry, hteardown, hregistered⟩ := hfresh
  have hadded := ho.register ((phases_of_some hr).trans hp)
  refine kept_of_other ht hr (fun j => ?_) (?_ : Owned _ _ (some (.vm e.vmID)))
  · nofun
  · rw [add, view_insert, htoken, hflight, hretry, hteardown, hregistered]
    exact hadded

/-- A start, or a reap, releases its VM. -/
lemma kept_release (hp : (∃ gen, r.phase = .booted vmID gen) ∨
    ∃ bank, r.phase = .reaping bank vmID .locked) (succeeds : Bool) :
    Kept now roles i r (r.phase.release (s.driver.release vmID succeeds).1)
      { s with
        driver := (s.driver.release vmID succeeds).2
        vms := if (s.driver.release vmID succeeds).1 then s.vms.markReleased vmID else s.vms } := by
  have hpi := phases_of_some hr
  rcases s.driver.release_cases vmID succeeds with hrel | ⟨guest, -, hrel⟩ <;> rw [hrel]
  · rcases hp with ⟨gen, hp⟩ | ⟨bank, hp⟩ <;> rw [hp]
    · exact kept_of_other ht hr (by nofun) (ho.abandon (.inl ⟨gen, hpi.trans hp⟩))
    · exact kept_quiet ho ht hr rfl (by rw [hp]; rfl)
  · refine kept_of_owned ht hr rfl ?_
    rcases hp with ⟨gen, hp⟩ | ⟨bank, hp⟩
    · -- the VM of a start has no entry yet
      have hnone : s.vms.lookup vmID = none :=
        Option.map_eq_none_iff.mp (ho.lock.keeps i vmID (by rw [hpi, hp]; rfl))
      have hdead := ho.kill (hpi.trans hp)
      rw [hp, if_pos rfl, markReleased, editTeardown, Table.update,
        hnone]
      rw [view_driver, Table.comp_lookup_erase _ Option.isSome]
      exact hdead
    · obtain ⟨t, htear, -⟩ := ho.torn.reaps i vmID (by rw [hpi, hp]; rfl)
      obtain ⟨e, he, rfl⟩ := lookup_of_teardown htear
      have hreleased := ho.reapRelease (hpi.trans hp) htear
      have hview := view_editTeardown he fun t => { t with released := true }
      rw [hp, if_pos rfl]
      change Owned ({ ({ s with vms := s.vms.markReleased vmID } : StatefulNode) with
        driver := { s.driver with live := s.driver.live.erase vmID } } : StatefulNode).view _ _
      rw [view_driver, markReleased, hview,
        Table.comp_lookup_erase _ Option.isSome]
      exact hreleased

/-- A start whose VM's files stay ends without a detach. -/
lemma kept_removeBundle (hp : r.phase = .died vmID ∨ ∃ bank, r.phase = .reaping bank vmID .released)
    (removed : Bool) : Kept now roles i r (r.phase.removeBundle removed) s := by
  rcases hp with hp | ⟨bank, hp⟩ <;> rw [hp]
  · cases removed with
    | true => exact kept_quiet ho ht hr rfl (by rw [hp]; rfl)
    | false =>
      exact kept_of_other ht hr (by nofun) (ho.abandon (.inr ((phases_of_some hr).trans hp)))
  · exact kept_quiet ho ht hr rfl (by rw [hp]; rfl)

/-! ### The lock is given back -/

lemma kept_detach (hp : (∃ gen, r.phase = .attached gen) ∨ (∃ vmID, r.phase = .died vmID) ∨
    (∃ bank vmID, r.phase = .reaping bank vmID .released) ∨ ∃ vmID, r.phase = .dropped vmID) :
    Kept now roles i r r.phase.detach { s with volume := s.volume.detach } := by
  have hpi := phases_of_some hr
  refine kept_of_other ht hr (fun j => ?_) (?_ : Owned _ _ none)
  · nofun
  · rcases hp with ⟨gen, hp⟩ | ⟨vmID, hp⟩ | ⟨bank, vmID, hp⟩ | ⟨vmID, hp⟩ <;> rw [hp]
    · exact ho.startDetach (.inl ⟨gen, hpi.trans hp⟩)
    · exact ho.startDetach (.inr ⟨vmID, hpi.trans hp⟩)
    · exact ho.reapDetach (hpi.trans hp)
    · exact ho.dropDetach (hpi.trans hp)

/-- An attach that is reclaimed is unbound, and older than the grace. -/
lemma kept_releaseOrphaned
    (hprompt : ∀ j q, roles j = some q → q.start = true →
      now - q.begun ≤ pendingAttachGrace)
    (hdead : (s.volume.orphanReason none pendingAttachGrace now).isSome →
      ∀ v, s.view.live v = false) :
    Kept now roles i r r.phase { s with
      volume := (s.volume.releaseOrphaned none pendingAttachGrace now).2 } := by
  unfold Volume.releaseOrphaned
  rcases hreason : s.volume.orphanReason none pendingAttachGrace now with _ | reason
  · exact kept_quiet ho ht hr rfl rfl
  · rw [hreason] at hdead
    obtain ⟨since, ha, hexpired⟩ : ∃ since, s.volume.attached = some ⟨none, since⟩ ∧
        now - since > pendingAttachGrace := by
      unfold Volume.orphanReason at hreason
      split at hreason
      · cases hreason
      · rename_i since ha
        refine ⟨since, ha, ?_⟩
        by_contra hle
        rw [if_neg hle] at hreason
        cases hreason
      · cases hreason
    -- no start holds a lock of that age, and no registered VM an unbound one
    have hstart : ∀ j, h ≠ some (.start j) := by
      intro j hj
      obtain ⟨q, hq, hqs, hsince⟩ := ht.start j hj
      have hle := hsince _ ha rfl
      have hgrace := hprompt j q hq hqs
      simp only at hle
      omega
    have hvm : ∀ v, h ≠ some (.vm v) := by
      intro v hv
      have howner := ho.lock.held_vm v hv
      rw [View.owner, view, ha] at howner
      cases howner
    refine kept_of_other ht hr (fun j => ?_) (?_ : Owned _ _ none)
    · nofun
    · have hreclaimed := ho.reclaim (hdead rfl) hstart hvm
      rwa [← phases_of_some hr, update_eq_self]

/-! ### Claims -/

lemma kept_beginStop (hfree : r.phase = .free) : Kept now roles i r
      ((s.vms.beginStop vmID).1.elim r.phase fun e => .claimed vmID e.generation)
      { s with vms := (s.vms.beginStop vmID).2 } := by
  rcases s.vms.beginStop_cases vmID with hstop | ⟨e, hfind, hflight, hstop⟩ <;> rw [hstop]
  · exact kept_quiet ho ht hr rfl rfl
  · obtain ⟨he, hregistered⟩ := (find_eq_some _).mp hfind
    have hclaim := view_claim he
    -- an entry that no stop is in flight for has no checkpoint pending
    have hretry : e.teardownRetryable = false := by
      cases hretry : e.teardownRetryable with
      | false => rfl
      | true => exact (ho.claims.retryable vmID _ hclaim hretry).symm.trans hflight
    have htoken : e.checkpointToken = none := by
      rcases htoken : e.checkpointToken with _ | token
      · rfl
      · have := (ho.claims.token vmID _ token hclaim htoken).1
        cases hflight.symm.trans this
    refine kept_of_owned ht hr rfl ?_
    rw [view_insert_claim he, hretry, htoken]
    · exact ho.beginStop ((phases_of_some hr).trans hfree)
        ((view_registered he).trans (congrArg some hregistered)) hclaim hflight
    · rfl
    · rfl

lemma kept_beginDestroy (hfree : r.phase = .free) :
    Kept now roles i r (r.phase.next (.beginDestroy vmID) (s.vms.beginDestroy vmID).1)
      { s with vms := (s.vms.beginDestroy vmID).2 } := by
  rcases s.vms.beginDestroy_cases vmID with
    hstop | hstop | ⟨e, hfind, hflight, hstop⟩ <;> rw [hstop]
  · exact kept_quiet ho ht hr rfl rfl
  · exact kept_quiet ho ht hr rfl rfl
  · obtain ⟨he, hregistered⟩ := (find_eq_some _).mp hfind
    refine kept_of_owned ht hr rfl ?_
    rw [view_insert_claim he]
    · exact ho.beginDestroy ((phases_of_some hr).trans hfree)
        ((view_registered he).trans (congrArg some hregistered))
        (view_claim he) hflight
    · rfl
    · rfl

variable {token : Token}

lemma kept_claimResolve (hfree : r.phase = .free) : Kept now roles i r
      ((s.vms.claimResolve vmID token).1.elim r.phase fun e =>
        .resolving vmID e.generation token e.generation)
      { s with vms := (s.vms.claimResolve vmID token).2 } := by
  rcases s.vms.claimResolve_cases vmID token with hres | ⟨e, hfind, htoken, hres⟩ <;> rw [hres]
  · exact kept_quiet ho ht hr rfl rfl
  · obtain ⟨he, hregistered⟩ := (find_eq_some _).mp hfind
    refine kept_of_owned ht hr rfl ?_
    rw [view_insert_claim he]
    · exact ho.claimResolve ((phases_of_some hr).trans hfree)
        ((view_registered he).trans (congrArg some hregistered))
        (view_claim he) htoken
    · rfl
    · rfl

/-- A call that has the stop claim on an entry of the map gives it up with the edit `f`. -/
lemma kept_giveUp (hphase : r.phase.stops = some vmID ∧ r.phase.grip = Phase.free.grip ∧
      r.phase.unregistered = false) {f : StatefulEntry → StatefulEntry}
    (hf : ∀ e, (f e).registered = e.registered ∧ (f e).teardown = e.teardown)
    (hretry : ∀ e, e.inFlight = true → e.teardownRetryable = false →
      (f e).teardownRetryable = true → (f e).inFlight = true)
    (htoken : ∀ e token, e.inFlight = true → e.teardownRetryable = false →
      e.checkpointToken = none →
      (f e).checkpointToken = some token → (f e).inFlight = true ∧ (f e).teardownRetryable = false ∧
        s.view.checkpoint token = some vmID) :
    Kept now roles i r .free { s with vms := s.vms.edit vmID f } := by
  rw [← phases_of_some hr] at hphase
  obtain ⟨hstops, hgrip, hpresent⟩ := hphase
  have hclaim := ho.claims.stops i vmID hstops
  obtain ⟨e, hfind, he, -⟩ := find_of_registered
    ((ho.torn.present i vmID (.inl hstops)).trans (by rw [hpresent]; rfl))
  rw [view_claim he] at hclaim
  simp only [Option.some.injEq, EntryClaim.mk.injEq] at hclaim
  obtain ⟨hflight, hret, htok⟩ := hclaim
  refine kept_of_owned ht hr rfl ?_
  rw [edit_of_find _ hfind, view_insert_claim he (hf e).1 (hf e).2]
  exact ho.giveUp hstops hgrip hpresent (hretry e hflight hret)
    fun token => htoken e token hflight hret htok

/-! ### Teardown -/

lemma kept_tryLock (hp : r.phase = .destroying vmID ∨ ∃ gen, r.phase = .banked vmID gen) :
    Kept now roles i r (r.phase.tryLock vmID (s.vms.tryLock vmID).1)
      { s with vms := (s.vms.tryLock vmID).2 } := by
  have hpi := phases_of_some hr
  have hgrip : (phases roles i).grip = Phase.free.grip := by
    rw [hpi]
    rcases hp with hp | ⟨gen, hp⟩ <;> rw [hp] <;> rfl
  rcases s.vms.tryLock_cases vmID with hlock | hlock | ⟨e, he, hlocked, hdone, hlock⟩ <;> rw [hlock]
  · rcases hp with hp | ⟨gen, hp⟩
    · rw [hp]
      exact kept_of_owned ht hr rfl (ho.letGo hgrip)
    · exact kept_quiet ho ht hr rfl (by rw [hp]; rfl)
  · have hfree : r.phase.tryLock vmID .done = .free := by
      rcases hp with hp | ⟨gen, hp⟩ <;> rw [hp] <;> rfl
    rw [hfree]
    exact kept_of_owned ht hr rfl (ho.letGo hgrip)
  · refine kept_of_owned ht hr rfl ?_
    rw [view_insert_teardown he]
    have htear := view_teardown he
    rcases hp with hp | ⟨gen, hp⟩ <;> rw [hp]
    · exact ho.lock_teardown (.inl ⟨rfl, hpi.trans hp⟩) htear hlocked hdone
    · exact ho.lock_teardown (.inr ⟨gen, rfl, hpi.trans hp⟩) htear hlocked hdone

lemma kept_unlock (hp : ∃ bank, r.phase = .reaping bank vmID .locked ∨
    r.phase = .reaping bank vmID .released) :
    Kept now roles i r r.phase.unlock { s with vms := s.vms.unlock vmID } := by
  obtain ⟨bank, stage, hp, hstage⟩ : ∃ bank stage, r.phase = .reaping bank vmID stage ∧
      (stage = .locked ∨ stage = .released) := by
    obtain ⟨bank, hp | hp⟩ := hp
    · exact ⟨bank, .locked, hp, .inl rfl⟩
    · exact ⟨bank, .released, hp, .inr rfl⟩
  have hpi := (phases_of_some hr).trans hp
  obtain ⟨t, htear, -⟩ := ho.torn.reaps i vmID (by rw [hpi]; rfl)
  obtain ⟨e, he, rfl⟩ := lookup_of_teardown htear
  refine kept_of_owned ht hr rfl ?_
  rw [hp, unlock, view_editTeardown he]
  exact ho.unlock hpi hstage htear

lemma kept_finish (hp : ∃ bank, r.phase = .reaping bank vmID .removed) :
    Kept now roles i r .free { s with vms := s.vms.finish vmID } := by
  obtain ⟨bank, hp⟩ := hp
  have hpi := (phases_of_some hr).trans hp
  obtain ⟨t, htear, -⟩ := ho.torn.reaps i vmID (by rw [hpi]; rfl)
  obtain ⟨e, he, rfl⟩ := lookup_of_teardown htear
  refine kept_of_owned ht hr rfl ?_
  rw [finish, view_editTeardown he]
  exact ho.finish hpi htear

lemma kept_remove (hp : r.phase = .dropping vmID ∨ ∃ bank, r.phase = .reaping bank vmID .detached) :
    Kept now roles i r r.phase.remove { s with vms := s.vms.remove vmID } := by
  have hpi := phases_of_some hr
  have hpresent : s.view.registered vmID = some true := by
    rcases hp with hp | ⟨bank, hp⟩
    · rw [ho.torn.present i vmID (.inl (by rw [hpi, hp]; rfl)), hpi, hp]
      rfl
    · rw [ho.torn.present i vmID (.inr (by rw [hpi, hp]; rfl)), hpi, hp]
      rfl
  obtain ⟨e, hfind, he, -⟩ := find_of_registered hpresent
  refine kept_of_owned ht hr rfl ?_
  rw [remove, edit_of_find _ hfind,
    view_insert_unregistered he]
  rcases hp with hp | ⟨bank, hp⟩ <;> rw [hp]
  · exact ho.dropRemove (hpi.trans hp)
  · exact ho.reapRemove (hpi.trans hp)

/-! ### Checkpoints -/

variable {io : DriverIo}

/-- A snapshot of a live VM, or one that ends its VM. -/
lemma kept_snapshotStateful (hp : r.phase = .claimed vmID gen)
    (hrelease : io.ok = false → io.release = true) :
    Kept now roles i r (r.phase.snapshot (s.driver.snapshotStateful vmID gen io).1)
      { s with driver := (s.driver.snapshotStateful vmID gen io).2 } := by
  have hpi := (phases_of_some hr).trans hp
  refine kept_of_owned ht hr rfl ?_
  rcases s.driver.snapshotStateful_cases vmID gen hrelease with
    hsnap | ⟨guest, hlive, hsnap⟩ <;> rw [hsnap, hp, view_driver]
  · rw [s.driver.drop_true, Table.comp_lookup_erase _ Option.isSome]
    exact ho.drop (by rw [hpi]; rfl) (by rw [hpi]; rfl) (by rw [hpi]; rfl) (by rw [hpi]; rfl)
  · rw [Table.comp_lookup_insert _ Option.isSome,
      update_eq_self_iff.mpr (by rw [hlive]; rfl)]
    exact (ho.idle (by rw [hpi]; rfl)).fresh (Nat.le_succ _)

lemma kept_checkpointStateful (hp : r.phase = .claimed vmID gen) (io : DriverIo) :
    Kept now roles i r (r.phase.checkpoint (s.driver.checkpointStateful vmID gen io).1)
      { s with driver := (s.driver.checkpointStateful vmID gen io).2 } := by
  have hpi := (phases_of_some hr).trans hp
  rcases s.driver.checkpointStateful_cases vmID gen io with hcheck | ⟨guest, hlive, hcheck⟩ <;>
    rw [hcheck, hp]
  · exact kept_quiet ho ht hr rfl (by rw [hp]; rfl)
  · refine kept_of_owned ht hr rfl ?_
    rw [view_driver, Table.comp_lookup_insert _ Option.isSome,
      update_eq_self_iff.mpr (by rw [hlive]; rfl), Table.comp_lookup_insert _ (Option.map _)]
    exact ho.checkpoint hpi (Nat.lt_add_of_pos_right (by decide : 0 < 2))

variable {latest : Nat} (hp : r.phase = .resolving vmID gen token latest)
include hp

omit ht in
/-- The checkpoint of a resolve is the one of its VM. -/
lemma checkpoint_of_resolving :
    ∃ cp, s.driver.checkpoints.lookup token = some cp ∧ cp.vmID = vmID :=
  Option.map_eq_some_iff.mp
    (ho.claims.resolves i vmID token (by rw [(phases_of_some hr).trans hp]; rfl))

omit ht in
/-- The end of a VM whose checkpoint is resolved. -/
lemma owned_resolve_drop (b : Table SnapshotRef Bundle) : Owned ({ s with driver := { s.driver with
        checkpoints := s.driver.checkpoints.erase token
        bundles := b
        live := s.driver.live.erase vmID } } : StatefulNode).view
      (update (phases roles) i (.dropping vmID)) h := by
  have hresolved := ho.resolve ((phases_of_some hr).trans hp) latest
  have hdropped := hresolved.drop (v := vmID) (i := i) (by rw [update_self]; rfl)
    (by rw [update_self]; rfl) (by rw [update_self]; rfl)
    (by rw [update_self]; rfl)
  rw [view_driver, Table.comp_lookup_erase _ Option.isSome,
    Table.comp_lookup_erase _ (Option.map _)]
  rwa [update_idem] at hdropped

lemma kept_resolveStatefulCommit (hrelease : io.release = true) : Kept now roles i r r.phase.commit
      { s with driver := (s.driver.resolveStatefulCommit token io).2 } := by
  obtain ⟨cp, hcp, rfl⟩ := checkpoint_of_resolving ho hr hp
  refine kept_of_owned ht hr rfl ?_
  rcases s.driver.resolveStatefulCommit_cases hcp hrelease with
    hcommit | hcommit <;> rw [hcommit, hp]
  · exact owned_resolve_drop ho hr hp _
  · exact owned_resolve_drop ho hr hp _

lemma kept_resolveStatefulAbort (hrelease : io.ok = false → io.release = true) :
    Kept now roles i r (r.phase.abort (s.driver.resolveStatefulAbort token io).1)
      { s with driver := (s.driver.resolveStatefulAbort token io).2 } := by
  obtain ⟨cp, hcp, rfl⟩ := checkpoint_of_resolving ho hr hp
  refine kept_of_owned ht hr rfl ?_
  rcases s.driver.resolveStatefulAbort_cases hcp hrelease with habort | ⟨guest, hlive, habort⟩ <;>
    rw [habort, hp]
  · exact owned_resolve_drop ho hr hp _
  · rw [view_driver, Table.comp_lookup_insert _ Option.isSome,
      update_eq_self_iff.mpr (by rw [hlive]; rfl), Table.comp_lookup_erase _ (Option.map _)]
    exact ho.resolve ((phases_of_some hr).trans hp) latest

end

/-! ## Runs -/

/-- No start is in flight for longer than the grace after which an unbound attach is reclaimed. -/
def Prompt (now : Nat) (flying : List Role) : Prop :=
  ∀ r ∈ flying, r.start = true → now - r.begun ≤ pendingAttachGrace

/-- The places that give the lock back without asking whether its VM is gone do so when it is: an
attach is reclaimed when no VM is live, and the releases whose errors the driver drops succeed. -/
def Careful (now : Nat) (s : StatefulNode) (o : StatefulOp) (io : StatefulIo) : Prop :=
  match o with
  | .releaseOrphaned =>
    (s.volume.orphanReason none pendingAttachGrace now).isSome → s.driver.live.keys = []
  | .snapshotStateful _ _ | .resolveStatefulAbort _ => io.driver.ok = false →
    io.driver.release = true
  | .resolveStatefulCommit _ => io.driver.release = true
  | _ => True

instance (now : Nat) (flying : List Role) : Decidable (Prompt now flying) :=
  inferInstanceAs (Decidable (∀ r ∈ flying, r.start = true → _))

instance (now : Nat) (s : StatefulNode) (o : StatefulOp) (io : StatefulIo) :
    Decidable (Careful now s o io) := by
  cases o <;> first
    | exact isTrue trivial
    | exact inferInstanceAs (Decidable (_ → _))
    | exact inferInstanceAs (Decidable (_ = _))

/-- The condition on an operation of a call. -/
def Guarded (now : Nat) (s : StatefulNode) (flying : List Role) (_ : Role) (o : StatefulOp)
    (io : StatefulIo) : Prop := Prompt now flying ∧ Careful now s o io

lemma Kept.of_view (hk : Kept now roles i r ph s) (hview : s'.view = s.view) :
    Kept now roles i r ph s' := by
  obtain ⟨h, ho, ht⟩ := hk
  have hattached : s'.volume.attached = s.volume.attached := congrArg View.attached hview
  exact ⟨h, hview ▸ ho, hattached ▸ ht⟩

instance (now : Nat) (s : StatefulNode) (flying : List Role) (r : Role) (o : StatefulOp)
    (io : StatefulIo) : Decidable (Guarded now s flying r o io) :=
      inferInstanceAs (Decidable (_ ∧ _))

/-- The advance of a ledger changes no hold. -/
lemma Phase.advance_unseen (p : Phase) (x : Option Nat) : (p.advance x).sight = p.sight := by
  rcases x with _ | gen <;> cases p <;> rfl

section

variable (ho : Owned s.view (phases roles) h) (ht : Timely now s.volume.attached roles h)
  (hr : roles i = some r)

include ho ht hr

/-- An operation on the volume's directory. -/
lemma kept_directory {volume : Volume} (hattached : volume.attached = s.volume.attached)
    (hph : ph.sight = r.phase.sight) : Kept now roles i r ph { s with volume := volume } :=
  kept_quiet ho ht hr (by rw [view, hattached]; rfl) hph

/-- Every operation keeps the volume with one owner. -/
lemma kept_apply {o : StatefulOp} {io : StatefulIo} (hmay : r.may o)
    (hprompt : ∀ j q, roles j = some q → q.start = true → now - q.begun ≤ pendingAttachGrace)
    (hcareful : Careful now s o io) :
    Kept now roles i r (r.phase.next o (s.apply now o io).1) (s.apply now o io).2 := by
  cases o with
  | check c | socketDead vmID | volumeExists | generation | isAttached
  | resolveGeneration vmID token | byWorkload | getBundle ref | bundleByWorkload | addBundle b
  | removeBundleEntry ref => exact kept_quiet ho ht hr rfl rfl
  | create sizeBytes =>
    exact kept_directory ho ht hr (Volume.create_attached ..) rfl
  | recordBlessed gen =>
    exact kept_directory ho ht hr (Volume.recordBlessed_attached ..) (Phase.advance_unseen ..)
  | bumpGeneration =>
    exact kept_directory ho ht hr (Volume.bumpGeneration_attached ..) (Phase.advance_unseen ..)
  | consumeGenerationFromLease =>
    exact kept_directory ho ht hr (s.volume.consumeGenerationFromLease_attached io.file 1) rfl
  | applyBlessingLease lease =>
    exact kept_directory ho ht hr (Volume.applyBlessingLease_attached ..) rfl
  | attach => exact kept_attach ho ht hr hmay.1 hmay.2
  | bind vmID =>
    obtain ⟨gen, hp⟩ := hmay
    exact kept_bind ho ht hr hp
  | releaseOrphaned =>
    refine kept_releaseOrphaned ho ht hr hprompt fun hreason v => ?_
    have hdead : s.driver.live.lookup v = none := by
      rw [AList.lookup_eq_none, AList.mem_keys, hcareful hreason]
      exact List.not_mem_nil
    exact congrArg Option.isSome hdead
  | detach => exact kept_detach ho ht hr hmay
  | removeAll => exact kept_directory ho ht hr (Volume.removeAll_attached ..) rfl
  | add e => exact kept_add ho ht hr hmay.1 hmay.2
  | beginStop vmID => exact kept_beginStop ho ht hr hmay
  | beginDestroy vmID => exact kept_beginDestroy ho ht hr hmay
  | allowTeardownRetry vmID =>
    obtain ⟨gen, hp⟩ := hmay
    exact kept_giveUp ho ht hr (hp ▸ ⟨rfl, rfl, rfl⟩) (fun _ => ⟨rfl, rfl⟩)
      (fun _ hflight _ _ => hflight)
      fun _ _ _ _ hnone hsome => by simp [hnone] at hsome
  | clearInFlight vmID =>
    obtain ⟨gen, hp⟩ := hmay
    exact kept_giveUp ho ht hr (hp ▸ ⟨rfl, rfl, rfl⟩) (fun _ => ⟨rfl, rfl⟩)
      (fun _ _ hfalse htrue => by simp [hfalse] at htrue)
      fun _ _ _ _ hnone hsome => by simp [hnone] at hsome
  | markCheckpointed vmID token =>
    obtain ⟨gen, hp⟩ := hmay
    refine kept_giveUp ho ht hr (hp ▸ ⟨rfl, rfl, rfl⟩) (fun _ => ⟨rfl, rfl⟩)
      (fun _ hflight _ _ => hflight) fun _ t hflight hretry _ ht => ⟨hflight, hretry, ?_⟩
    cases ht
    exact ho.claims.resolves i vmID token (by rw [phases_of_some hr, hp]; rfl)
  | setCheckpointTimer vmID token =>
    exact kept_quiet ho ht hr (s.view_setCheckpointTimer vmID token) rfl
  | claimResolve vmID token => exact kept_claimResolve ho ht hr hmay
  | resumeFromCheckpoint vmID gen =>
    have hp : r.phase = .resumed vmID gen := hmay
    exact kept_giveUp ho ht hr (hp ▸ ⟨rfl, rfl, rfl⟩) (fun _ => ⟨rfl, rfl⟩)
      (fun _ _ hfalse htrue => by simp [hfalse] at htrue)
      fun _ _ _ _ hnone hsome => by simp [hnone] at hsome
  | remove vmID => exact kept_remove ho ht hr hmay
  | tryLock vmID => exact kept_tryLock ho ht hr hmay
  | unlock vmID => exact kept_unlock ho ht hr hmay
  | finish vmID => exact kept_finish ho ht hr hmay
  | claimStateful =>
    obtain ⟨gen, hp⟩ := hmay
    exact kept_boot ho ht hr hp io.driver
  | restoreStateful ref =>
    obtain ⟨⟨gen, hp⟩, -⟩ := hmay
    exact kept_restore ho ht hr hp ref io.driver
  | release vmID => exact kept_release ho ht hr hmay io.driver.release
  | removeBundle vmID => exact kept_removeBundle ho ht hr hmay io.removeBundle
  | snapshotStateful vmID gen => exact kept_snapshotStateful ho ht hr hmay hcareful
  | checkpointStateful vmID gen => exact kept_checkpointStateful ho ht hr hmay io.driver
  | resolveStatefulCommit token =>
    obtain ⟨vmID, gen, latest, hp⟩ := hmay
    exact kept_resolveStatefulCommit ho ht hr hp hcareful
  | resolveStatefulAbort token =>
    obtain ⟨vmID, gen, latest, hp⟩ := hmay
    refine (kept_resolveStatefulAbort ho ht hr hp hcareful).of_view ?_
    unfold apply
    dsimp only
    split <;> rfl
  | removeStatefulBundle ref =>
    refine kept_quiet ho ht hr ?_ rfl
    unfold apply StatefulDriver.removeStatefulBundle
    dsimp only
    split <;> rfl

end

/-- A daemon that has just started: nothing is attached, and it knows of no VM. What is on disk is
arbitrary. -/
structure StatefulNode.Idle (s : StatefulNode) : Prop where
  attached : s.volume.attached = none
  vms : s.vms = ∅
  live : s.driver.live = ∅
  checkpoints : s.driver.checkpoints = ∅

namespace Exclusive

lemma of_kept {carry : Option (SnapshotRef × Nat)} (hk : Kept now roles i r ph s) :
    Exclusive now s (update roles i (some { r with carry := carry, phase := ph })) := by
  obtain ⟨h, ho, ht⟩ := hk
  exact ⟨h, by rwa [phases_update], ht carry⟩

section

variable (hI : Exclusive now s roles)
include hI

/-- A call that has nothing taken on begins or returns. -/
lemma replace (hfree : phases roles i = .free) {x : Option Role}
    (hx : ∀ q, x = some q → q.phase = .free ∧ q.begun ≤ now) :
    Exclusive now s (update roles i x) := by
  obtain ⟨h, ho, ht⟩ := hI
  refine ⟨h, by rwa [phases_update_free hfree fun q hq => (hx q hq).1],
    ht.begun_update fun q hq => (hx q hq).2, fun j hj => ?_⟩
  obtain ⟨q, hq, hsince⟩ := ht.start j hj
  have hji : j ≠ i := by
    rintro rfl
    have hstarting := ho.lock.held_start j hj
    rw [hfree] at hstarting
    cases hstarting
  exact ⟨q, by rw [update_of_ne hji, hq], hsince⟩

lemma begin (hi : roles i = none) (req : StatefulRequest) :
    Exclusive now s (update roles i (some (Role.init req now))) := by
  refine hI.replace (by rw [phases, hi]; rfl) ?_
  rintro _ ⟨⟩
  exact ⟨rfl, Nat.le_refl _⟩

lemma elapse (duration : Nat) : Exclusive (now + duration) s roles := by
  obtain ⟨h, ho, ht⟩ := hI
  exact ⟨h, ho, fun j q hq => Nat.le_add_right_of_le (ht.begun j q hq), ht.start⟩

lemma fin (hr : roles i = some r) (hfin : r.fin) : Exclusive now s (update roles i none) :=
  hI.replace ((phases_of_some hr).trans hfin) (by nofun)

/-- One operation of one call. -/
lemma step {flying : List Role} {o : StatefulOp} {io : StatefulIo}
    (hflying : ∀ j q, roles j = some q → q ∈ flying) (hr : roles i = some r) (hmay : r.may o)
    (hG : Guarded now s flying r o io) : Exclusive now (s.exec now o io).2
      (update roles i (some (r.next o (s.exec now o io).1))) := by
  obtain ⟨h, ho, ht⟩ := hI
  have hkept := kept_apply ho ht hr hmay (fun j q hq => hG.1 q (hflying j q hq)) hG.2
  exact of_kept (hkept.of_view (view_observe _))

end

lemma idle (hs : s.Idle) : Exclusive now s fun _ => none := by
  refine ⟨none, ?_, nofun, nofun⟩
  have hvms : ∀ v, s.vms.lookup v = none := by
    rw [hs.vms]
    exact fun _ => rfl
  refine Owned.initial hs.attached ?_ ?_ ?_ ?_ ?_
  · intro v
    rw [view, hs.live]
    rfl
  · exact fun v => congrArg (Option.map _) (hvms v)
  · exact fun v => congrArg (Option.map _) (hvms v)
  · exact fun v => congrArg (Option.map _) (hvms v)
  · intro t
    rw [view, hs.checkpoints]
    rfl

/-- The invariant of a run from a daemon that has just started. -/
lemma run {es : List (CallEvent StatefulRequest StatefulIo)} (hs : s.Idle)
    (hrun : Along stateful.step (fun w e => w.Meets Guarded e) ⟨now, s, []⟩ es) :
    Exclusive (Lib.run stateful.step ⟨now, s, []⟩ es).now
      (Lib.run stateful.step ⟨now, s, []⟩ es).shared
      (Lib.run stateful.step ⟨now, s, []⟩ es).roles :=
  (System.run_invariant Stateful.body_follows Exclusive
    (fun _ _ _ _ req hI hi => hI.begin hi req) (fun _ _ _ duration hI => hI.elapse duration)
    (fun _ _ _ _ _ hI hr hfin => hI.fin hr hfin)
    (fun _ _ _ _ _ _ _ _ hI hflying hr hmay hG => hI.step hflying hr hmay hG) (idle hs) hrun).2

end Exclusive

/-- **One writable guest for each volume.** From any daemon that has just started, along every run
of calls that are prompt and whose operations are careful, at most one VM is running or possibly
running. -/
theorem one_writable_guest {now : Nat} {s : StatefulNode} (hs : s.Idle)
    {es : List (CallEvent StatefulRequest StatefulIo)}
    (hrun : Along stateful.step (fun w e => w.Meets Guarded e) ⟨now, s, []⟩ es) {v w : VmId}
    (hv : v ∈ (run stateful.step ⟨now, s, []⟩ es).shared.driver.live)
    (hw : w ∈ (run stateful.step ⟨now, s, []⟩ es).shared.driver.live) : v = w := by
  obtain ⟨h, ho, -⟩ := Exclusive.run hs hrun
  exact ho.lock.live_unique (AList.lookup_isSome.mpr hv) (AList.lookup_isSome.mpr hw)

/-- The `n` next operations of a call, which all go well. -/
def advances (i n : Nat) : List (CallEvent StatefulRequest StatefulIo) :=
  List.replicate n (.advance i {})

/-- A start that creates the volume. -/
def freshStart (blessedGeneration : Nat) : CallEvent StatefulRequest StatefulIo :=
  .begin (.start { mode := .fresh, createIfMissing := true, volumeSizeBytes := 1
                   blessedGeneration := blessedGeneration })

def coldStart (blessedGeneration : Nat) : CallEvent StatefulRequest StatefulIo :=
  .begin (.start { mode := .cold, blessedGeneration := blessedGeneration })

/-- A start, the destruction of its VM, and a second start. -/
def orderlyStarts : List (CallEvent StatefulRequest StatefulIo) :=
  freshStart 1 :: advances 0 14 ++ .begin (.stop 0 .destroy) :: advances 1 7 ++
    coldStart 2 :: advances 2 12

theorem one_writable_guest_orderly :
    Along stateful.step (fun w e => w.Meets Guarded e) ⟨0, .empty, []⟩ orderlyStarts ∧
      ∀ v ∈ (run stateful.step ⟨0, .empty, []⟩ orderlyStarts).shared.driver.live, v = 1 :=
  have hrun : Along stateful.step (fun w e => w.Meets Guarded e) ⟨0, .empty, []⟩ orderlyStarts := by
    decide +kernel
  ⟨hrun, fun _ hv => one_writable_guest ⟨rfl, rfl, rfl, rfl⟩ hrun hv (by decide +kernel)⟩

/-- A guest does not become ready, and its release fails. The attach is left unbound, so that six
minutes later a second start reclaims it. -/
def abandonedStart : List (CallEvent StatefulRequest StatefulIo) :=
  freshStart 1 :: advances 0 11 ++
    [.advance 0 { refusal := some .unavailable }, .advance 0 { driver := { release := false } },
      .elapse (6 * 60 * 1000)] ++
    coldStart 2 :: advances 1 9

/-- Two VMs have the same volume writable, with no call in flight for longer than the grace. -/
theorem abandoned_start_shares_volume :
    Along stateful.step (fun w e => w.Meets (fun now _ flying _ _ _ => Prompt now flying) e)
        ⟨0, .empty, []⟩ abandonedStart ∧
      (run stateful.step ⟨0, .empty, []⟩ abandonedStart).shared.driver.live.lookup 0 =
        some ⟨0, false⟩ ∧
      (run stateful.step ⟨0, .empty, []⟩ abandonedStart).shared.driver.live.lookup 1 =
        some ⟨0, false⟩ ∧
      (run stateful.step ⟨0, .empty, []⟩ abandonedStart).shared.volume.dir.vol.map
        (·.id) = some 0 := by
  decide +kernel

end Homelab.Noded
