import Homelab.Noded.Stateful.Roles

/-!
# Who owns the volume

The attach lock of a workload stands for one party: a start that has taken it, a VM that is
registered, or a VM that a failed start has left behind. `Owned` is the invariant that makes this
precise, over the part of a node's state it needs (`View`) and the phases of the calls in flight.

* `Locked`: whoever acts as the owner of the volume is the party the lock stands for, and a live VM
  is kept by that party. Since the lock stands for one party, there is at most one live VM
  (`live_unique`).
* `Claimed`: the stop claim on an entry belongs to one call, or to the checkpoint that is pending.
* `Torn`: the teardown of an entry belongs to one call, and gives the lock back only when its VM is
  released.

The lemmas after it say what each kind of step does to an owned volume.
-/

namespace Homelab.Noded

open Homelab.Lib Function

/-! ## What a phase stands for -/

namespace Phase

/-- A start that has the attach lock. -/
@[simp, grind] def starting : Phase → Bool
  | .attached _ | .booted _ _ | .died _ | .bound _ _ => true
  | _ => false

/-- The VM of a start. -/
@[simp, grind] def keeps : Phase → Option VmId
  | .booted vmID _ | .bound vmID _ => some vmID
  | _ => none

/-- The VM a start has bound to the lock. -/
@[simp, grind] def binds : Phase → Option VmId
  | .bound vmID _ => some vmID
  | _ => none

/-- The VM whose lock a reap has given back, with the entry still registered. -/
@[simp, grind] def detaches : Phase → Option VmId
  | .reaping _ vmID .detached => some vmID
  | _ => none

/-- The VM whose entry is dropped, with the lock not given back. -/
@[simp, grind] def drops : Phase → Option VmId
  | .dropped vmID => some vmID
  | _ => none

/-- The entry whose stop claim the call has. -/
@[simp, grind] def stops : Phase → Option VmId
  | .claimed vmID _ | .paused vmID _ _ | .banked vmID _ | .reaping (some _) vmID _
  | .resolving vmID _ _ _ | .resumed vmID _ | .dropping vmID | .dropped vmID => some vmID
  | _ => none

/-- The VM and the token of a checkpoint that is the call's own. -/
@[simp, grind] def resolves : Phase → Option (VmId × Token)
  | .paused vmID _ token | .resolving vmID _ token _ => some (vmID, token)
  | _ => none

/-- The entry the call may tear down without a stop claim. -/
@[simp, grind] def tears : Phase → Option VmId
  | .destroying vmID | .reaping none vmID _ => some vmID
  | _ => none

/-- The entry whose teardown mutex the call has. -/
@[simp, grind] def reaps : Phase → Option VmId
  | .reaping _ vmID _ => some vmID
  | _ => none

/-- The VM that the call knows to be released. -/
@[simp, grind] def buries : Phase → Option VmId
  | .reaping _ vmID .released | .reaping _ vmID .detached | .reaping _ vmID .removed
  | .dropping vmID | .dropped vmID => some vmID
  | _ => none

/-- The call has taken the entry out of the registry. -/
@[simp, grind] def unregistered : Phase → Bool
  | .reaping _ _ .removed | .dropped _ => true
  | _ => false

variable {vmID : VmId} {p : Phase}

/-- Only who works on an entry buries its VM. -/
@[grind →] lemma works_of_buries (h : p.buries = some vmID) :
    p.stops = some vmID ∨ p.reaps = some vmID := by
  cases p with
  | reaping bank v stage => cases stage <;> simp_all
  | _ => simp_all

@[grind →] lemma keeps_of_binds (h : p.binds = some vmID) : p.keeps = some vmID := by
  cases p <;> simp_all

@[grind →] lemma starting_of_keeps (h : p.keeps = some vmID) : p.starting = true := by
  cases p <;> simp_all

@[grind →] lemma stops_of_drops (h : p.drops = some vmID) :
    p.stops = some vmID ∧ p.unregistered = true := by
  cases p <;> simp_all

lemma stops_of_resolves {token : Token} (h : p.resolves = some (vmID, token)) :
    p.stops = some vmID := by
  cases p <;> simp_all

@[grind →] lemma reaps_of_detaches (h : p.detaches = some vmID) : p.reaps = some vmID := by
  cases p with
  | reaping bank v stage => cases stage <;> simp_all
  | _ => simp_all

variable (p)

/-- What `Locked` reads of a phase. -/
@[simp] def grip :=
  (p.starting, p.keeps, p.binds, p.detaches, p.drops)

/-- What `Claimed` reads of a phase. -/
@[simp] def claims := (p.stops, p.resolves, p.tears)

/-- What `Torn` reads of a phase. -/
@[simp] def duty := (p.stops, p.reaps, p.buries, p.unregistered)

/-- What the invariant reads of a phase. -/
def sight := (p.grip, p.claims, p.duty)

end Phase

/-! ## The invariant -/

/-- Whom the attach lock stands for. -/
inductive Holder where
  | start (i : Nat)
  | vm (vmID : VmId)
  /-- A VM that its start could not release, or whose files it could not remove. -/
  | orphan (vmID : VmId)
  deriving DecidableEq, Repr

/-- The VM a holder keeps. -/
@[simp, grind] def Holder.keeps (p : Nat → Phase) : Holder → Option VmId
  | .start i => (p i).keeps
  | .vm vmID | .orphan vmID => some vmID

lemma Holder.keeps_update {p : Nat → Phase} {i : Nat} {ph : Phase} (hph : ph.keeps = (p i).keeps)
    (k : Holder) : k.keeps (update p i ph) = k.keeps p := by
  cases k with
  | start j =>
    by_cases hj : j = i
    · subst hj
      rw [Holder.keeps, update_self]
      exact hph
    · rw [Holder.keeps, update_of_ne hj]
      rfl
  | vm v => rfl
  | orphan v => rfl

/-- The claim an entry records. -/
structure EntryClaim where
  inFlight : Bool
  retryable : Bool
  token : Option Token

/-- What the ownership of a volume is about: the lock, the live VMs, the entries with their claims
and teardowns, and the VMs of the pending checkpoints. -/
structure View where
  attached : Option Attachment
  live : VmId → Bool
  registered : VmId → Option Bool
  claim : VmId → Option EntryClaim
  teardown : VmId → Option VmTeardown
  checkpoint : Token → Option VmId
  nextId : Nat

/-- The VM the lock is bound to. -/
@[simp, grind] def View.owner (s : View) : Option VmId := s.attached.bind (·.owner)

/-- The lock stands for `h`. -/
@[grind cases] structure Locked (s : View) (p : Nat → Phase) (h : Option Holder) : Prop where
  free : h = none ↔ s.attached = none
  held_vm : ∀ v, h = some (.vm v) → s.owner = some v
  held_start : ∀ i, h = some (.start i) → (p i).starting = true
  starting : ∀ i, (p i).starting = true → h = some (.start i)
  binds : ∀ i v, (p i).binds = some v → s.owner = some v
  keeps : ∀ i v, (p i).keeps = some v → s.registered v = none
  registered : ∀ v, s.registered v = some true → (∀ i, (p i).detaches ≠ some v) → h = some (.vm v)
  drops : ∀ i v, (p i).drops = some v → h = some (.vm v)
  live : ∀ v, s.live v = true → ∃ k, h = some k ∧ k.keeps p = some v

/-- Who has a claim on an entry. -/
@[grind cases] structure Claimed (s : View) (p : Nat → Phase) : Prop where
  stops : ∀ i v, (p i).stops = some v → s.claim v = some ⟨true, false, none⟩
  stops_unique : ∀ i j v, (p i).stops = some v → (p j).stops = some v → i = j
  token : ∀ v c t, s.claim v = some c → c.token = some t →
    c.inFlight = true ∧ c.retryable = false ∧ s.checkpoint t = some v
  resolves : ∀ i v t, (p i).resolves = some (v, t) → s.checkpoint t = some v
  tears : ∀ i v, (p i).tears = some v → ∃ c, s.claim v = some c ∧ c.retryable = true
  retryable : ∀ v c, s.claim v = some c → c.retryable = true → c.inFlight = true

/-- Who tears an entry down, and how far that has come. -/
@[grind cases] structure Torn (s : View) (p : Nat → Phase) : Prop where
  reaps : ∀ i v, (p i).reaps = some v → ∃ t, s.teardown v = some t ∧ t.locked = true
  reaps_unique : ∀ i j v, (p i).reaps = some v → (p j).reaps = some v → i = j
  buries : ∀ i v, (p i).buries = some v → s.live v = false
  released : ∀ v t, s.teardown v = some t → t.released = true → s.live v = false
  present : ∀ i v, (p i).stops = some v ∨ (p i).reaps = some v →
    s.registered v = some !(p i).unregistered
  finished : ∀ v c t, s.registered v = some false → s.claim v = some c → c.retryable = true →
    s.teardown v = some t → t.locked = true ∨ t.done = true

/-- Identifiers come from one counter. -/
@[grind cases] structure Bounded (s : View) (p : Nat → Phase) : Prop where
  live : ∀ v, s.live v = true → v < s.nextId
  keeps : ∀ i v, (p i).keeps = some v → v < s.nextId
  registered : ∀ v, s.registered v ≠ none → v < s.nextId
  checkpoint : ∀ t, s.checkpoint t ≠ none → t < s.nextId
  entry : ∀ v, s.registered v = none → s.claim v = none ∧ s.teardown v = none

structure Owned (s : View) (p : Nat → Phase) (h : Option Holder) : Prop where
  lock : Locked s p h
  claims : Claimed s p
  torn : Torn s p
  bounds : Bounded s p

/-- **At most one VM is live.** -/
theorem Locked.live_unique {s : View} {p : Nat → Phase} {h : Option Holder} (hl : Locked s p h)
    {v w : VmId} (hv : s.live v = true) (hw : s.live w = true) : v = w := by
  obtain ⟨k, hk, hkv⟩ := hl.live v hv
  obtain ⟨k', hk', hkw⟩ := hl.live w hw
  rw [hk] at hk'
  cases hk'
  exact Option.some.inj (hkv.symm.trans hkw)

/-! ## Steps that a part of the invariant does not see -/

section

variable {s s' : View} {p p' : Nat → Phase} {h : Option Holder}

/-- VMs may die. -/
lemma Locked.congr (hl : Locked s p h) (hattached : s'.attached = s.attached)
    (hlive : ∀ v, s'.live v = true → s.live v = true) (hregistered : s'.registered = s.registered)
    (hp : ∀ j, (p' j).grip = (p j).grip) : Locked s' p' h := by
  simp only [Phase.grip, Prod.mk.injEq] at hp
  have hkeeps : ∀ k : Holder, k.keeps p' = k.keeps p := by
    intro k
    cases k with
    | start i => exact (hp i).2.1
    | vm v => rfl
    | orphan v => rfl
  constructor
  · rw [hattached]
    exact hl.free
  · rw [View.owner, hattached]
    exact hl.held_vm
  · intro i hi
    exact (hp i).1 ▸ hl.held_start i hi
  · intro i hi
    exact hl.starting i ((hp i).1 ▸ hi)
  · intro i v hi
    rw [View.owner, hattached]
    exact hl.binds i v ((hp i).2.2.1 ▸ hi)
  · intro i v hi
    rw [hregistered]
    exact hl.keeps i v ((hp i).2.1 ▸ hi)
  · intro v hv hdetaches
    rw [hregistered] at hv
    exact hl.registered v hv fun i => (hp i).2.2.2.1 ▸ hdetaches i
  · intro i v hi
    exact hl.drops i v ((hp i).2.2.2.2 ▸ hi)
  · intro v hv
    obtain ⟨k, hk, hkv⟩ := hl.live v (hlive v hv)
    exact ⟨k, hk, (hkeeps k).trans hkv⟩

lemma Claimed.congr (hc : Claimed s p) (hclaim : s'.claim = s.claim)
    (hcheckpoint : s'.checkpoint = s.checkpoint) (hp : ∀ j, (p' j).claims = (p j).claims) :
    Claimed s' p' := by
  simp only [Phase.claims, Prod.mk.injEq] at hp
  constructor
  · intro i v hi
    rw [hclaim]
    exact hc.stops i v ((hp i).1 ▸ hi)
  · intro i j v hi hj
    exact hc.stops_unique i j v ((hp i).1 ▸ hi) ((hp j).1 ▸ hj)
  · rw [hclaim, hcheckpoint]
    exact hc.token
  · intro i v t hi
    rw [hcheckpoint]
    exact hc.resolves i v t ((hp i).2.1 ▸ hi)
  · intro i v hi
    rw [hclaim]
    exact hc.tears i v ((hp i).2.2 ▸ hi)
  · rw [hclaim]
    exact hc.retryable

lemma Torn.congr (ht : Torn s p) (hlive : s'.live = s.live)
    (hregistered : s'.registered = s.registered) (hclaim : s'.claim = s.claim)
    (hteardown : s'.teardown = s.teardown) (hp : ∀ j, (p' j).duty = (p j).duty) : Torn s' p' := by
  simp only [Phase.duty, Prod.mk.injEq] at hp
  constructor
  · intro i v hi
    rw [hteardown]
    exact ht.reaps i v ((hp i).2.1 ▸ hi)
  · intro i j v hi hj
    exact ht.reaps_unique i j v ((hp i).2.1 ▸ hi) ((hp j).2.1 ▸ hj)
  · intro i v hi
    rw [hlive]
    exact ht.buries i v ((hp i).2.2.1 ▸ hi)
  · rw [hteardown, hlive]
    exact ht.released
  · intro i v hi
    rw [hregistered, (hp i).2.2.2]
    exact ht.present i v ((hp i).1 ▸ (hp i).2.1 ▸ hi)
  · rw [hregistered, hclaim, hteardown]
    exact ht.finished

/-- The counter may grow, VMs may die and checkpoints may be resolved. -/
lemma Bounded.mono (hb : Bounded s p) (hnext : s.nextId ≤ s'.nextId)
    (hlive : ∀ v, s'.live v = true → s.live v = true) (hregistered : s'.registered = s.registered)
    (hclaim : s'.claim = s.claim) (hteardown : s'.teardown = s.teardown)
    (hcheckpoint : ∀ t, s'.checkpoint t ≠ none → s.checkpoint t ≠ none)
    (hp : ∀ j v, (p' j).keeps = some v → (p j).keeps = some v) : Bounded s' p' where
  live v hv := Nat.lt_of_lt_of_le (hb.live v (hlive v hv)) hnext
  keeps i v hi := Nat.lt_of_lt_of_le (hb.keeps i v (hp i v hi)) hnext
  registered v hv := Nat.lt_of_lt_of_le (hb.registered v (hregistered ▸ hv)) hnext
  checkpoint t ht := Nat.lt_of_lt_of_le (hb.checkpoint t (hcheckpoint t ht)) hnext
  entry v hv := by
    rw [hclaim, hteardown]
    exact hb.entry v (hregistered ▸ hv)

/-- The next identifier is nobody's. -/
lemma Bounded.unregistered_nextId (hb : Bounded s p) : s.registered s.nextId = none := by
  by_contra hne
  exact Nat.lt_irrefl _ (hb.registered _ hne)

end

/-! ## Starts -/

namespace Owned

variable {s : View} {p : Nat → Phase} {h : Option Holder} {i : Nat} {v : VmId}

/-- Nobody owns the volume of a daemon that has just started. -/
lemma initial (hattached : s.attached = none) (hlive : ∀ v, s.live v = false)
    (hregistered : ∀ v, s.registered v = none) (hclaim : ∀ v, s.claim v = none)
    (hteardown : ∀ v, s.teardown v = none) (hcheckpoint : ∀ t, s.checkpoint t = none) :
    Owned s (fun _ => .free) none := by
  constructor <;> constructor
  all_goals grind

/-- A phase that keeps no VM the call did not keep before. -/
lemma update_keeps {ph : Phase} (hk : ∀ v, ph.keeps = some v → (p i).keeps = some v) :
    ∀ j v, (update p i ph j).keeps = some v → (p j).keeps = some v := by
  intro j v hj
  by_cases hji : j = i
  · subst hji
    rw [update_self] at hj
    exact hk v hj
  · rwa [update_of_ne hji] at hj

/-- A change that only the lock sees. -/
lemma relock (ho : Owned s p h) {ph : Phase} {a : Option Attachment} {h' : Option Holder}
    (hlock : Locked { s with attached := a } (update p i ph) h')
    (hclaims : ph.claims = (p i).claims) (hduty : ph.duty = (p i).duty)
    (hkeeps : ∀ v, ph.keeps = some v → (p i).keeps = some v) :
    Owned { s with attached := a } (update p i ph) h' where
  lock := hlock
  claims := ho.claims.congr rfl rfl (update_unseen Phase.claims hclaims)
  torn := ho.torn.congr rfl rfl rfl rfl (update_unseen Phase.duty hduty)
  bounds := by
    exact ho.bounds.mono (Nat.le_refl _) (fun _ => id) rfl rfl rfl (fun _ => id)
      (update_keeps hkeeps)

/-- A change of phase that no part of the invariant sees. -/
lemma idle (ho : Owned s p h) {ph : Phase} (hsight : ph.sight = (p i).sight) :
    Owned s (update p i ph) h := by
  obtain ⟨hgrip, hclaims, hduty⟩ : ph.grip = (p i).grip ∧ ph.claims = (p i).claims ∧
      ph.duty = (p i).duty := by simpa only [Phase.sight, Prod.mk.injEq] using hsight
  refine ho.relock (ho.lock.congr rfl (fun _ => id) rfl (update_unseen Phase.grip hgrip))
    hclaims hduty fun v hv => ?_
  simp only [Phase.grip, Prod.mk.injEq] at hgrip
  exact hgrip.2.1 ▸ hv

/-- The counter moves on. -/
lemma fresh (ho : Owned s p h) {n : Nat} (hn : s.nextId ≤ n) :
    Owned { s with nextId := n } p h where
  lock := ho.lock.congr rfl (fun _ => id) rfl fun _ => rfl
  claims := ho.claims.congr rfl rfl fun _ => rfl
  torn := ho.torn.congr rfl rfl rfl rfl fun _ => rfl
  bounds := ho.bounds.mono hn (fun _ => id) rfl rfl rfl (fun _ => id) fun _ _ => id

/-- A VM that dies leaves the others as they are. -/
lemma live_of_dead (v w : VmId) (hw : update s.live v false w = true) : s.live w = true := by
  by_cases hwv : w = v
  · subst hwv
    rw [update_self] at hw
    cases hw
  · rwa [update_of_ne hwv] at hw

variable (ho : Owned s p h)
include ho

/-- A start takes the lock. -/
lemma attach (hp : p i = .free) (hfree : s.attached = none) (now : Nat) :
    Owned { s with attached := some ⟨none, now⟩ } (update p i (.attached none))
      (some (.start i)) := by
  have hlock := ho.lock
  -- the lock stood for nobody, so nobody acts as its owner
  have hnone : h = none := ho.lock.free.mpr hfree
  refine ho.relock ?_ (by rw [hp]; rfl) (by rw [hp]; rfl) nofun
  constructor <;> try simp only [update_apply]
  all_goals grind

variable {gen : Nat}

/-- The driver boots the VM of a start. -/
lemma boot (hp : p i = .attached (some gen)) :
    Owned { s with live := update s.live s.nextId true, nextId := s.nextId + 1 }
      (update p i (.booted s.nextId gen)) h := by
  obtain ⟨hlock, hclaims, htorn, hbounds⟩ := ho
  -- the lock is the start's, which has no VM yet
  have hstart : h = some (.start i) := hlock.starting i (by rw [hp]; rfl)
  have hnew := hbounds.unregistered_nextId
  have hentry := hbounds.entry s.nextId hnew
  refine ⟨?_, hclaims.congr rfl rfl (update_unseen Phase.claims (by rw [hp]; rfl)), ?_, ?_⟩
  all_goals
    constructor <;> try simp only [update_apply]
    all_goals grind

/-- A start releases its VM. -/
lemma kill (hp : p i = .booted v gen) :
    Owned { s with live := update s.live v false } (update p i (.died v)) h := by
  obtain ⟨hlock, hclaims, htorn, hbounds⟩ := ho
  have hstart : h = some (.start i) := hlock.starting i (by rw [hp]; rfl)
  refine ⟨?_, hclaims.congr rfl rfl (update_unseen Phase.claims (by rw [hp]; rfl)), ?_, ?_⟩
  all_goals
    constructor <;> try simp only [update_apply]
    all_goals grind

/-- A start ends and leaves the lock behind: with a VM it could not release, or with none. -/
lemma abandon (hp : (∃ gen, p i = .booted v gen) ∨ p i = .died v) :
    Owned s (update p i .free) (some (.orphan v)) := by
  have hlock := ho.lock
  refine ho.relock ?_ ?_ ?_ nofun
  · constructor <;> try simp only [update_apply]
    all_goals grind
  · rcases hp with ⟨gen, hp⟩ | hp <;> rw [hp] <;> rfl
  · rcases hp with ⟨gen, hp⟩ | hp <;> rw [hp] <;> rfl

/-- A start binds its VM to the lock. -/
lemma bind (hp : p i = .booted v gen) (a : Attachment) :
    Owned { s with attached := some { a with owner := some v } }
      (update p i (.bound v gen)) h := by
  have hlock := ho.lock
  have hstart : h = some (.start i) := ho.lock.starting i (by rw [hp]; rfl)
  refine ho.relock ?_ (by rw [hp]; rfl) (by rw [hp]; rfl) fun w hw => by rwa [hp]
  constructor <;> try simp only [update_apply]
  all_goals grind

/-- A start registers its VM, which the lock then stands for. -/
lemma register (hp : p i = .bound v gen) : Owned { s with
        registered := update s.registered v (some true)
        claim := update s.claim v (some ⟨false, false, none⟩)
        teardown := update s.teardown v (some {}) }
      (update p i .free) (some (.vm v)) := by
  obtain ⟨hlock, hclaims, htorn, hbounds⟩ := ho
  have hnew : s.registered v = none := hlock.keeps i v (by rw [hp]; rfl)
  have hlt : v < s.nextId := hbounds.keeps i v (by rw [hp]; rfl)
  have hentry := hbounds.entry v hnew
  have hstart : h = some (.start i) := hlock.starting i (by rw [hp]; rfl)
  have hbound := hlock.binds i v (by rw [hp]; rfl)
  constructor
  all_goals
    constructor <;> try simp only [update_apply]
    all_goals grind

/-! ## The lock is given back -/

/-- A start without a live VM gives the lock back. -/
lemma startDetach (hp : (∃ gen, p i = .attached gen) ∨ ∃ v, p i = .died v) :
    Owned { s with attached := none } (update p i .free) none := by
  have hlock := ho.lock
  refine ho.relock ?_ ?_ ?_ nofun
  · constructor <;> try simp only [update_apply]
    all_goals grind
  · rcases hp with ⟨gen, hp⟩ | ⟨v, hp⟩ <;> rw [hp] <;> rfl
  · rcases hp with ⟨gen, hp⟩ | ⟨v, hp⟩ <;> rw [hp] <;> rfl

variable {bank : Option Nat}

/-- The lock stands for the entry of a reap that has not given it back. -/
lemma holder_of_reaping (hp : p i = .reaping bank v .released) : h = some (.vm v) := by
  have hpresent : s.registered v = some true := by
    rw [ho.torn.present i v (.inr (by rw [hp]; rfl)), hp]
    rfl
  refine ho.lock.registered v hpresent fun j hj => ?_
  have hji := ho.torn.reaps_unique j i v (Phase.reaps_of_detaches hj) (by rw [hp]; rfl)
  subst hji
  rw [hp] at hj
  cases hj

/-- A reap gives the lock back once its VM is released. -/
lemma reapDetach (hp : p i = .reaping bank v .released) :
    Owned { s with attached := none } (update p i (.reaping bank v .detached)) none := by
  have hvm : h = some (.vm v) := ho.holder_of_reaping hp
  have hdead : s.live v = false := ho.torn.buries i v (by rw [hp]; rfl)
  have hpresent := ho.torn.present i v (.inr (by rw [hp]; rfl))
  have hdrops : ∀ j, (p j).drops = some v → s.registered v = some false := by
    intro j hj
    obtain ⟨hstops, hgone⟩ := Phase.stops_of_drops hj
    rw [ho.torn.present j v (.inl hstops), hgone]
    rfl
  have hlock := ho.lock
  refine ho.relock ?_ (by rw [hp]; cases bank <;> rfl) (by rw [hp]; cases bank <;> rfl) nofun
  constructor <;> try simp only [update_apply]
  all_goals grind

/-- A call that has dropped the entry of a dead VM gives its lock back. -/
lemma dropDetach (hp : p i = .dropped v) :
    Owned { s with attached := none } (update p i .free) none := by
  obtain ⟨hlock, hclaims, htorn, hbounds⟩ := ho
  have hvm : h = some (.vm v) := hlock.drops i v (by rw [hp]; rfl)
  have hdead : s.live v = false := htorn.buries i v (by rw [hp]; rfl)
  have hgone : s.registered v = some false := by
    simpa [hp] using htorn.present i v (.inl (by rw [hp]; rfl))
  have hdrops : ∀ j, (p j).drops = some v → j = i := by
    intro j hj
    exact hclaims.stops_unique j i v (Phase.stops_of_drops hj).1 (by rw [hp]; rfl)
  constructor
  all_goals
    constructor <;> try simp only [update_apply]
    all_goals grind

/-- A lock that no start holds and that is bound to no VM is reclaimed, when no VM is live. -/
lemma reclaim (hdead : ∀ v, s.live v = false) (hstart : ∀ j, h ≠ some (.start j))
    (hvm : ∀ v, h ≠ some (.vm v)) : Owned { s with attached := none } p none where
  lock := by
    have hlock := ho.lock
    constructor
    all_goals grind
  claims := ho.claims.congr rfl rfl fun _ => rfl
  torn := ho.torn.congr rfl rfl rfl rfl fun _ => rfl
  bounds := ho.bounds.mono (Nat.le_refl _) (fun _ => id) rfl rfl rfl (fun _ => id) fun _ _ => id

/-! ## Claims -/

variable {c : EntryClaim}

/-- A stop claims an entry that nobody has claimed. -/
lemma beginStop (hp : p i = .free) (hpresent : s.registered v = some true)
    (hc : s.claim v = some c) (hfree : c.inFlight = false) :
    Owned { s with claim := update s.claim v (some ⟨true, false, none⟩) }
      (update p i (.claimed v gen)) h := by
  obtain ⟨hlock, hclaims, htorn, hbounds⟩ := ho
  refine ⟨hlock.congr rfl (fun _ => id) rfl
    (update_unseen Phase.grip (by rw [hp]; rfl)), ?_, ?_, ?_⟩
  all_goals
    constructor <;> try simp only [update_apply]
    all_goals grind

/-- A destroy claims an entry that no other kind of stop has claimed. -/
lemma beginDestroy (hp : p i = .free) (hpresent : s.registered v = some true)
    (hc : s.claim v = some c) (hfree : c.inFlight = true → c.retryable = true) :
    Owned { s with claim := update s.claim v (some { c with inFlight := true, retryable := true }) }
      (update p i (.destroying v)) h := by
  obtain ⟨hlock, hclaims, htorn, hbounds⟩ := ho
  refine ⟨hlock.congr rfl (fun _ => id) rfl
    (update_unseen Phase.grip (by rw [hp]; rfl)), ?_, ?_, ?_⟩
  all_goals
    constructor <;> try simp only [update_apply]
    all_goals grind

/-- A resolve takes the claim of a pending checkpoint over. -/
lemma claimResolve {latest : Nat} {t : Token} (hp : p i = .free)
    (hpresent : s.registered v = some true) (hc : s.claim v = some c) (ht : c.token = some t) :
    Owned { s with claim := update s.claim v (some { c with token := none }) }
      (update p i (.resolving v gen t latest)) h := by
  obtain ⟨hlock, hclaims, htorn, hbounds⟩ := ho
  obtain ⟨hflight, hretry, hcheckpoint⟩ := hclaims.token v c t hc ht
  refine ⟨hlock.congr rfl (fun _ => id) rfl
    (update_unseen Phase.grip (by rw [hp]; rfl)), ?_, ?_, ?_⟩
  all_goals
    constructor <;> try simp only [update_apply]
    all_goals grind

/-- A call that has the stop claim of a registered entry gives it up, and leaves the claim `c`
behind. -/
lemma giveUp (hstops : (p i).stops = some v)
    (hgrip : (p i).grip = Phase.free.grip) (hpresent : (p i).unregistered = false)
    (hretry : c.retryable = true → c.inFlight = true) (htoken : ∀ t, c.token = some t →
      c.inFlight = true ∧ c.retryable = false ∧ s.checkpoint t = some v) :
    Owned { s with claim := update s.claim v (some c) } (update p i .free) h := by
  have hold := ho.claims.stops i v hstops
  refine ⟨ho.lock.congr rfl (fun _ => id) rfl (update_unseen Phase.grip hgrip.symm), ?_, ?_, ?_⟩
  · have hclaims := ho.claims
    constructor <;> try simp only [update_apply]
    all_goals grind
  · have htorn := ho.torn
    constructor <;> try simp only [update_apply]
    all_goals grind
  · have hbounds := ho.bounds
    constructor <;> try simp only [update_apply]
    all_goals grind

/-- A call ends without having touched the entry it had a hold on. -/
lemma letGo (hgrip : (p i).grip = Phase.free.grip) : Owned s (update p i .free) h := by
  obtain ⟨hlock, hclaims, htorn, hbounds⟩ := ho
  refine ⟨hlock.congr rfl (fun _ => id) rfl (update_unseen Phase.grip hgrip.symm), ?_, ?_, ?_⟩
  all_goals
    constructor <;> try simp only [update_apply]
    all_goals grind

/-! ## Teardown -/

variable {t : VmTeardown}

/-- A reap takes the teardown's mutex. -/
lemma lock_teardown
    (hp : (bank = none ∧ p i = .destroying v) ∨ ∃ gen, bank = some gen ∧ p i = .banked v gen)
    (ht : s.teardown v = some t) (hfree : t.locked = false) (hdone : t.done = false) :
    Owned { s with teardown := update s.teardown v (some { t with locked := true }) }
      (update p i (.reaping bank v (if t.released then .released else .locked))) h := by
  have hpresent : s.registered v = some true := by
    rcases hp with ⟨-, hp⟩ | ⟨gen, -, hp⟩
    · -- an entry that a destroy may tear down is in the registry until that is over
      obtain ⟨c, hc, hretry⟩ := ho.claims.tears i v (by rw [hp]; rfl)
      rcases hr : s.registered v with _ | _ | _
      · rw [(ho.bounds.entry v hr).1] at hc
        cases hc
      · rcases ho.torn.finished v c t hr hc hretry ht with hlocked | hover
        · rw [hfree] at hlocked
          cases hlocked
        · rw [hdone] at hover
          cases hover
      · rfl
    · rw [ho.torn.present i v (.inl (by rw [hp]; rfl)), hp]
      rfl
  refine ⟨ho.lock.congr rfl (fun _ => id) rfl (update_unseen Phase.grip ?_), ?_, ?_, ?_⟩
  · rcases hp with ⟨rfl, hp⟩ | ⟨gen, rfl, hp⟩ <;> rw [hp] <;> cases t.released <;> rfl
  · refine ho.claims.congr rfl rfl (update_unseen Phase.claims ?_)
    rcases hp with ⟨rfl, hp⟩ | ⟨gen, rfl, hp⟩ <;> rw [hp] <;> rfl
  · have htorn := ho.torn
    have hdead := ho.torn.released v t ht
    rcases hp with ⟨rfl, hp⟩ | ⟨gen, rfl, hp⟩ <;> cases hr : t.released <;>
      constructor <;> try simp only [update_apply]
    all_goals grind
  · have hbounds := ho.bounds
    constructor <;> try simp only [update_apply]
    all_goals grind

/-- A reap that fails gives the mutex back. -/
lemma unlock {stage : ReapStage} (hp : p i = .reaping bank v stage)
    (hstage : stage = .locked ∨ stage = .released) (ht : s.teardown v = some t) :
    Owned { s with teardown := update s.teardown v (some { t with locked := false }) }
      (update p i (Phase.reaping bank v stage).unlock) h := by
  have hpresent : s.registered v = some true := by
    rw [ho.torn.present i v (.inr (by rw [hp]; rfl)), hp]
    rcases hstage with rfl | rfl <;> rfl
  refine ⟨ho.lock.congr rfl (fun _ => id) rfl (update_unseen Phase.grip ?_), ?_, ?_, ?_⟩
  · rw [hp]
    rcases hstage with rfl | rfl <;> cases bank <;> rfl
  · have hclaims := ho.claims
    cases bank <;> constructor <;> try simp only [update_apply]
    all_goals grind [Phase.unlock]
  · have htorn := ho.torn
    have hdead := ho.torn.released v t ht
    cases bank <;> constructor <;> try simp only [update_apply]
    all_goals grind [Phase.unlock]
  · have hbounds := ho.bounds
    cases bank <;> constructor <;> try simp only [update_apply]
    all_goals grind [Phase.unlock]

/-- A reap that has come to its end gives the mutex back. -/
lemma finish (hp : p i = .reaping bank v .removed) (ht : s.teardown v = some t) : Owned { s with
        teardown := update s.teardown v (some { t with locked := false, done := true }) }
      (update p i .free) h := by
  obtain ⟨hlock, hclaims, htorn, hbounds⟩ := ho
  have hdead := htorn.released v t ht
  refine ⟨hlock.congr rfl (fun _ => id) rfl
    (update_unseen Phase.grip (by rw [hp]; rfl)), ?_, ?_, ?_⟩
  all_goals
    constructor <;> try simp only [update_apply]
    all_goals grind

/-- A reap releases its VM. -/
lemma reapRelease (hp : p i = .reaping bank v .locked) (ht : s.teardown v = some t) : Owned { s with
        live := update s.live v false
        teardown := update s.teardown v (some { t with released := true }) }
      (update p i (.reaping bank v .released)) h where
  lock := ho.lock.congr rfl (live_of_dead v) rfl (update_unseen Phase.grip (by rw [hp]; rfl))
  claims := ho.claims.congr rfl rfl (update_unseen Phase.claims (by rw [hp]; cases bank <;> rfl))
  torn := by
    have htorn := ho.torn
    have hreaps := ho.torn.reaps i v (by rw [hp]; rfl)
    cases bank <;> constructor <;> try simp only [update_apply]
    all_goals grind
  bounds := by
    have hbounds := ho.bounds
    constructor <;> try simp only [update_apply]
    all_goals grind

/-- A reap takes the entry of a VM out of the registry, after it has given the lock back. -/
lemma reapRemove (hp : p i = .reaping bank v .detached) :
    Owned { s with registered := update s.registered v (some false) }
      (update p i (.reaping bank v .removed)) h where
  lock := by
    have hpresent := ho.torn.present i v (.inr (by rw [hp]; rfl))
    have hkeeps : ∀ k : Holder, k.keeps (update p i (.reaping bank v .removed)) = k.keeps p :=
      Holder.keeps_update (by rw [hp]; rfl)
    have hlock := ho.lock
    constructor <;> try simp only [hkeeps, update_apply]
    all_goals grind
  claims := ho.claims.congr rfl rfl (update_unseen Phase.claims (by rw [hp]; cases bank <;> rfl))
  torn := by
    have hclaims := ho.claims
    have htorn := ho.torn
    obtain ⟨t, ht, hlocked⟩ := ho.torn.reaps i v (by rw [hp]; rfl)
    cases bank <;> constructor <;> try simp only [update_apply]
    all_goals grind
  bounds := by
    have hbounds := ho.bounds
    have hpresent := ho.torn.present i v (.inr (by rw [hp]; rfl))
    constructor <;> try simp only [update_apply]
    all_goals grind

/-- A stop whose VM the driver has torn down. -/
lemma drop (hstops : (p i).stops = some v) (hgrip : (p i).grip = Phase.free.grip)
    (hreaps : (p i).reaps = none) (hpresent : (p i).unregistered = false) :
    Owned { s with live := update s.live v false } (update p i (.dropping v)) h := by
  obtain ⟨hlock, hclaims, htorn, hbounds⟩ := ho
  refine ⟨hlock.congr rfl (live_of_dead v) rfl (update_unseen Phase.grip hgrip.symm), ?_, ?_, ?_⟩
  all_goals
    constructor <;> try simp only [update_apply]
    all_goals grind

/-- The entry of a VM that the driver has torn down leaves the registry. -/
lemma dropRemove (hp : p i = .dropping v) :
    Owned { s with registered := update s.registered v (some false) }
      (update p i (.dropped v)) h := by
  have hpresent : s.registered v = some true := by
    rw [ho.torn.present i v (.inl (by rw [hp]; rfl)), hp]
    rfl
  have hclaim := ho.claims.stops i v (by rw [hp]; rfl)
  -- no reap works on an entry with a stop claim but the one of the claim's own call
  have hnoReap : ∀ j, (p j).reaps ≠ some v := by
    intro j hj
    rcases hpj : p j with _ | _ | _ | _ | _ | _ | ⟨bank, w, stage⟩ | _ | _ | _ | _ | _ | _ | _ <;>
      rw [hpj] at hj <;> try cases hj
    cases bank with
    | none =>
      obtain ⟨c, hc, hretry⟩ := ho.claims.tears j v (by rw [hpj]; rfl)
      rw [hclaim] at hc
      cases hc
      cases hretry
    | some gen =>
      have hji := ho.claims.stops_unique j i v (by rw [hpj]; rfl) (by rw [hp]; rfl)
      subst hji
      rw [hp] at hpj
      cases hpj
  obtain ⟨hlock, hclaims, htorn, hbounds⟩ := ho
  refine ⟨?_, hclaims.congr rfl rfl (update_unseen Phase.claims (by rw [hp]; rfl)), ?_, ?_⟩
  all_goals
    constructor <;> try simp only [update_apply]
    all_goals grind

/-! ## Checkpoints -/

/-- A stop has its VM checkpointed. -/
lemma checkpoint {n : Nat} (hp : p i = .claimed v gen) (hn : s.nextId < n) :
    Owned { s with checkpoint := update s.checkpoint s.nextId (some v), nextId := n }
      (update p i (.paused v gen s.nextId)) h where
  lock := ho.lock.congr rfl (fun _ => id) rfl (update_unseen Phase.grip (by rw [hp]; rfl))
  claims := by
    have hnew : s.checkpoint s.nextId = none := by
      by_contra hne
      exact Nat.lt_irrefl _ (ho.bounds.checkpoint _ hne)
    have hclaims := ho.claims
    constructor <;> try simp only [update_apply]
    all_goals grind
  torn := ho.torn.congr rfl rfl rfl rfl (update_unseen Phase.duty (by rw [hp]; rfl))
  bounds := by
    have hbounds := ho.bounds
    constructor <;> try simp only [update_apply]
    all_goals grind

/-- A resolve consumes its checkpoint. -/
lemma resolve {latest : Nat} {t : Token} (hp : p i = .resolving v gen t latest) (latest' : Nat) :
    Owned { s with checkpoint := update s.checkpoint t none }
      (update p i (.resumed v latest')) h where
  lock := ho.lock.congr rfl (fun _ => id) rfl (update_unseen Phase.grip (by rw [hp]; rfl))
  claims := by
    have hclaim := ho.claims.stops i v (by rw [hp]; rfl)
    have hcheckpoint := ho.claims.resolves i v t (by rw [hp]; rfl)
    -- the token is nobody else's
    have hunique : ∀ j w, (p j).resolves = some (w, t) → j = i := by
      intro j w hj
      have hw := ho.claims.resolves j w t hj
      rw [hcheckpoint] at hw
      cases hw
      exact ho.claims.stops_unique j i v (Phase.stops_of_resolves hj) (by rw [hp]; rfl)
    have hclaims := ho.claims
    constructor <;> try simp only [update_apply]
    all_goals grind
  torn := ho.torn.congr rfl rfl rfl rfl (update_unseen Phase.duty (by rw [hp]; rfl))
  bounds := by
    have hbounds := ho.bounds
    constructor <;> try simp only [update_apply]
    all_goals grind

end Owned

end Homelab.Noded
