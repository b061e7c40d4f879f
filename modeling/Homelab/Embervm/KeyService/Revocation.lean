import Mathlib.Order.Basic
import Homelab.Embervm.KeyService

/-!
# Revocation

Raising the floor of a principal revokes every data key wrapped below it. This module shows that
nothing brings such a key back, over all runs of calls, failed appends and restarts.

* `EpochChange` is what a call can do to the service: move an epoch up, move a floor up to at most
  the epoch, do either in the table only because the append timed out, restart. `step_change`: no
  call does anything else.
* `Coherent`: the table is never behind memory, and no floor in it is above the epoch in memory.
  `Synced`: the two are the same, until an append of the principal times out.
* `unwrap_wrapPlatform_iff` says when an envelope the platform wrapped is unwrapped.
* `revocation_survives` is the result for all runs. Besides the floor and the root generation the
  custody of the principal decides: once a principal's keys are in a customer's custody, the
  platform no longer unwraps what it wrapped (`custody_change_refuses_envelope`).
-/

namespace Homelab.Embervm.KeyService

open Homelab.Lib Table
open Homelab.Embervm.OpLog

variable {ρ κ χ τ : Type} {s s' t : KeyService ρ}

/-! ## What a call can do -/

/-- What an op does to the epoch and floor of its principal, and when the service appends it. -/
inductive EpochMove (old : Nat × Nat) : KeyOpKind → Nat × Nat → Prop where
  | set {epoch : Nat} (reason : String) (h : old.1 < epoch) :
      EpochMove old (.keyEpochSet epoch reason) (epoch, old.2)
  | raised {minEpoch : Nat} (reason : String) (h : old.2 < minEpoch) (hle : minEpoch ≤ old.1) :
      EpochMove old (.keyMinEpochRaised minEpoch reason) (old.1, minEpoch)

/-- The changes of a service; `late` is the principal of an append that timed out. -/
inductive EpochChange (s : KeyService ρ) (late : String → Prop) : KeyService ρ → Prop where
  | none : EpochChange s late s
  | moved {principal : String} {kind : KeyOpKind} {new : Nat × Nat} (ts : Int)
      (hmove : EpochMove (s.epochsOf principal) kind new) :
      EpochChange s late { s with
        db := s.db.project ⟨kind, principal, ts⟩, epochs := s.epochs.insert principal new }
  /-- The append timed out: the table has moved and memory has not. -/
  | unreported {principal : String} {kind : KeyOpKind} {new : Nat × Nat} (ts : Int)
      (hmove : EpochMove (s.epochsOf principal) kind new) (hlate : late principal) :
      EpochChange s late { s with db := s.db.project ⟨kind, principal, ts⟩ }
  | restarted (config : KeyConfig ρ) : EpochChange s late (start config s.db)

variable (s) (principal : String)

/-- A write moves memory and table, the table only, or nothing. -/
lemma writeThrough_change {late : String → Prop} {kind : KeyOpKind} {new : Nat × Nat}
    (hmove : EpochMove (s.epochsOf principal) kind new) (reply : Nat) (io : AppendIo)
    (hlate : io.fault = some .timedOut → late principal) :
    EpochChange s late (s.writeThrough principal kind new reply io).2 := by
  unfold writeThrough KeyEpochs.append
  rcases hf : io.fault with _ | e | _
  · exact .moved io.ts hmove
  · exact .none
  · exact .unreported io.ts hmove (hlate hf)

lemma setEpoch_change {late : String → Prop} (epoch : Nat) (reason : String) (io : AppendIo)
    (hlate : io.fault = some .timedOut → late principal) :
    EpochChange s late (s.setEpoch principal epoch reason io).2 := by
  unfold setEpoch
  split
  · exact .none
  · exact .none
  · simp only
    split
    next hlt => exact s.writeThrough_change principal (.set reason hlt) epoch io hlate
    · exact .none

lemma raiseMinEpoch_change {late : String → Prop} (minEpoch : Nat) (reason : String)
    (io : AppendIo) (hlate : io.fault = some .timedOut → late principal) :
    EpochChange s late (s.raiseMinEpoch principal minEpoch reason io).2 := by
  unfold raiseMinEpoch
  split
  · exact .none
  · exact .none
  · simp only
    split
    next hlt =>
      split
      next hle => exact s.writeThrough_change principal (.raised reason hlt hle) minEpoch io hlate
      · exact .none
    · exact .none

lemma ensureFirstEpoch_change {late : String → Prop} (io : AppendIo)
    (hlate : io.fault = some .timedOut → late principal) :
    EpochChange s late (s.ensureFirstEpoch principal io).2 := by
  unfold ensureFirstEpoch
  split
  next minEpoch heq =>
    have hmove : EpochMove (s.epochsOf principal) (.keyEpochSet 1 "first_use") (1, minEpoch) := by
      rw [heq]
      exact .set "first_use" Nat.one_pos
    exact s.writeThrough_change principal hmove 1 io hlate
  · exact .none

variable (C : KeyCrypto ρ κ χ τ)

lemma issueDataKey_change {late : String → Prop} (s : KeyService ρ) (principal : String)
    (artifact : Artifact) (io : AppendIo) (random : RandomBytes kekSize)
    (nonce : RandomBytes nonceSize) (kms : KmsReplies)
    (hlate : io.fault = some .timedOut → late principal) :
    EpochChange s late (s.issueDataKey C principal artifact io random nonce kms).2 := by
  have hplatform :
      EpochChange s late (s.issuePlatformDataKey C principal artifact io random nonce).2 := by
    have hfirst := s.ensureFirstEpoch_change principal io hlate
    unfold issuePlatformDataKey
    split
    · exact .none
    · exact .none
    · split
      next heq => rwa [heq] at hfirst
      next heq => rwa [heq] at hfirst
  unfold issueDataKey
  split
  · split
    · exact .none
    · exact hplatform
  · exact hplatform

/-- **A call makes one of these changes**, and leaves only its own principal behind the table. -/
theorem step_change (s : KeyService ρ) (call : KeyCall ρ χ τ) :
    EpochChange s (fun p => call.timesOut p = true) (s.step C call) := by
  have hlate (principal : String) (io : AppendIo) (h : io.fault = some .timedOut) :
      (decide (principal = principal) && decide (io.fault = some .timedOut)) = true := by
    simp [h]
  cases call with
  | setEpoch principal epoch reason io =>
    exact s.setEpoch_change principal epoch reason io (hlate principal io)
  | raiseMinEpoch principal minEpoch reason io =>
    exact s.raiseMinEpoch_change principal minEpoch reason io (hlate principal io)
  | issueDataKey principal artifact io random nonce kms =>
    exact s.issueDataKey_change C principal artifact io random nonce kms (hlate principal io)
  | wrap principal dataKey nonce kms => exact .none
  | unwrap envelope kms => exact .none
  | rewrap principal envelope artifact nonce kms => exact .none
  | restart config => exact .restarted config

/-! ## Epochs, floors and the table -/

/-- The epoch and floor a restart would read for a principal. -/
def durableEpochs (db : KeyEpochs) (principal : String) : Nat × Nat :=
  ((db.lookup principal).map fun row => (row.currentEpoch, row.minEpoch)).getD (0, 0)

/-- The table is not behind memory, and no floor in it is above the epoch in memory. -/
structure Coherent (s : KeyService ρ) : Prop where
  epoch_le : ∀ p, (s.epochsOf p).1 ≤ (durableEpochs s.db p).1
  floor_le : ∀ p, (s.epochsOf p).2 ≤ (durableEpochs s.db p).2
  floor_le_epoch : ∀ p, (durableEpochs s.db p).2 ≤ (s.epochsOf p).1

/-- Memory holds what the table holds for the principal. -/
def Synced (p : String) (s : KeyService ρ) : Prop :=
  s.epochs.lookup p = (s.db.lookup p).map fun row => (row.currentEpoch, row.minEpoch)

/-- A restart reads what the table holds. -/
lemma synced_start (config : KeyConfig ρ) (db : KeyEpochs) (p : String) :
    Synced p (start config db) :=
  lookup_mapVal db _ p

lemma epochsOf_start (config : KeyConfig ρ) (db : KeyEpochs) (p : String) :
    (start config db).epochsOf p = durableEpochs db p :=
  congrArg (Option.getD · (0, 0)) (synced_start config db p)

/-- The epochs after an insert. -/
lemma epochsOf_insert (db : KeyEpochs) (principal : String) (e : Nat × Nat) (p : String) :
    ({ s with db := db, epochs := s.epochs.insert principal e } : KeyService ρ).epochsOf p =
      if p = principal then e else s.epochsOf p := by
  unfold epochsOf
  rw [lookup_insert]
  split <;> rfl

/-- The rows after an epoch was set. -/
lemma lookup_project_set (db : KeyEpochs) (epoch : Nat) (reason principal : String) (ts : Int)
    (p : String) : ((db.project ⟨.keyEpochSet epoch reason, principal, ts⟩).lookup p).map
        (fun row => (row.currentEpoch, row.minEpoch)) =
      if p = principal then some (epoch, (durableEpochs db principal).2)
      else (db.lookup p).map fun row => (row.currentEpoch, row.minEpoch) := by
  unfold KeyEpochs.project durableEpochs
  rcases hrow : db.lookup principal with _ | row
  · simp only [lookup_insert]
    split <;> rfl
  · simp only [lookup_insert]
    split <;> rfl

/-- The rows after a floor was raised; a principal without a row gets none. -/
lemma lookup_project_raised (db : KeyEpochs) (minEpoch : Nat) (reason principal : String) (ts : Int)
    (p : String) : ((db.project ⟨.keyMinEpochRaised minEpoch reason, principal, ts⟩).lookup p).map
        (fun row => (row.currentEpoch, row.minEpoch)) =
      if p = principal then (db.lookup principal).map fun row => (row.currentEpoch, minEpoch)
      else (db.lookup p).map fun row => (row.currentEpoch, row.minEpoch) := by
  simp only [KeyEpochs.project, lookup_update]
  split
  · rw [Option.map_map]
    rfl
  · rfl

variable {s}

/-- A principal that is past epoch 0 in memory has a row. -/
lemma Coherent.row (h : Coherent s) {p : String} (hpos : 0 < (s.epochsOf p).1) :
    ∃ row, s.db.lookup p = some row := by
  rcases hrow : s.db.lookup p with _ | row
  · have hle := h.epoch_le p
    simp only [durableEpochs, hrow, Option.map_none, Option.getD_none] at hle
    exact absurd hpos (Nat.not_lt.mpr hle)
  · exact ⟨row, rfl⟩

/-- What an op does to the table: the principal's entry moves as the service means it to, over the
other of its two numbers as the table has it. -/
lemma Coherent.durableEpochs_project (h : Coherent s) {principal : String} {kind : KeyOpKind}
    {new : Nat × Nat} (hmove : EpochMove (s.epochsOf principal) kind new) (ts : Int) (p : String) :
    durableEpochs (s.db.project ⟨kind, principal, ts⟩) p =
      if p = principal then
        match kind with
        | .keyEpochSet epoch _ => (epoch, (durableEpochs s.db principal).2)
        | .keyMinEpochRaised minEpoch _ => ((durableEpochs s.db principal).1, minEpoch)
      else durableEpochs s.db p := by
  cases hmove with
  | set reason hlt =>
    rw [durableEpochs, lookup_project_set]
    split <;> rfl
  | raised reason hlt hle =>
    obtain ⟨row, hrow⟩ := h.row (Nat.lt_of_le_of_lt (Nat.zero_le _) (hlt.trans_le hle))
    rw [durableEpochs, lookup_project_raised]
    split
    · simp [hrow, durableEpochs]
    · rfl

/-- A write keeps the table at or past memory, whether memory follows or not. -/
lemma Coherent.moved (h : Coherent s) {principal : String} {kind : KeyOpKind} {new : Nat × Nat}
    (hmove : EpochMove (s.epochsOf principal) kind new) (ts : Int) {t : KeyService ρ}
    (hdb : t.db = s.db.project ⟨kind, principal, ts⟩)
    (ht : ∀ p, t.epochsOf p = s.epochsOf p ∨ (p = principal ∧ t.epochsOf p = new)) :
    Coherent t := by
  have hproject := h.durableEpochs_project hmove ts
  have hall : ∀ p, (t.epochsOf p).1 ≤ (durableEpochs t.db p).1 ∧
      (t.epochsOf p).2 ≤ (durableEpochs t.db p).2 ∧
      (durableEpochs t.db p).2 ≤ (t.epochsOf p).1 := by
    intro p
    have hepoch := h.epoch_le p
    have hfloor := h.floor_le p
    have hle := h.floor_le_epoch p
    rw [hdb, hproject p]
    rcases ht p with hsame | ⟨rfl, hnew⟩
    · rw [hsame]
      split
      next hp =>
        subst hp
        cases hmove with
        | set reason hlt => exact ⟨hlt.le, hfloor, hle⟩
        | raised reason hlt hle' => exact ⟨hepoch, hlt.le, hle'⟩
      · exact ⟨hepoch, hfloor, hle⟩
    · rw [hnew, if_pos rfl]
      cases hmove with
      | set reason hlt => exact ⟨le_rfl, hfloor, hle.trans hlt.le⟩
      | raised reason hlt hle' => exact ⟨hepoch, le_rfl, hle'⟩
  exact ⟨fun p => (hall p).1, fun p => (hall p).2.1, fun p => (hall p).2.2⟩

variable {late : String → Prop}

/-- **Step lemma.** -/
theorem Coherent.change (h : Coherent s) (hc : EpochChange s late s') : Coherent s' := by
  cases hc with
  | none => exact h
  | @moved principal kind new ts hmove =>
    refine h.moved hmove ts rfl fun p => ?_
    rw [epochsOf_insert]
    split
    next hp => exact .inr ⟨hp, rfl⟩
    · exact .inl rfl
  | unreported ts hmove hlate => exact h.moved hmove ts rfl fun p => .inl rfl
  | restarted config =>
    refine ⟨fun p => ?_, fun p => ?_, fun p => ?_⟩
    · exact (congrArg Prod.fst (epochsOf_start config s.db p)).le
    · exact (congrArg Prod.snd (epochsOf_start config s.db p)).le
    · rw [epochsOf_start]
      exact (h.floor_le_epoch p).trans (h.epoch_le p)

/-- No change lowers an epoch or a floor in memory. -/
lemma Coherent.epochs_le (h : Coherent s) (hc : EpochChange s late s') (p : String) :
    (s.epochsOf p).1 ≤ (s'.epochsOf p).1 ∧ (s.epochsOf p).2 ≤ (s'.epochsOf p).2 := by
  cases hc with
  | none => exact ⟨le_rfl, le_rfl⟩
  | moved ts hmove =>
    rw [epochsOf_insert]
    split
    next hp =>
      rw [hp]
      cases hmove with
      | set reason hlt => exact ⟨hlt.le, le_rfl⟩
      | raised reason hlt hle => exact ⟨le_rfl, hlt.le⟩
    · exact ⟨le_rfl, le_rfl⟩
  | unreported ts hmove hlate => exact ⟨le_rfl, le_rfl⟩
  | restarted config =>
    rw [epochsOf_start]
    exact ⟨h.epoch_le p, h.floor_le p⟩

/-- A change keeps memory and table the same for a principal whose append it does not leave
unanswered. -/
lemma Synced.change {p : String} (h : Synced p s) (hs : Coherent s) (hc : EpochChange s late s')
    (hp : ¬ late p) : Synced p s' := by
  cases hc with
  | none => exact h
  | @moved principal kind new ts hmove =>
    show (s.epochs.insert principal new).lookup p = _
    rw [lookup_insert]
    have hdurable : p = principal → s.epochsOf principal = durableEpochs s.db principal := by
      rintro rfl
      exact congrArg (Option.getD · (0, 0)) h
    cases hmove with
    | set reason hlt =>
      rw [lookup_project_set]
      split
      next hp => rw [hdurable hp]
      · exact h
    | raised reason hlt hle =>
      rw [lookup_project_raised]
      split
      next hp =>
        obtain ⟨row, hrow⟩ := hs.row (Nat.lt_of_le_of_lt (Nat.zero_le _) (hlt.trans_le hle))
        rw [hdurable hp]
        simp [hrow, durableEpochs]
      · exact h
  | @unreported principal kind new ts hmove hlate =>
    have hne : p ≠ principal := fun heq => hp (heq ▸ hlate)
    refine h.trans ?_
    cases hmove with
    | set reason hlt => exact ((lookup_project_set ..).trans (if_neg hne)).symm
    | raised reason hlt hle => exact ((lookup_project_raised ..).trans (if_neg hne)).symm
  | restarted config => exact synced_start config s.db p

/-- A service on a new table. -/
def init (config : KeyConfig ρ) : KeyService ρ := start config ∅

lemma coherent_init (config : KeyConfig ρ) : Coherent (init config) where
  epoch_le _ := le_rfl
  floor_le _ := le_rfl
  floor_le_epoch _ := le_rfl

/-- **Run lemma.** -/
theorem coherent_run (h : Coherent s) (calls : List (KeyCall ρ χ τ)) :
    Coherent (run (step C) s calls) :=
  run_invariant Coherent (fun s call hs => hs.change (s.step_change C call)) h calls

/-- Epochs and floors only grow along a run. -/
lemma epochs_le_run (h : Coherent s) (calls : List (KeyCall ρ χ τ)) (p : String) :
    (s.epochsOf p).1 ≤ ((run (step C) s calls).epochsOf p).1 ∧
      (s.epochsOf p).2 ≤ ((run (step C) s calls).epochsOf p).2 := by
  have hinv : Coherent (run (step C) s calls) ∧
      ((s.epochsOf p).1 ≤ ((run (step C) s calls).epochsOf p).1 ∧
        (s.epochsOf p).2 ≤ ((run (step C) s calls).epochsOf p).2) := by
    refine run_invariant (fun t : KeyService ρ => Coherent t ∧
      ((s.epochsOf p).1 ≤ (t.epochsOf p).1 ∧ (s.epochsOf p).2 ≤ (t.epochsOf p).2))
      (fun t call ht => ?_) ⟨h, le_rfl, le_rfl⟩ calls
    have hstep := ht.1.epochs_le (t.step_change C call) p
    exact ⟨ht.1.change (t.step_change C call), ht.2.1.trans hstep.1, ht.2.2.trans hstep.2⟩
  exact hinv.2

/-- From a restart on, memory and table stay the same for a principal none of whose appends times
out. -/
lemma synced_run (h : Coherent s) (hp : Synced principal s) {calls : List (KeyCall ρ χ τ)}
    (hcalls : ∀ c ∈ calls, c.timesOut principal = false) :
    Synced principal (run (step C) s calls) := by
  have hall : Along (step C) (fun _ c => KeyCall.timesOut principal c = false) s calls :=
    along_of_forall_mem (fun c hc _ => hcalls c hc) s
  refine (run_induction (fun t => Coherent t ∧ Synced principal t) (fun t c ht hc => ?_) ⟨h, hp⟩
    hall).2
  exact ⟨ht.1.change (t.step_change C c),
    ht.2.change ht.1 (t.step_change C c) (by rw [hc]; simp)⟩

/-! ## Envelopes -/

/-- The key of a generation, when it is derived. -/
lemma deriveGeneration_eq_ok_iff (s : KeyService ρ) (principal : String) (epoch generation : Nat)
    (kek : κ) : s.deriveGeneration C principal epoch generation = .ok kek ↔
      principal ≠ "" ∧ epoch ≤ maxEpoch ∧ (s.epochsOf principal).2 ≤ epoch ∧
        ∃ root, s.config.roots.fetchRoot generation = some root ∧
          C.hkdf root (info principal epoch) = kek := by
  unfold deriveGeneration validatePrincipal validateEpoch
  by_cases hp : principal = ""
  · simp [hp, bind, Except.bind]
  by_cases he : epoch ≤ maxEpoch
  · rcases hroot : s.config.roots.fetchRoot generation with _ | root
    · simp [hp, he, bind, Except.bind]
    · by_cases hf : epoch < (s.epochsOf principal).2
      · simp [hp, he, hf, Nat.not_le.mpr hf, bind, Except.bind]
      · simp [hp, he, hf, Nat.not_lt.mp hf, bind, Except.bind]
  · simp [hp, he, bind, Except.bind]

variable {envelope : Envelope χ τ} {principal : String} {nonce : RandomBytes nonceSize}
  {dataKey : Bytes} {epoch : Nat}

/-- What the platform wraps: an envelope of the present root generation, whose parts are those of an
encryption under the derived key. -/
lemma wrapPlatform_eq_ok (h : s.wrapPlatform C principal epoch dataKey nonce = .ok envelope)
    (hd : dataKey.length = kekSize) :
    ∃ kek, s.deriveGeneration C principal epoch s.config.roots.generation = .ok kek ∧
      envelope.principal = principal ∧ envelope.epoch = some epoch ∧
      envelope.rootGeneration = some s.config.roots.generation ∧
      platformParts C envelope = some (s.config.roots.generation, principal, epoch, nonce.1,
        (C.aead.encrypt kek nonce.1
          (envelopeAad envelope.version principal epoch s.config.roots.generation) dataKey).2,
        (C.aead.encrypt kek nonce.1
          (envelopeAad envelope.version principal epoch s.config.roots.generation) dataKey).1) := by
  unfold wrapPlatform at h
  rcases hk : s.deriveGeneration C principal epoch s.config.roots.generation with e | kek
  · simp only [hk] at h
    simp at h
  simp only [hk] at h
  refine ⟨kek, rfl, ?_⟩
  by_cases hg : s.config.roots.generation = 1
  · simp only [hg, if_true, Except.ok.injEq] at h
    subst h
    refine ⟨rfl, rfl, by rw [hg]; rfl, ?_⟩
    simp [platformParts, Envelope.version, C.aead.tagSize_encrypt, C.aead.cipherSize_encrypt,
      C.size_eq, C.tagLength_eq, hd, nonce.2, hg]
  · simp only [hg, if_false, Nat.reduceEqDiff, Except.ok.injEq] at h
    subst h
    refine ⟨rfl, rfl, rfl, ?_⟩
    simp [platformParts, Envelope.version, C.aead.tagSize_encrypt, C.aead.cipherSize_encrypt,
      C.size_eq, C.tagLength_eq, hd, nonce.2, s.config.roots.generation_pos]

/-- Without a current root there is no root at all. -/
lemma KekRoots.fetchRoot_of_current_none {roots : KekRoots ρ} (h : roots.current = none)
    (generation : Nat) : roots.fetchRoot generation = none := by
  have hprev : roots.previous = none := by
    rcases hp : roots.previous with _ | p
    · rfl
    · have := roots.current_of_previous (by rw [hp]; rfl)
      rw [h] at this
      simp at this
  unfold KekRoots.fetchRoot
  rw [h, hprev]
  simp

/-- A platform envelope goes through the custody check and the `:unwrap` handler. -/
lemma unwrap_of_epoch (t : KeyService ρ) (h : envelope.epoch = some epoch)
    (kms : Except String Bytes) : t.unwrap C envelope kms = t.unwrapAllowed C envelope := by
  cases envelope with
  | v2 principal keyRef wrappedKey => simp [Envelope.epoch] at h
  | _ => rfl

/-- What the handler returns for an envelope with valid parts. -/
lemma unwrapPlatform_eq_ok_iff (t : KeyService ρ) {generation : Nat} {nonce : Bytes} {tag : τ}
    {wrappedKey : χ}
    (h : platformParts C envelope = some (generation, principal, epoch, nonce, tag, wrappedKey))
    (dataKey : Bytes) : t.unwrapPlatform C envelope = .ok dataKey ↔
      ∃ kek, t.deriveGeneration C principal epoch generation = .ok kek ∧
        C.aead.decrypt kek nonce (envelopeAad envelope.version principal epoch generation)
          wrappedKey tag = some dataKey ∧ dataKey.length = kekSize := by
  unfold unwrapPlatform
  simp only [h]
  rcases hk : t.deriveGeneration C principal epoch generation with e | kek
  · cases e <;> simp
  · rcases hdec : C.aead.decrypt kek nonce
      (envelopeAad envelope.version principal epoch generation) wrappedKey tag with _ | plain
    · simp [hdec]
    · by_cases hlen : plain.length = kekSize
      · simp [hdec, hlen]
        exact fun heq => heq ▸ hlen
      · simp [hdec, hlen]
        exact fun heq => heq ▸ hlen

/-- **When an envelope of the platform is unwrapped**: the floor has not passed its epoch, the root
of its generation still derives its key, and the principal's custody admits it. -/
theorem unwrap_wrapPlatform_iff (h : s.wrapPlatform C principal epoch dataKey nonce = .ok envelope)
    (hd : dataKey.length = kekSize) (t : KeyService ρ) (kms : Except String Bytes) :
    t.unwrap C envelope kms = .ok dataKey ↔
      (t.epochsOf principal).2 ≤ epoch ∧
      (∃ old root, s.config.roots.fetchRoot s.config.roots.generation = some old ∧
        t.config.roots.fetchRoot s.config.roots.generation = some root ∧
        C.hkdf root (info principal epoch) = C.hkdf old (info principal epoch)) ∧
      platformEnvelopeAllowed (t.customerKms principal) = true := by
  obtain ⟨kek, hk, hprin, hepoch, -, hparts⟩ := wrapPlatform_eq_ok C h hd
  obtain ⟨hp, hmax, -, old, hold, hkek⟩ := (deriveGeneration_eq_ok_iff C s _ _ _ _).mp hk
  rw [unwrap_of_epoch C t hepoch, unwrapAllowed, hprin]
  split_ifs with hallow
  · rcases hcur : t.config.roots.current with _ | now
    · -- no current root: no generation is available
      refine iff_of_false (by simp) ?_
      rintro ⟨-, ⟨_, root, -, hroot, -⟩, -⟩
      rw [KekRoots.fetchRoot_of_current_none hcur] at hroot
      simp at hroot
    · simp only [unwrapPlatform_eq_ok_iff C t hparts, deriveGeneration_eq_ok_iff,
        C.aead.decrypt_eq_some_iff]
      constructor
      · rintro ⟨kek', ⟨-, -, hfloor, root, hroot, hkek'⟩, ⟨⟨rfl, -⟩, -⟩, -⟩
        exact ⟨hfloor, ⟨old, root, hold, hroot, hkek'.trans hkek.symm⟩, hallow⟩
      · rintro ⟨hfloor, ⟨old', root, hold', hroot, heq⟩, -⟩
        rw [hold, Option.some.injEq] at hold'
        subst hold'
        exact ⟨kek, ⟨hp, hmax, hfloor, root, hroot, heq.trans hkek⟩, ⟨⟨rfl, trivial⟩, trivial⟩, hd⟩
  · exact iff_of_false (by simp) fun hc => hallow hc.2.2

/-- What a customer's KMS wraps is no platform envelope. -/
lemma epoch_of_customerWrap {config : CustomerKms} {kms : Except String Bytes}
    (h : customerWrap config principal dataKey kms = .ok envelope) : envelope.epoch = none := by
  unfold customerWrap at h
  simp only [bind, Except.bind] at h
  split at h
  · simp at h
  split at h
  · simp at h
  split at h
  · simp at h
  split at h
  · simp at h
  · rw [← Except.ok.inj h]
    rfl

lemma wrapPlatform_of_wrapCurrent (h : s.wrapCurrent C principal dataKey nonce = .ok envelope) :
    dataKey.length = kekSize ∧
      s.wrapPlatform C principal (s.epochsOf principal).1 dataKey nonce = .ok envelope := by
  unfold wrapCurrent validateDataKey at h
  simp only [bind, Except.bind] at h
  split at h
  · simp at h
  split at h
  · simp at h
  split at h
  · simp at h
  next hlen =>
    refine ⟨?_, h⟩
    split at hlen
    next hlen' => exact hlen'
    · simp at hlen

/-- A platform envelope that `wrap` returns was wrapped at the principal's present epoch. -/
lemma wrapPlatform_of_wrap {kms : Except String Bytes}
    (h : s.wrap C principal dataKey nonce kms = .ok envelope) (he : envelope.epoch = some epoch) :
    dataKey.length = kekSize ∧
      s.wrapPlatform C principal (s.epochsOf principal).1 dataKey nonce = .ok envelope := by
  unfold wrap at h
  split at h
  · split at h
    · rw [epoch_of_customerWrap h] at he
      simp at he
    · exact wrapPlatform_of_wrapCurrent C h
  · exact wrapPlatform_of_wrapCurrent C h

/-! ## The result -/

/-- **Revocation survives everything.** After any calls on a service with any configuration, with
any of its appends refused or timed out and restarts with any other configuration anywhere: every
floor is at most its epoch, the table is not behind memory, and whatever calls follow, neither epoch
nor floor of any principal is lower afterwards. From a restart on, memory holds what the table holds
for every principal none of whose appends times out. A platform envelope made by `wrap` is, after
whatever calls follow, unwrapped to the data key exactly when its epoch is at or above the floor
then, its root generation is available then with a root that derives the same key, and the custody
of its principal then admits platform envelopes. -/
theorem revocation_survives (C : KeyCrypto ρ κ χ τ) (config : KeyConfig ρ)
    (calls later : List (KeyCall ρ χ τ)) : let s := run (step C) (init config) calls
    let t := run (step C) s later
    (∀ p, (s.epochsOf p).2 ≤ (s.epochsOf p).1) ∧
      (∀ p, (s.epochsOf p).1 ≤ (durableEpochs s.db p).1 ∧
        (s.epochsOf p).2 ≤ (durableEpochs s.db p).2) ∧
      (∀ p config', (∀ c ∈ later, c.timesOut p = false) →
        Synced p (run (step C) (start config' s.db) later)) ∧
      (∀ p, (s.epochsOf p).1 ≤ (t.epochsOf p).1 ∧ (s.epochsOf p).2 ≤ (t.epochsOf p).2) ∧
      ∀ p dataKey nonce kms envelope, s.wrap C p dataKey nonce kms = .ok envelope →
        ∀ epoch generation, envelope.epoch = some epoch →
          envelope.rootGeneration = some generation → ∀ kms',
          (t.unwrap C envelope kms' = .ok dataKey ↔
            (t.epochsOf p).2 ≤ epoch ∧
            (∃ old root, s.config.roots.fetchRoot generation = some old ∧
              t.config.roots.fetchRoot generation = some root ∧
              C.hkdf root (info p epoch) = C.hkdf old (info p epoch)) ∧
            platformEnvelopeAllowed (t.customerKms p) = true) := by
  intro s t
  have hs : Coherent s := coherent_run C (coherent_init config) calls
  refine ⟨fun p => (hs.floor_le p).trans (hs.floor_le_epoch p),
    fun p => ⟨hs.epoch_le p, hs.floor_le p⟩, fun p config' hlater => ?_,
    epochs_le_run C hs later, ?_⟩
  · have hrestart : EpochChange s (fun _ => False) (start config' s.db) := .restarted config'
    exact synced_run p C (hs.change hrestart) (synced_start config' s.db p) hlater
  intro p dataKey nonce kms envelope hwrap epoch generation he hg kms'
  obtain ⟨hd, hplat⟩ := wrapPlatform_of_wrap C hwrap he
  obtain ⟨-, -, -, hepoch, hgen, -⟩ := wrapPlatform_eq_ok C hplat hd
  rw [he, Option.some.injEq] at hepoch
  rw [hg, Option.some.injEq] at hgen
  subst hepoch hgen
  exact unwrap_wrapPlatform_iff C hplat hd t kms'

/-! ## A rotation and a change of custody -/

/-- Roots are numbers and keys are the pairs they are derived from. -/
def symbolicCrypto : KeyCrypto Nat (Nat × Bytes) ((Nat × Bytes) × Bytes × Bytes × Bytes) Unit where
  aead := Aead.symbolic List.length tagSize
  size_eq _ := rfl
  tagLength_eq := rfl
  hkdf root info := (root, info)
  volumeKey _ _ := []

/-- One root, 7, under generation 1. -/
def oneRoot : KekRoots Nat := ⟨some 7, 1, none, by decide, by simp, by simp, by simp⟩

/-- The root 8 under generation 2, with the one before it. -/
def rotatedRoots : KekRoots Nat :=
  ⟨some 8, 2, some (1, 7), by decide, by decide, by decide, by decide⟩

def zeroKey : Bytes := List.replicate kekSize 0

def zeroNonce : RandomBytes nonceSize := ⟨List.replicate nonceSize 0, List.length_replicate⟩

/-- The service of a principal `p` at epoch 2. -/
def atEpochTwo : List (KeyCall Nat ((Nat × Bytes) × Bytes × Bytes × Bytes) Unit) :=
  [.setEpoch "p" 2 "rotation" ⟨1, none⟩]

/-- The envelope of the zero key at epoch 2 under the first root. -/
def zeroEnvelope : Envelope ((Nat × Bytes) × Bytes × Bytes × Bytes) Unit :=
  .v1 "p" 2 zeroNonce.1 () ((7, info "p" 2), zeroNonce.1, info "p" 2, zeroKey)

lemma wrap_zeroKey :
    (run (step symbolicCrypto) (init ⟨oneRoot, ∅⟩) atEpochTwo).wrap symbolicCrypto "p" zeroKey
      zeroNonce (.error "unused") = .ok zeroEnvelope := by
  rfl

/-- The floor is raised to the envelope's epoch and the root is rotated, and it is still
unwrapped. -/
theorem revocation_survives_rotation :
    (run (step symbolicCrypto) (run (step symbolicCrypto) (init ⟨oneRoot, ∅⟩) atEpochTwo)
      [.raiseMinEpoch "p" 2 "leak" ⟨2, none⟩, .restart ⟨rotatedRoots, ∅⟩]).unwrap symbolicCrypto
        zeroEnvelope (.error "unused") = .ok zeroKey :=
  ((revocation_survives symbolicCrypto ⟨oneRoot, ∅⟩ atEpochTwo
    [.raiseMinEpoch "p" 2 "leak" ⟨2, none⟩, .restart ⟨rotatedRoots, ∅⟩]).2.2.2.2 "p"
      zeroKey zeroNonce
      (.error "unused") zeroEnvelope wrap_zeroKey 2 1 rfl rfl (.error "unused")).mpr
    ⟨by decide +kernel, ⟨7, 7, rfl, rfl, rfl⟩, rfl⟩

/-- The custody of `p` goes to a customer's KMS without a transition. -/
def customerCustody : KeyConfig Nat :=
  ⟨oneRoot, (∅ : Table String CustomerKms).insert "p" ⟨.customer, none, "kms-1"⟩⟩

/-- A floor whose append times out. -/
def lateFloor : List (KeyCall Nat ((Nat × Bytes) × Bytes × Bytes × Bytes) Unit) :=
  [.raiseMinEpoch "p" 2 "leak" ⟨2, some .timedOut⟩]

/-- The platform made the envelope, its epoch is above the floor and its root is there; but the
principal's keys are in a customer's custody now, and the platform refuses. And a floor whose append
times out is in the table and not in memory. -/
theorem custody_change_refuses_envelope :
    let s := run (step symbolicCrypto) (init ⟨oneRoot, ∅⟩) atEpochTwo
    let t := run (step symbolicCrypto) s [.restart customerCustody]
    let u := run (step symbolicCrypto) s lateFloor
    (s.wrap symbolicCrypto "p" zeroKey zeroNonce (.error "unused") = .ok zeroEnvelope ∧
      (t.epochsOf "p").2 ≤ 2 ∧ t.config.roots.fetchRoot 1 = s.config.roots.fetchRoot 1 ∧
      t.config.roots.fetchRoot 1 = some 7 ∧
      t.unwrap symbolicCrypto zeroEnvelope (.error "unused") = .error .custodyMismatch) ∧
      u.epochsOf "p" = (2, 0) ∧ durableEpochs u.db "p" = (2, 2) :=
  ⟨⟨wrap_zeroKey, by decide +kernel, rfl, rfl, rfl⟩, by decide +kernel, by decide +kernel⟩

end Homelab.Embervm.KeyService
