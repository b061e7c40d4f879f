import Homelab.Embervm.StatefulStore.Leases

/-!
# Issuing generations

The control plane issues generations of a volume: the manager for a wake, the sweeper for the abort
of a checkpoint. An issuer reads the next free generation from the store, asks the store to bless it
and dispatches it to the node when the store says `ok`; the node registry meanwhile asks for leases.
Every one of these is a call of its own, and the calls of all processes interleave.

* `Issuance ι` is the store, what each issuer of `ι` has read and not yet asked to bless, and the
  record of what was dispatched and what was leased.
* `Exclusive` is the discipline under which issuing is safe: nobody else's call blesses, leases or
  adopts a generation of a workload while an issuer holds a number of it, and no restart finds a
  lease or a watermark that an append left below after it timed out.
* `issued_once`: in every run that keeps to it each number is dispatched at most once, and never one
  that a lease covers. `two_issuers_dispatch_same_generation` is a run that does not.
-/

namespace Homelab.Embervm

open Homelab.Lib List Function
open Homelab.Embervm.OpLog
open StatefulStore

/-! ## The processes -/

/-- What an issuer wants a generation for. -/
inductive IssueRequest where
  | wake (workload : String)
  | abort (workload : String) (checkpointGeneration : Nat)
  deriving DecidableEq, Repr

/-- The workload of a request. -/
def IssueRequest.workload : IssueRequest → String
  | wake workload | abort workload _ => workload

/-- The number the issuer goes on with.
Source: `stateful_manager.ex`, `bless_wake_generation/3`; `stateful_sweeper.ex`,
`plan_resolve_blessing/4` -/
def IssueRequest.generation (s : StatefulStore) : IssueRequest → Nat
  | wake workload => s.nextBlessedGeneration workload
  | abort workload checkpointGeneration =>
    max (s.nextBlessedGeneration workload) (checkpointGeneration + 1)

/-- The store and its callers. -/
structure Issuance (ι : Type) where
  store : StatefulStore
  /-- The workload and the number an issuer has read and not yet asked to bless. -/
  held : ι → Option (String × Nat)
  dispatched : List (String × Nat)
  /-- The leases the store has held. -/
  leased : List Grant

/-- A call of one of the processes. -/
inductive IssueEvent (ι : Type) where
  /-- `next_blessed_generation/2`. -/
  | next (issuer : ι) (request : IssueRequest)
  /-- `bless_generation/3` with the number read, and the dispatch when it answers `ok`. -/
  | bless (issuer : ι) (io : AppendIo)
  /-- The issuer's process ends between its two calls. -/
  | drop (issuer : ι)
  /-- Any other call to the store, the registry's `ensure_blessing_lease/3` among them. -/
  | call (call : StatefulCall)

namespace Issuance

variable {ι : Type} [DecidableEq ι]

/-- No call made yet. -/
def init : Issuance ι := ⟨StatefulStore.init, fun _ => none, [], []⟩

/-- The answer to a bless decides the dispatch.
Source: `stateful_manager.ex`, `bless_wake_generation/3`; `stateful_sweeper.ex`,
`plan_resolve_blessing/4` -/
def blessAndDispatch (x : Issuance ι) (issuer : ι) (workload : String) (generation : Nat)
    (io : AppendIo) : Issuance ι :=
  let r := x.store.blessGeneration workload generation io
  { x with
    store := r.2
    held := update x.held issuer none
    dispatched :=
      match r.1 with
      | .ok _ => x.dispatched ++ [(workload, generation)]
      | .error _ => x.dispatched }

def step (x : Issuance ι) : IssueEvent ι → Issuance ι
  | .next issuer request =>
    { x with
      held := update x.held issuer
        (some (request.workload, request.generation x.store)) }
  | .bless issuer io =>
    match x.held issuer with
    | none => x
    | some (workload, generation) => x.blessAndDispatch issuer workload generation io
  | .drop issuer => { x with held := update x.held issuer none }
  | .call call =>
    { x with
      store := x.store.step call
      leased := (x.store.step call).enter x.leased }

end Issuance

/-! ## The discipline -/

/-- The calls that can move the watermark of a workload forward or lease a range of it. -/
def StatefulCall.advances (workload : String) : StatefulCall → Bool
  | .blessGeneration w _ _ | .seedBlessedGenerationIfUnset w _ | .ensureBlessingLease w _ _ _ _ =>
    w = workload
  | .upsertVolume w f _ => w = workload && f.generationBlessed = some false
  | _ => false

/-- The watermark a rebuild would find. -/
def StatefulStore.durableWatermark (s : StatefulStore) (workload : String) : Option Nat :=
  (s.db.blessing.lookup workload).map BlessingRow.blessedGeneration

/-- A restart finds only leases that were held before, and the numbers held by issuers past the
durable watermarks. -/
def Issuance.Restartable {ι : Type} (x : Issuance ι) : StatefulCall → Prop
  | .restart => (∀ g ∈ (rebuild x.store.db).grants, g ∈ x.leased) ∧
      ∀ issuer, ∀ number ∈ x.held issuer, ∀ b ∈ x.store.durableWatermark number.1, b < number.2
  | _ => True

/-- **No interference**: a bless is made while no other issuer holds a number of the workload, any
other call that advances a workload while nobody holds a number of it, and a restart when the tables
below hold nothing that memory did not learn of. -/
def Issuance.Exclusive {ι : Type} (x : Issuance ι) : IssueEvent ι → Prop
  | .bless issuer _ => ∀ other, other ≠ issuer → ∀ number ∈ x.held issuer,
      (x.held other).map Prod.fst ≠ some number.1
  | .call call => (∀ issuer, ∀ number ∈ x.held issuer, call.advances number.1 = false) ∧
      x.Restartable call
  | _ => True

/-! ## The watermark -/

namespace StatefulStore

variable {s s' : StatefulStore} {l : ChangeLabel} {workload : String} {n : Nat}

/-- The durable watermarks after a bless. -/
lemma durableWatermark_blessed {generation : Nat} {ts : Int} {db : StatefulTables}
    (hdb : s.db.project (systemOp workload (.generationBlessed generation) ts) = .ok db)
    (blessing : Table String Blessing) (w : String) :
    durableWatermark { s with db := db, blessing := blessing } w =
      if w = workload then some generation else s.durableWatermark w := by
  obtain rfl := Except.ok.inj hdb
  show ((AList.insert workload _ s.db.blessing).lookup w).map _ = _
  rw [Table.lookup_insert, apply_ite (Option.map _)]
  rfl

/-- A restart takes the durable watermark. -/
lemma blessingWatermark_rebuild (s : StatefulStore) (w : String) :
    (rebuild s.db).blessingWatermark w = (s.durableWatermark w).getD 0 := by
  unfold blessingWatermark durableWatermark fetchBlessing rebuild
  rw [Table.lookup_mapVal]
  rcases s.db.blessing.lookup w with _ | row <;> rfl

/-- The number is at or below the watermark, in memory and below: no issuer reads it again, whether
the store restarts or not. -/
def Burnt (s : StatefulStore) (workload : String) (n : Nat) : Prop :=
  n ≤ s.blessingWatermark workload ∧ ∃ b, s.durableWatermark workload = some b ∧ n ≤ b

lemma Burnt.congr (h : Burnt s workload n) (hmem : s'.blessing = s.blessing)
    (hdb : s'.db.blessing = s.db.blessing) : Burnt s' workload n := by
  unfold Burnt durableWatermark blessingWatermark fetchBlessing
  rw [hmem, hdb]
  exact h

/-- What a bless past the watermark has to do with the numbers below the watermark. -/
lemma Burnt.le_blessed (h : Burnt s workload n) {generation : Nat}
    (hpast : ∀ b, (s.fetchBlessing workload).blessedGeneration = some b → b < generation) :
    n ≤ generation := by
  have hle := h.1
  unfold blessingWatermark at hle
  rcases hb : (s.fetchBlessing workload).blessedGeneration with _ | b
  · rw [hb, Option.getD_none] at hle
    omega
  · rw [hb, Option.getD_some] at hle
    exact hle.trans (hpast b hb).le

/-- **No change makes a burnt number free again**: the watermark in memory is only ever replaced by
a higher one or by the durable one, and that one by one past the watermark in memory. -/
theorem Burnt.change (h : Burnt s workload n) (hc : Change s l s') : Burnt s' workload n := by
  have hf := hc.frame
  cases hc with
  | @blessed w generation ts db hpast hdb =>
    by_cases hw : workload = w
    · subst hw
      have hle := h.le_blessed hpast
      refine ⟨?_, generation, (durableWatermark_blessed hdb _ workload).trans (if_pos rfl), hle⟩
      unfold blessingWatermark
      rw [fetchBlessing_insert, if_pos rfl]
      exact hle
    · refine ⟨?_, ?_⟩
      · unfold blessingWatermark
        rw [fetchBlessing_insert, if_neg hw]
        exact h.1
      · rw [durableWatermark_blessed hdb, if_neg hw]
        exact h.2
  | @judged w fact hkeep =>
    refine ⟨?_, h.2⟩
    have hfetch := fetchBlessing_insert s s.db w workload fact
    have hle := h.1
    unfold blessingWatermark at hle ⊢
    rw [hfetch]
    split_ifs with hw
    · subst hw
      rcases hb : (s.fetchBlessing workload).blessedGeneration with _ | b
      · rw [hb, Option.getD_none] at hle
        omega
      · obtain ⟨b', hb', hle'⟩ := hkeep b hb
        rw [hb, Option.getD_some] at hle
        rw [hb']
        exact hle.trans hle'
    · exact hle
  | unreported hop hdb =>
    cases hop with
    | lease w nodeId ts => exact h.congr rfl (hf.db.blessing rfl)
    | @bless w generation ts hpast =>
      refine ⟨h.1, ?_⟩
      rw [durableWatermark_blessed hdb s.blessing]
      split_ifs with hw
      · subst hw
        exact ⟨generation, rfl, h.le_blessed hpast⟩
      · exact h.2
    | other hleases hblessing => exact h.congr rfl (hf.db.blessing hblessing)
  | restarted =>
    refine ⟨?_, h.2⟩
    obtain ⟨b, hb, hle⟩ := h.2
    rw [blessingWatermark_rebuild, hb]
    exact hle
  | _ => exact h.congr (hf.blessing rfl) (hf.db.blessing rfl)

/-! ## Free numbers -/

/-- The number is past the watermark of the workload and past all of its leases. -/
def Free (s : StatefulStore) (workload : String) (n : Nat) : Prop :=
  s.blessingWatermark workload < n ∧
    ∀ nodeId row, s.leases.lookup (workload, nodeId) = some row → row.leaseEnd ≤ n

/-- The changes that can move the watermark of a workload forward or lease a range of it. -/
def ChangeLabel.advances (workload : String) (s : StatefulStore) (l : ChangeLabel) : Prop :=
  (∃ generation, l = .blessed workload generation) ∨ (∃ nodeId, l = .leased workload nodeId) ∨
    ∃ fact, l = .judged workload fact ∧
      fact.blessedGeneration ≠ (s.fetchBlessing workload).blessedGeneration

variable {log : List Grant}

/-- What an issuer reads is free. -/
lemma free_generation (h : Leased s log) (request : IssueRequest) :
    Free s request.workload (request.generation s) := by
  have hnext : s.nextBlessedGeneration request.workload ≤ request.generation s := by
    cases request with
    | wake workload => exact le_rfl
    | abort workload checkpointGeneration => exact le_max_left _ _
  obtain ⟨hmark, -, hends⟩ := le_nextBlessedGeneration s request.workload
  exact ⟨hmark.trans_le hnext, fun nodeId row hrow =>
    (hends nodeId row hrow (h.nonempty _ row hrow)).trans hnext⟩

lemma Free.congr (h : Free s workload n)
    (hmem : s'.fetchBlessing workload = s.fetchBlessing workload)
    (hleases : s'.leases = s.leases) : Free s' workload n := by
  unfold Free blessingWatermark
  rw [hmem, hleases]
  exact h

/-- **A free number stays free** under every change that does not advance its workload, a restart
apart. -/
theorem Free.change (h : Free s workload n) (hc : Change s l s') (hl : ¬ l.advances workload s)
    (hr : l ≠ .restarted) : Free s' workload n := by
  have hf := hc.frame
  have hkept (hb : s'.blessing = s.blessing) :
      s'.fetchBlessing workload = s.fetchBlessing workload := by
    unfold fetchBlessing
    rw [hb]
  cases hc with
  | @blessed w generation ts db hpast hdb =>
    have hw : workload ≠ w := fun hw => hl (.inl ⟨generation, hw ▸ rfl⟩)
    exact h.congr ((fetchBlessing_insert s db w workload _).trans (if_neg hw)) rfl
  | @judged w fact hkeep =>
    have hfetch := fetchBlessing_insert s s.db w workload fact
    by_cases hw : workload = w
    · have hsame : fact.blessedGeneration = (s.fetchBlessing workload).blessedGeneration := by
        by_contra hne
        exact hl (.inr (.inr ⟨fact, hw ▸ rfl, hne⟩))
      refine ⟨?_, h.2⟩
      unfold blessingWatermark
      rw [(congrArg Blessing.blessedGeneration (hfetch.trans (if_pos hw))).trans hsame]
      exact h.1
    · exact h.congr (hfetch.trans (if_neg hw)) rfl
  | @leased w nodeId ts db createdTs updatedTs hdb =>
    have hw : workload ≠ w := fun hw => hl (.inr (.inl ⟨nodeId, hw ▸ rfl⟩))
    refine ⟨h.1, fun node row hrow => ?_⟩
    rw [lookup_putLease, if_neg (fun he => hw (Prod.mk.inj he).1)] at hrow
    exact h.2 node row hrow
  | restarted => exact absurd rfl hr
  | unreported hop hdb => exact h
  | _ => exact h.congr (hkept (hf.blessing rfl)) (hf.leases rfl)

/-- A restart keeps a number free that is past the durable watermark, when it finds only leases the
store had held. -/
lemma Free.rebuild (h : Free s workload n) (hl : Leased s log)
    (hleases : ∀ g ∈ (rebuild s.db).grants, g ∈ log)
    (hmark : ∀ b ∈ s.durableWatermark workload, b < n) : Free (rebuild s.db) workload n := by
  constructor
  · rw [blessingWatermark_rebuild]
    rcases hb : s.durableWatermark workload with _ | b
    · exact lt_of_le_of_lt (Nat.zero_le _) h.1
    · exact hmark b hb
  · intro nodeId row hrow
    have hheld := hleases ⟨workload, nodeId, row.nextGeneration, row.leaseEnd⟩
      ((mem_grants_iff _ _).mpr ⟨row, hrow, rfl, rfl⟩)
    obtain ⟨node, row', hrow', hle⟩ := hl.covers _ hheld
    exact hle.trans (h.2 node row' hrow')

/-- Only the calls that advance a workload make changes that do. -/
lemma advances_of_makes {call : StatefulCall} {t : StatefulStore} (hm : call.makes s t l)
    (hl : l.advances workload t) : call.advances workload = true := by
  have hreport : ∀ op, l ≠ .unreported op := by
    rcases hl with ⟨generation, rfl⟩ | ⟨nodeId, rfl⟩ | ⟨fact, rfl, -⟩ <;> simp
  replace hm := reports_of_makes hm hreport
  rcases hl with ⟨generation, rfl⟩ | ⟨nodeId, rfl⟩ | ⟨fact, rfl, hne⟩
  · cases call <;>
      simp_all [StatefulCall.reports, StatefulCall.advances, ChangeLabel.ofEviction,
        ChangeLabel.ofQuarantine]
  · cases call <;>
      simp_all [StatefulCall.reports, StatefulCall.advances, ChangeLabel.ofEviction,
        ChangeLabel.ofQuarantine]
  · cases call with
    | upsertVolume w f io =>
      obtain ⟨wire, hwire, hjudged⟩ := hm.resolve_left (by simp)
      obtain ⟨fact', hfact, hkeep⟩ := (hjudged.resolve_left (by simp)).resolve_right (by simp)
      obtain ⟨rfl, rfl⟩ := ChangeLabel.judged.inj hfact
      have hfalse : wire = false := by
        by_contra htrue
        exact hne (hkeep (by simpa using htrue))
      simp [StatefulCall.advances, hwire, hfalse]
    | _ =>
      simp_all [StatefulCall.reports, StatefulCall.advances, ChangeLabel.ofEviction]

lemma burnt_step (h : Burnt s workload n) (call : StatefulCall) :
    Burnt (s.step call) workload n :=
  (step_path s call fun _ _ _ => trivial).induction (Q := fun _ _ => True)
    (fun s => Burnt s workload n) (fun h _ hc => h.change hc) h

lemma free_step (h : Free s workload n) {call : StatefulCall}
    (hadv : call.advances workload = false)
    (hr : call ≠ .restart) : Free (s.step call) workload n := by
  refine (step_path s call fun t l hm => hm).induction (fun s => Free s workload n) ?_ h
  intro t l t' ht hm hc
  refine ht.change hc (fun hl => ?_) fun hl => hr (restart_of_makes (hl ▸ hm)).2
  rw [advances_of_makes hm hl] at hadv
  simp at hadv

/-- A bless of a free number is an error, its append withheld, or a durable blessing. -/
lemma blessGeneration_of_free (h : Free s workload n) (io : AppendIo) :
    (∃ e s', s.blessGeneration workload n io = (.error e, s') ∧
        Withheld s (systemOp workload (.generationBlessed n) io.ts) io s') ∨
      ∃ fact s', s.blessGeneration workload n io = (.ok fact, s') ∧
        Change s (.blessed workload n) s' := by
  have hpast : ∀ b, (s.fetchBlessing workload).blessedGeneration = some b → b < n := by
    intro b hb
    have hlt := h.1
    unfold blessingWatermark at hlt
    rw [hb] at hlt
    exact hlt
  have happend : s.blessGeneration workload n io = s.blessGenerationAppend workload n io := by
    unfold blessGeneration
    rcases hb : (s.fetchBlessing workload).blessedGeneration with _ | b
    · rfl
    · exact if_neg (not_le.mpr (hpast b hb))
  rw [happend]
  unfold blessGenerationAppend
  rcases doBlessAppend_cases io hpast with ⟨e, s', he, hw⟩ | ⟨s', hok, hc⟩
  · rw [he]
    exact .inl ⟨e, s', rfl, hw⟩
  · rw [hok]
    exact .inr ⟨_, s', rfl, hc⟩

end StatefulStore

/-! ## Runs -/

namespace Issuance

variable {ι : Type} {x : Issuance ι}

/-- What holds in every run without interference: held numbers are free, dispatched numbers are
burnt and lie outside the leases. -/
structure Sound (x : Issuance ι) : Prop where
  leased : Leased x.store x.leased
  held : ∀ issuer w n, x.held issuer = some (w, n) → Free x.store w n
  burnt : ∀ w n, (w, n) ∈ x.dispatched → Burnt x.store w n
  outside : ∀ w n, (w, n) ∈ x.dispatched → ∀ g ∈ x.leased, g.workload = w →
    n ∉ Set.Ico g.start g.leaseEnd
  nodup : x.dispatched.Nodup

lemma sound_init : Sound (init : Issuance ι) where
  leased := leased_init
  held _ _ _ h := absurd h (by simp [init])
  burnt _ _ h := absurd h (by simp [init])
  outside _ _ h := absurd h (by simp [init])
  nodup := nodup_nil

/-- A change of the store that is no grant, no restart and no advance of a held workload. -/
lemma Sound.change (h : Sound x) {l : ChangeLabel} {s' : StatefulStore} (hc : Change x.store l s')
    (hl : ∀ workload nodeId, l ≠ .leased workload nodeId) (hr : l ≠ .restarted)
    (hadv : ∀ issuer w n, x.held issuer = some (w, n) → ¬ l.advances w x.store) :
    Sound { x with store := s' } where
  leased := h.leased.change hc hl hr
  held issuer w n hn := (h.held issuer w n hn).change hc (hadv issuer w n hn) hr
  burnt w n hn := (h.burnt w n hn).change hc
  outside := h.outside
  nodup := h.nodup

variable [DecidableEq ι]

/-- What is held after one issuer's entry is rewritten. -/
lemma held_of_update {held : ι → Option (String × Nat)} {issuer other : ι}
    {entry : Option (String × Nat)} {p : String × Nat}
    (h : update held issuer entry other = some p) :
    entry = some p ∨ (other ≠ issuer ∧ held other = some p) := by
  by_cases ho : other = issuer
  · rw [ho, update_self] at h
    exact .inl h
  · rw [update_of_ne ho] at h
    exact .inr ⟨ho, h⟩

/-- Holding less keeps everything. -/
lemma Sound.forget (h : Sound x) (issuer : ι) :
    Sound { x with held := update x.held issuer none } where
  leased := h.leased
  held other w n hn := by
    rcases held_of_update hn with hnone | ⟨-, hold⟩
    · simp at hnone
    · exact h.held other w n hold
  burnt := h.burnt
  outside := h.outside
  nodup := h.nodup

lemma Sound.next (h : Sound x) (issuer : ι) (request : IssueRequest) :
    Sound (x.step (.next issuer request)) where
  leased := h.leased
  held other w n hn := by
    rcases held_of_update hn with hread | ⟨-, hold⟩
    · obtain ⟨rfl, rfl⟩ := Prod.mk.inj (Option.some.inj hread)
      exact free_generation h.leased request
    · exact h.held other w n hold
  burnt := h.burnt
  outside := h.outside
  nodup := h.nodup

/-- A lease granted while nobody holds a number of its workload starts past everything dispatched,
and a restart brings back only leases that were held; any other call leaves the record alone. -/
lemma Sound.call (h : Sound x) {call : StatefulCall} (hex : x.Exclusive (.call call)) :
    Sound (x.step (.call call)) := by
  refine ⟨h.leased.step call, fun issuer w n hn => ?_,
    fun w n hn => burnt_step (h.burnt w n hn) call,
    fun w n hn g hg hw => ?_, h.nodup⟩
  · by_cases hr : call = .restart
    · subst hr
      exact (h.held issuer w n hn).rebuild h.leased hex.2.1 (hex.2.2 issuer (w, n) hn)
    · exact free_step (h.held issuer w n hn) (hex.1 issuer (w, n) hn) hr
  · rcases (mem_enter_iff _ _ g).mp hg with hold | hnew
    · exact h.outside w n hn g hold hw
    · by_cases hr : call = .restart
      · subst hr
        exact h.outside w n hn g (hex.2.1 g hnew) hw
      · obtain ⟨workload, nodeId, hone⟩ := h.leased.grants_step hr
        rcases hone g hnew with hold | rfl
        · exact h.outside w n hn g hold hw
        · subst hw
          have hlt := (lt_start_nextGrant x.store workload nodeId).1
          exact fun hmem => absurd ((h.burnt _ n hn).1.trans_lt hlt) (not_lt.mpr hmem.1)

/-- A bless of a held number nobody else can take dispatches a new one, outside the leases. -/
lemma Sound.bless (h : Sound x) {issuer : ι} {io : AppendIo}
    (hex : x.Exclusive (.bless issuer io)) : Sound (x.step (.bless issuer io)) := by
  rcases hheld : x.held issuer with _ | ⟨w, n⟩
  · have hstep : x.step (.bless issuer io) = x := by simp only [step, hheld]
    rw [hstep]
    exact h
  have hstep : x.step (.bless issuer io) = x.blessAndDispatch issuer w n io := by
    simp only [step, hheld]
  have hfree := h.held issuer w n hheld
  have hforget := h.forget issuer
  rw [hstep]
  unfold blessAndDispatch
  rcases blessGeneration_of_free hfree io with ⟨e, s', he, hw⟩ | ⟨fact, s', hok, hc⟩
  · rw [he]
    rcases hw with rfl | ⟨-, hc⟩
    · exact hforget
    · exact hforget.change hc (by simp) (by simp) (by simp [ChangeLabel.advances])
  · rw [hok]
    -- the numbers still held are other issuers', of other workloads
    have hother : Sound { x with store := s', held := update x.held issuer none } := by
      refine hforget.change hc (by simp) (by simp) fun other w' n' hn' => ?_
      obtain ⟨hne, hold⟩ := (held_of_update hn').resolve_left (by simp)
      have hdiff := hex other hne (w, n) hheld
      rw [hold] at hdiff
      rintro (⟨_, hl⟩ | ⟨_, hl⟩ | ⟨_, hl, -⟩)
      · exact hdiff (congrArg some (ChangeLabel.blessed.inj hl).1.symm)
      · exact ChangeLabel.noConfusion hl
      · exact ChangeLabel.noConfusion hl
    have hnew : Burnt s' w n := by
      cases hc with
      | @blessed _ _ ts db hpast hdb =>
        refine ⟨?_, n, (durableWatermark_blessed hdb _ w).trans (if_pos rfl), le_rfl⟩
        unfold blessingWatermark
        rw [fetchBlessing_insert, if_pos rfl]
        exact le_rfl
    refine ⟨hother.leased, hother.held, fun w' n' hn' => ?_, fun w' n' hn' g hg hw => ?_, ?_⟩
    · rcases mem_append.mp hn' with hold | hlast
      · exact hother.burnt w' n' hold
      · obtain ⟨rfl, rfl⟩ := Prod.mk.inj (mem_singleton.mp hlast)
        exact hnew
    · rcases mem_append.mp hn' with hold | hlast
      · exact h.outside w' n' hold g hg hw
      · obtain ⟨rfl, rfl⟩ := Prod.mk.inj (mem_singleton.mp hlast)
        obtain ⟨node, row, hrow, hle⟩ := h.leased.covers g hg
        rw [hw] at hrow
        exact fun hmem => absurd (hle.trans (hfree.2 node row hrow)) (not_le.mpr hmem.2)
    · rw [nodup_append]
      refine ⟨h.nodup, nodup_singleton _, fun p hp q hq heq => ?_⟩
      obtain rfl := mem_singleton.mp hq
      rw [heq] at hp
      exact absurd (h.burnt w n hp).1 (not_le.mpr hfree.1)

/-- **No generation is issued twice.** In every run of issuers, lease grants and all other calls to
the store in which nobody advances a workload while another issuer holds a number of it, and no
restart finds below what memory did not learn of, each number of a workload is dispatched at most
once, and no dispatched number lies in a range the store has held for the workload. -/
theorem issued_once (events : List (IssueEvent ι))
    (h : Along step Exclusive (init : Issuance ι) events) :
    (run step init events : Issuance ι).dispatched.Nodup ∧
      ∀ w n, (w, n) ∈ (run step init events : Issuance ι).dispatched →
        ∀ g ∈ (run step init events : Issuance ι).leased, g.workload = w →
          n ∉ Set.Ico g.start g.leaseEnd := by
  have hsound : Sound (run step init events : Issuance ι) := by
    refine run_induction Sound (fun x event hx hex => ?_) sound_init h
    cases event with
    | next issuer request => exact hx.next issuer request
    | bless issuer io => exact hx.bless hex
    | drop issuer => exact hx.forget issuer
    | call call => exact hx.call hex
  exact ⟨hsound.nodup, hsound.outside⟩

/-- A volume on `brick-a`, and a wake that takes its number and dispatches it before the lease. -/
def orderlyEvents : List (IssueEvent Unit) :=
  [.call (.createVolume "pg" ⟨some "brick-a", 1, none, none, none⟩ ⟨1, none⟩),
    .next () (.wake "pg"), .bless () ⟨2, none⟩,
    .call (.ensureBlessingLease "pg" "brick-a" ⟨3, none⟩ 3 3),
    .next () (.abort "pg" 60), .bless () ⟨4, none⟩]

theorem issued_once_orderly : (run step init orderlyEvents).dispatched = [("pg", 2), ("pg", 61)] ∧
      (run step init orderlyEvents).leased = [⟨"pg", "brick-a", 3, 53⟩] ∧
      (run step init orderlyEvents).dispatched.Nodup :=
  ⟨by decide +kernel, by decide +kernel, (issued_once orderlyEvents (by
    unfold orderlyEvents
    simp [Along, Exclusive, Restartable, step, init, blessAndDispatch])).1⟩

/-- Two issuers read before either blesses. -/
def racingEvents : List (IssueEvent Bool) :=
  [.next true (.wake "pg"), .next false (.wake "pg"), .bless true ⟨1, none⟩, .bless false ⟨2, none⟩]

/-- A lease is granted between a read and its bless. -/
def leaseBetweenEvents : List (IssueEvent Bool) :=
  [.call (.createVolume "pg" ⟨some "brick-a", 1, none, none, none⟩ ⟨1, none⟩),
    .next true (.wake "pg"), .call (.ensureBlessingLease "pg" "brick-a" ⟨2, none⟩ 2 2),
    .bless true ⟨3, none⟩]

/-- Two issuers get the same number and both dispatch it: the second bless does not advance the
watermark and is answered `ok`. And a lease granted in between covers the number that is then
dispatched. -/
theorem two_issuers_dispatch_same_generation :
    (run step init racingEvents).dispatched = [("pg", 1), ("pg", 1)] ∧
      (run step init leaseBetweenEvents).dispatched = [("pg", 2)] ∧
      (run step init leaseBetweenEvents).leased = [⟨"pg", "brick-a", 2, 52⟩] := by
  decide +kernel

end Issuance

end Homelab.Embervm
