import Homelab.Lib.Run
import Homelab.Lib.Total
import Homelab.Embervm.StatefulStore.Changes

/-!
# The live and banked counters

`Embervm.StatefulStore` keeps two counters for each workload and moves them by the bucket of a state
(`bucket_of/1`). Are they the numbers of live and of banked instances?

* `tally` is the number of instances a counter stands for, those of its bucket. Every write of an
  instance moves the counters with it (`Counted.rewrite`, `Counted.birth`), and a rebuild counts
  afresh, so the counters are exact for the buckets in every state reached (`counted_run`).
* The buckets are not the live states: `destroying` holds a live VM and has no bucket. So the live
  counter falls short by the instances being torn down, and is right exactly when there are none
  (`counters_exact_iff`).

A birth counts the new instance and takes no other out. So it must not write over one that is
counted (`takesOver`), which the projection refuses as long as that instance has its durable row.
The row of an instance whose end was appended but timed out can be gone (`reusedId`).
-/

namespace Homelab.Embervm

open Homelab.Lib
open Homelab.Embervm.OpLog

namespace StatefulStore

variable {s s' : StatefulStore} {l : ChangeLabel} {w : String} {b : Bucket}

/-- A counter of a workload. -/
def BucketCounts.of (c : BucketCounts) : Bucket → Nat
  | .live => c.live
  | .banked => c.banked

/-- What the store answers for a counter.
Source: `stateful_store.ex`, the `:counts` handler -/
def counter (counts : Table String BucketCounts) (w : String) (b : Bucket) : Nat :=
  BucketCounts.of ((counts.lookup w).getD ⟨0, 0⟩) b

/-- One if the state is counted in the bucket. -/
def share (st : Option StatefulState) (b : Bucket) : Nat :=
  if bucketOf st = some b then 1 else 0

variable (s)

/-- The number of instances of a workload that satisfy `p`. -/
def number (w : String) (p : StatefulState → Bool) : Nat :=
  s.instances.total fun i => if i.workload = w ∧ p i.state = true then 1 else 0

/-- What one row contributes to a counter. -/
def weight (w : String) (b : Bucket) (i : StatefulInstance) : Nat :=
  if i.workload = w then share (some i.state) b else 0

/-- The number of instances of a workload in a bucket. -/
def tally (w : String) (b : Bucket) : Nat :=
  s.instances.total (weight w b)

lemma counter_bumpCounts (counts : Table String BucketCounts) (prior : Option StatefulState)
    (next : StatefulState) (w' w : String) (b : Bucket) :
    counter (bumpCounts counts prior next w') w b =
      if w = w' then counter counts w b - share prior b + share (some next) b
      else counter counts w b := by
  unfold counter bumpCounts
  rw [Table.lookup_insert]
  by_cases hw : w = w'
  · subst hw
    rw [if_pos rfl, if_pos rfl, Option.getD_some]
    generalize (counts.lookup w).getD ⟨0, 0⟩ = c
    unfold share
    rcases bucketOf prior with _ | _ | _ <;> rcases bucketOf (some next) with _ | _ | _ <;>
      cases b <;> rfl
  · rw [if_neg hw, if_neg hw]

/-- The counters are those of the buckets. -/
def Counted : Prop :=
  ∀ w b, counter s.counts w b = s.tally w b

variable {s}

lemma tally_insert (instances : Table String StatefulInstance) (id : String)
    (i' : StatefulInstance) (w : String) (b : Bucket) :
    Table.total (instances.insert id i') (weight w b) + (instances.lookup id).elim 0 (weight w b) =
      weight w b i' + instances.total (weight w b) := by
  rw [Table.total_insert, Table.total_eq_add_erase instances (weight w b) id]
  omega

/-- **A rewritten instance** whose counters move from its old state to its new one. -/
theorem Counted.rewrite (h : Counted s) {id : String} {i i' : StatefulInstance}
    (hi : s.instances.lookup id = some i) (hworkload : i'.workload = i.workload)
    (hins : s'.instances = s.instances.insert id i')
    (hcounts : s'.counts = bumpCounts s.counts (some i.state) i'.state i.workload) :
    Counted s' := by
  intro w b
  have hold := h w b
  have htotal := tally_insert s.instances id i' w b
  have hsplit := Table.total_eq_add_erase s.instances (weight w b) id
  rw [hi, Option.elim_some] at htotal hsplit
  have hcounter := counter_bumpCounts s.counts (some i.state) i'.state i.workload w b
  unfold tally at hold ⊢
  rw [hcounts, hcounter, hins]
  by_cases hw : w = i.workload
  · have hwi : weight w b i = share (some i.state) b := if_pos hw.symm
    have hwi' : weight w b i' = share (some i'.state) b := if_pos (hworkload.trans hw.symm)
    rw [if_pos hw]
    omega
  · have hwi : weight w b i = 0 := if_neg (Ne.symm hw)
    have hwi' : weight w b i' = 0 := if_neg fun h => hw (h.symm.trans hworkload)
    rw [if_neg hw]
    omega

/-- A rewrite under the same state leaves the counters. -/
lemma Counted.touch (h : Counted s) {id : String} {i i' : StatefulInstance}
    (hi : s.instances.lookup id = some i) (hworkload : i'.workload = i.workload)
    (hstate : i'.state = i.state) (hins : s'.instances = s.instances.insert id i')
    (hcounts : s'.counts = s.counts) : Counted s' := by
  intro w b
  have htotal := tally_insert s.instances id i' w b
  rw [hi, Option.elim_some] at htotal
  have hweight : weight w b i' = weight w b i := by
    unfold weight
    rw [hworkload, hstate]
  have hold := h w b
  unfold tally at hold ⊢
  rw [hcounts, hins]
  omega

/-- **A birth** leaves the counters exact when it writes over no instance, or over one that is not
counted, and only then. -/
theorem Counted.birth_iff (h : Counted s) (id : String) (i' : StatefulInstance)
    (hins : s'.instances = s.instances.insert id i')
    (hcounts : s'.counts = bumpCounts s.counts none i'.state i'.workload) :
    Counted s' ↔ ∀ i, s.instances.lookup id = some i → bucketOf (some i.state) = none := by
  -- a counter is too high by what the instance written over stood for
  have hexcess (w : String) (b : Bucket) :
      counter s'.counts w b = s'.tally w b + (s.instances.lookup id).elim 0 (weight w b) := by
    have hold := h w b
    have htotal := tally_insert s.instances id i' w b
    have hcounter := counter_bumpCounts s.counts none i'.state i'.workload w b
    unfold tally at hold ⊢
    rw [hcounts, hcounter, hins]
    have hzero : share none b = 0 := rfl
    by_cases hw : w = i'.workload
    · have hwi' : weight w b i' = share (some i'.state) b := if_pos hw.symm
      rw [if_pos hw]
      omega
    · have hwi' : weight w b i' = 0 := if_neg (Ne.symm hw)
      rw [if_neg hw]
      omega
  constructor
  · intro hs i hi
    by_contra hbucket
    obtain ⟨b, hb⟩ := Option.ne_none_iff_exists'.mp hbucket
    have hone : weight i.workload b i = 1 := (if_pos rfl).trans (if_pos hb)
    have hexact := hs i.workload b
    have hover := hexcess i.workload b
    rw [hi, Option.elim_some] at hover
    omega
  · intro hfree w b
    rw [hexcess]
    rcases hi : s.instances.lookup id with _ | i
    · rfl
    · have hnone : weight w b i = 0 := by
        unfold weight share
        rw [hfree i hi]
        simp
      rw [Option.elim_some, hnone]
      rfl

lemma Counted.congr (h : Counted s) (hins : s'.instances = s.instances)
    (hcounts : s'.counts = s.counts) : Counted s' := by
  intro w b
  unfold tally
  rw [hins, hcounts]
  exact h w b

/-! ## Rebuild -/

lemma counter_foldl (rows : List (Sigma fun _ : String => StatefulRow))
    (counts : Table String BucketCounts) (w : String) (b : Bucket) :
    counter (rows.foldl (fun c e => bumpCounts c none e.2.state e.2.workload) counts) w b =
      counter counts w b + (rows.map fun e => weight w b (rowToInstance e.2)).foldr (· + ·) 0 := by
  induction rows generalizing counts with
  | nil => rfl
  | cons e rows ih =>
    rw [List.foldl_cons, ih, counter_bumpCounts, List.map_cons, List.foldr_cons]
    have hzero : share none b = 0 := rfl
    by_cases hw : w = e.2.workload
    · have hwe : weight w b (rowToInstance e.2) = share (some e.2.state) b := if_pos hw.symm
      rw [if_pos hw]
      omega
    · have hwe : weight w b (rowToInstance e.2) = 0 := if_neg (Ne.symm hw)
      rw [if_neg hw]
      omega

lemma counted_rebuild (db : StatefulTables) : Counted (rebuild db) := by
  intro w b
  have hfold := counter_foldl db.instances.entries ∅ w b
  have htotal := Table.total_mapVal db.instances rowToInstance (weight w b)
  refine hfold.trans (Eq.trans ?_ htotal.symm)
  have hempty : counter ∅ w b = 0 := by cases b <;> rfl
  rw [hempty]
  exact Nat.zero_add _

/-! ## Calls -/

/-- Whether a change is a memory-only rewrite, whose counters its handler decides. -/
def ChangeLabel.isHeld : ChangeLabel → Bool
  | .held _ _ _ => true
  | _ => false

/-- The birth takes the id of an instance that is counted. -/
def ChangeLabel.takesOver (s : StatefulStore) : ChangeLabel → Bool
  | .born attrs =>
    (s.instances.lookup attrs.instanceId).any fun i => (bucketOf (some i.state)).isSome
  | _ => false

/-- Every change but a memory-only rewrite, and a birth over a counted instance, keeps the counters
exact. -/
lemma Counted.change (h : Counted s) (hc : Change s l s') (hl : l.isHeld = false)
    (hover : l.takesOver s = false) : Counted s' := by
  have hvolume (hw : VolumeWrite s s') : Counted s' := by
    obtain ⟨db, volumes, rfl, -⟩ := hw
    exact h.congr rfl rfl
  cases hc with
  | @born attrs birth ts db volumeTs hgate hdb =>
    obtain ⟨volumes, hs⟩ := insertBorn_eq s db attrs ts volumeTs
    refine (h.birth_iff attrs.instanceId (bornInstance attrs ts) (by rw [hs])
      (by rw [hs]; rfl)).mpr fun i hi => ?_
    simpa [ChangeLabel.takesOver, hi] using hover
  | @moved id i kind ts db next updates volumeTs hi hkind hdb =>
    obtain ⟨volumes, hs⟩ := putMoved_eq s db id i kind next updates ts volumeTs
    obtain ⟨hstate, hworkload⟩ := state_moved i kind next updates ts
    exact h.rewrite hi hworkload (by rw [hs]) (by rw [hs, hstate])
  | held => simp [ChangeLabel.isHeld] at hl
  | reported workload f io => exact hvolume (volumeWrite_reported s workload f io)
  | adoptedExport workload anchorNodeId generation io hfault =>
    exact hvolume (volumeWrite_adoptedExport s workload anchorNodeId generation io)
  | created workload f io hfault => exact hvolume (volumeWrite_created s workload f io)
  | deleted workload io hfault => exact hvolume (volumeWrite_deleted s workload io)
  | restarted => exact counted_rebuild s.db
  | _ => exact h.congr rfl rfl

lemma Counted.doMarkWithUpdates (h : Counted s) (id : String) (event : StatefulEvent)
    (updates : InstanceUpdates) (ts : Int) :
    Counted (s.doMarkWithUpdates id event updates ts).2 := by
  unfold StatefulStore.doMarkWithUpdates fetch
  rcases hi : s.instances.lookup id with _ | i
  · exact h
  rcases hn : i.state.transition event with e | next
  · simp only [hn]
    exact h
  · simp only [hn]
    obtain ⟨hstate, hworkload⟩ := state_marked i next updates ts
    exact h.rewrite hi hworkload rfl (by rw [hstate])

lemma Counted.adoptState (h : Counted s) (id : String) (new : AdoptedState)
    (updates : InstanceUpdates) (ts : Int) : Counted (s.adoptState id new updates ts) := by
  unfold StatefulStore.adoptState
  rcases hi : s.instances.lookup id with _ | i
  · exact h
  obtain ⟨hstate, hworkload⟩ := state_adopted i new updates ts
  dsimp only
  split
  · exact h
  · split
    · exact h
    · by_cases hsame : i.state = new.state
      · exact h.touch hi hworkload (hstate.trans hsame.symm) rfl (if_pos hsame)
      · exact h.rewrite hi hworkload rfl ((if_neg hsame).trans (by rw [hstate]))

/-- A rewrite in place that keeps workload and state. -/
lemma Counted.update (h : Counted s) (id : String) (f : StatefulInstance → StatefulInstance)
    (hf : ∀ i, (f i).workload = i.workload ∧ (f i).state = i.state) :
    Counted { s with instances := s.instances.update id f } := by
  unfold Table.update
  rcases hi : s.instances.lookup id with _ | i
  · exact h.congr rfl rfl
  · exact h.touch hi (hf i).1 (hf i).2 rfl rfl

/-- The calls that rewrite an instance in memory only. -/
lemma isHeld_of_makes {call : StatefulCall} {t : StatefulStore} (hm : call.makes s t l)
    (hl : l.isHeld = true) : ∃ id i i', HeldBy s id i call t i' := by
  cases l with
  | held id i i' => exact ⟨id, i, i', heldBy_of_makes hm⟩
  | _ => simp [ChangeLabel.isHeld] at hl

/-- The call is a birth that succeeds under the id of an instance that is counted. -/
def takesOver (s : StatefulStore) : StatefulCall → Bool
  | .start attrs birth io volumeTs => (s.doStart attrs birth io volumeTs).1.isOk &&
      (s.instances.lookup attrs.instanceId).any fun i => (bucketOf (some i.state)).isSome
  | _ => false

/-- A birth that succeeds over no counted instance keeps the counters exact, one over a counted
instance does not. -/
lemma Counted.start_iff (h : Counted s) {attrs : StartAttrs} {birth : Birth} {io : AppendIo}
    {volumeTs : Int} : Counted (s.step (.start attrs birth io volumeTs)) ↔
      s.takesOver (.start attrs birth io volumeTs) = false := by
  simp only [StatefulStore.step, takesOver]
  rcases doStart_cases s attrs birth io volumeTs with ⟨hno, hw⟩ | ⟨hok, hc⟩
  · rw [hno, Bool.false_and]
    refine iff_of_true ?_ rfl
    rcases hw with hs | ⟨-, hc⟩
    · rw [hs]
      exact h
    · exact h.change hc rfl rfl
  · rw [hok, Bool.true_and]
    generalize (s.doStart attrs birth io volumeTs).2 = s' at hc
    cases hc with
    | @born _ birth ts db volumeTs hgate hdb =>
      obtain ⟨volumes, hs⟩ := insertBorn_eq s db attrs ts volumeTs
      refine (h.birth_iff attrs.instanceId (bornInstance attrs ts) (by rw [hs])
        (by rw [hs]; rfl)).trans ?_
      rcases hi : s.instances.lookup attrs.instanceId with _ | i
      · simp
      · simp

/-- **A call keeps the counters exact** unless it is a birth over a counted instance. -/
theorem Counted.step_iff (h : Counted s) (call : StatefulCall) :
    Counted (s.step call) ↔ s.takesOver call = false := by
  -- the calls that rewrite memory only carry their counters with them; the others are changes
  have hother (hnot : ∀ t id i i', ¬ HeldBy s id i call t i')
      (hnew : ∀ attrs birth io volumeTs, call ≠ .start attrs birth io volumeTs) :
      Counted (s.step call) := by
    have hpath : Path (fun t l => l.isHeld = false ∧ l.takesOver t = false) s (s.step call) := by
      refine step_path s call fun t l hm => ⟨?_, ?_⟩
      · by_contra hheld
        rw [Bool.not_eq_false] at hheld
        obtain ⟨id, i, i', hby⟩ := isHeld_of_makes hm hheld
        exact hnot t id i i' hby
      · cases l with
        | born attrs =>
          obtain ⟨-, birth, io, volumeTs, hcall⟩ := start_of_makes hm
          exact absurd hcall (hnew attrs birth io volumeTs)
        | _ => rfl
    exact hpath.induction Counted (fun ht hl hc => ht.change hc hl.1 hl.2) h
  cases call with
  | start attrs birth io volumeTs => exact h.start_iff
  | unpublish id reason ts => exact iff_of_true (h.doMarkWithUpdates id .unpublish _ ts) rfl
  | markWith id event updates ts => exact iff_of_true (h.doMarkWithUpdates id event updates ts) rfl
  | setHealth id healthy ts | touchActive id ts | adoptEndpoint id nodeId vmId ip port healthy =>
    exact iff_of_true (h.update id _ fun _ => ⟨rfl, rfl⟩) rfl
  | adoptState id new updates ts => exact iff_of_true (h.adoptState id new updates ts) rfl
  | _ =>
    exact iff_of_true (hother (fun _ _ _ _ hby => nomatch hby) fun _ _ _ _ he => nomatch he) rfl

/-! ## Buckets and live states -/

variable (s) (w)

lemma number_eq_total (p : StatefulState → Bool) (f : StatefulInstance → Nat)
    (hf : ∀ i, f i = if i.workload = w ∧ p i.state = true then 1 else 0) :
    s.number w p = s.instances.total f := by
  unfold number
  congr 1
  funext i
  exact (hf i).symm

/-- The banked bucket is the banked state. -/
lemma tally_banked : s.tally w .banked = s.number w (· = .banked) := by
  refine (number_eq_total s w _ _ fun i => ?_).symm
  unfold weight share
  cases i.state <;> simp [bucketOf]

/-- The live bucket and the instances being torn down are the live ones. -/
lemma tally_live :
    s.tally w .live + s.number w (· = .destroying) = s.number w StatefulState.live := by
  unfold tally number
  rw [← Table.total_add]
  refine (number_eq_total s w _ _ fun i => ?_).symm
  unfold weight share
  by_cases hw : i.workload = w
  · cases i.state <;> simp [bucketOf, StatefulState.live, hw]
  · simp [hw]

lemma number_eq_zero_iff (p : StatefulState → Bool) : s.number w p = 0 ↔
      ∀ id i, s.instances.lookup id = some i → i.workload = w → p i.state = false := by
  unfold number Table.total
  rw [List.sum_eq_zero_iff]
  constructor
  · intro h id i hi hw
    have hzero := h _ (List.mem_map_of_mem (AList.mem_lookup_iff.mp hi))
    by_contra hp
    simp [hw, hp] at hzero
  · intro h n hn
    obtain ⟨⟨id, i⟩, he, rfl⟩ := List.mem_map.mp hn
    have hlook := AList.mem_lookup_iff.mpr he
    refine if_neg ?_
    rintro ⟨hw, hp⟩
    exact absurd (h id i hlook hw) (by simp [hp])

variable {s}

/-- Exact counters are the numbers of live and of banked instances when nothing is being
destroyed. -/
lemma Counted.exact_iff (h : Counted s) (w : String) :
    (counter s.counts w .live = s.number w StatefulState.live ∧
      counter s.counts w .banked = s.number w (· = .banked)) ↔
      ∀ id i, s.instances.lookup id = some i → i.workload = w → i.state ≠ .destroying := by
  have hlive := tally_live s w
  have hdestroying := number_eq_zero_iff s w (· = .destroying)
  rw [h w .live, h w .banked, tally_banked]
  constructor
  · rintro ⟨heq, -⟩ id i hi hw
    have hzero : s.number w (· = .destroying) = 0 := by omega
    simpa using hdestroying.mp hzero id i hi hw
  · intro hnone
    have hzero := hdestroying.mpr fun id i hi hw => by simpa using hnone id i hi hw
    exact ⟨by omega, rfl⟩

/-- **When the counters are right.** Take any run from new tables, with any calls, append outcomes,
compactions and restarts.
* The counters are those of the buckets in every state of the run exactly when no birth of the run
  succeeds under the id of an instance that is counted.
* In such a run the counters of a workload are the numbers of its live and of its banked instances
  exactly when none of its instances is being destroyed. -/
theorem counters_exact_iff (calls : List StatefulCall) :
    (Along step (fun s call => s.takesOver call = false) init calls ↔
        ∀ n, Counted (run step init (calls.take n))) ∧
      (Along step (fun s call => s.takesOver call = false) init calls →
        ∀ w, (counter (run step init calls).counts w .live =
              (run step init calls).number w StatefulState.live ∧
            counter (run step init calls).counts w .banked =
              (run step init calls).number w (· = .banked)) ↔
          ∀ id i, (run step init calls).instances.lookup id = some i → i.workload = w →
            i.state ≠ .destroying) := by
  have hstep (s : StatefulStore) (call : StatefulCall) (h : Counted s)
      (hover : s.takesOver call = false) : Counted (s.step call) := (h.step_iff call).mpr hover
  refine ⟨along_iff_forall_take Counted Counted hstep (fun _ h => h)
    (fun s call h h' => (h.step_iff call).mp h') (counted_rebuild _) calls, fun h w => ?_⟩
  exact (run_induction Counted hstep (counted_rebuild _) h).exact_iff w

/-- An instance of `pg` that is served and then torn down. -/
def tornDown : List StatefulCall :=
  [.start ⟨"i1", "homelab", none, "pg", some "brick-a", some "vm-1", 1, none⟩ .started ⟨1, none⟩ 1,
    .publish "i1" "10.0.0.1" 5432 "ready" ⟨2, none⟩,
    .transition "i1" (.beginDestroy "operator") ⟨3, none⟩ 3]

/-- The teardown is a run in which no id is taken over, and `pg` has an instance in it. -/
theorem counters_exact_iff_tornDown :
    ¬ (counter (run step init tornDown).counts "pg" .live =
          (run step init tornDown).number "pg" StatefulState.live ∧
        counter (run step init tornDown).counts "pg" .banked =
          (run step init tornDown).number "pg" (· = .banked)) := by
  rw [(counters_exact_iff tornDown).2 (by decide +kernel) "pg"]
  intro h
  exact h "i1" _ (Option.some_get (show ((run step init tornDown).instances.lookup "i1").isSome
    by decide +kernel)).symm (by decide +kernel) (by decide +kernel)

/-- The eviction of the banked `i1` times out and lands; its row ages out and `i1` boots again. -/
def reusedId : List StatefulCall :=
  [.start ⟨"i1", "homelab", none, "pg", some "brick-a", some "vm-1", 1, none⟩ .started ⟨1, none⟩ 1,
    .publish "i1" "10.0.0.1" 5432 "ready" ⟨2, none⟩, .markWith "i1" .bank {} 3,
    .transition "i1" (.bankReady "snap-1" 10 1 "brick-a") ⟨4, none⟩ 4,
    .transition "i1" (.evict "operator") ⟨5, some .timedOut⟩ 5, .compact 6 10 ["i1"],
    .start ⟨"i1", "homelab", none, "pg", some "brick-a", some "vm-2", 1, none⟩ .started ⟨7, none⟩ 7]

/-- While the teardown is in flight the workload has a live instance and its live counter is 0; and
after a birth over a banked instance the banked counter is 1 with no banked instance. -/
theorem destroying_not_counted : (counter (run step init tornDown).counts "pg" .live = 0 ∧
      (run step init tornDown).number "pg" StatefulState.live = 1) ∧
    counter (run step init reusedId).counts "pg" .banked = 1 ∧
      (run step init reusedId).number "pg" (· = .banked) = 0 := by
  decide +kernel

end StatefulStore

end Homelab.Embervm
