import Mathlib.Data.List.Dedup
import Mathlib.Logic.Relation
import Homelab.Embervm.StatefulStore.Volumes

/-!
# What a call can do to the stateful store

Every handler of `Embervm.StatefulStore` is a sequence of a few kinds of changes, each of which
writes one pair of tables: a table in memory and its durable projection. The changes are said once
here; an invariant of the store is proved change by change.

* `Change s l s'` is one change, labelled by what it is and carrying what its handler checked: a
  birth passed the singleton gate, a bless raised the watermark, a memory-only write of the ledger
  did not lower it. The op of an append that timed out can land in the tables below while memory
  stays as it was (`Change.unreported`).
* `Change.frame`: a change keeps the tables that its label does not write (`ChangeLabel.writes`).
* `StatefulCall.makes` says which changes a call can make and in which state, `step_path` that it
  makes no others.
-/

namespace Homelab.Embervm

open Homelab.Lib
open Homelab.Embervm.OpLog

namespace StatefulStore

/-! ## Changes -/

/-- The name of a change. -/
inductive ChangeLabel where
  | born (attrs : StartAttrs)
  | moved (instanceId : String) (i : StatefulInstance) (kind : StatefulOpKind)
      (next : StatefulState) (updates : InstanceUpdates)
  | held (instanceId : String) (i i' : StatefulInstance)
  | reported (workload : String) (f : VolumeFields)
  | adoptedExport (workload : String) (generation : Nat)
  | created (workload : String) (f : CreateFields)
  | deleted (workload : String)
  | blessed (workload : String) (generation : Nat)
  | judged (workload : String) (fact : Blessing)
  | leased (workload nodeId : String)
  | dispatched (workload : String)
  | unreported (op : StatefulOp)
  | swept
  | pruned (cutoff : Int)
  | restarted

/-- The tables a change writes, in memory and below. -/
def ChangeLabel.writes : ChangeLabel → StatefulTable → Bool
  | .born _, c | .moved _ _ _ _ _, c => c = .instances || c = .volumes
  | .held _ _ _, c | .pruned _, c => c = .instances
  | .reported _ _, c | .adoptedExport _ _, c | .created _ _, c | .deleted _, c => c = .volumes
  | .blessed _ _, c | .judged _ _, c => c = .blessing
  | .leased _ _, c => c = .leases
  | .dispatched _, c => c = .dispatches
  | .unreported op, c => op.kind.writes c
  | .swept, _ => false
  | .restarted, _ => true

/-- The kinds of the ops that transitions of an instance append. -/
def instanceKind (kind : StatefulOpKind) : Prop :=
  ∀ c, kind.writes c = true → c = .instances ∨ c = .volumes

/-- The ops the store hands to the op-log: a lease of the next free range, a bless past the
watermark, or an op that writes neither table. -/
inductive Hands (s : StatefulStore) : StatefulOp → Prop where
  | lease (workload nodeId : String) (ts : Int) : Hands s (s.leaseOp workload nodeId ts)
  | bless {workload : String} {generation : Nat} (ts : Int)
      (hpast : ∀ b, (s.fetchBlessing workload).blessedGeneration = some b → b < generation) :
      Hands s (systemOp workload (.generationBlessed generation) ts)
  | other {op : StatefulOp} (hleases : op.kind.writes .leases = false)
      (hblessing : op.kind.writes .blessing = false) : Hands s op

/-- One change of the store. -/
inductive Change (s : StatefulStore) : ChangeLabel → StatefulStore → Prop where
  /-- A birth, past the singleton gate. -/
  | born {attrs : StartAttrs} {birth : Birth} {ts : Int} {db : StatefulTables} (volumeTs : Int)
      (hgate : s.hasLiveInstance? attrs.workload = false)
      (hdb : s.db.project (birthOp attrs birth ts) = .ok db) :
      Change s (.born attrs) (s.insertBorn db attrs ts volumeTs)
  /-- A durable transition. -/
  | moved {instanceId : String} {i : StatefulInstance} {kind : StatefulOpKind} {ts : Int}
      {db : StatefulTables} (next : StatefulState) (updates : InstanceUpdates) (volumeTs : Int)
      (hi : s.instances.lookup instanceId = some i) (hkind : instanceKind kind)
      (hdb : s.db.project (moveOp instanceId i kind ts) = .ok db) :
      Change s (.moved instanceId i kind next updates)
        (s.putMoved db instanceId i kind next updates ts volumeTs)
  /-- A row rewritten in memory only. -/
  | held {instanceId : String} {i i' : StatefulInstance} (counts : Table String BucketCounts)
      (hi : s.instances.lookup instanceId = some i) (hworkload : i'.workload = i.workload) :
      Change s (.held instanceId i i')
        { s with instances := s.instances.insert instanceId i', counts := counts }
  | reported (workload : String) (f : VolumeFields) (io : AppendIo) :
      Change s (.reported workload f) (s.upsertVolumeFacts workload f io).2
  | adoptedExport (workload anchorNodeId : String) (generation : Nat) (io : AppendIo)
      (hfault : io.fault ≠ some .timedOut) :
      Change s (.adoptedExport workload generation)
        (s.adoptExportedGeneration workload anchorNodeId generation io).2
  | created (workload : String) (f : CreateFields) (io : AppendIo)
      (hfault : io.fault ≠ some .timedOut) :
      Change s (.created workload f) (s.createVolume workload f io)
  | deleted (workload : String) (io : AppendIo) (hfault : io.fault ≠ some .timedOut) :
      Change s (.deleted workload) (s.deleteVolume workload io)
  /-- A durable blessing, past the watermark. -/
  | blessed {workload : String} {generation : Nat} {ts : Int} {db : StatefulTables}
      (hpast : ∀ b, (s.fetchBlessing workload).blessedGeneration = some b → b < generation)
      (hdb : s.db.project (systemOp workload (.generationBlessed generation) ts) = .ok db) :
      Change s (.blessed workload generation)
        { s with
          db := db, blessing := s.blessing.insert workload ⟨some generation, false, false⟩ }
  /-- A fact of the ledger rewritten in memory only, its watermark not lowered. -/
  | judged {workload : String} {fact : Blessing}
      (hkeep : ∀ b, (s.fetchBlessing workload).blessedGeneration = some b →
        ∃ b', fact.blessedGeneration = some b' ∧ b ≤ b') :
      Change s (.judged workload fact) { s with blessing := s.blessing.insert workload fact }
  | leased {workload nodeId : String} {ts : Int} {db : StatefulTables} (createdTs updatedTs : Int)
      (hdb : s.db.project (s.leaseOp workload nodeId ts) = .ok db) :
      Change s (.leased workload nodeId) (s.putLease db workload nodeId createdTs updatedTs)
  | dispatched {workload : String} {kind : StatefulOpKind} {ts : Int} {db : StatefulTables}
      (dispatches : Table String CheckpointDispatch)
      (hkind : ∀ c, kind.writes c = true → c = .dispatches)
      (hdb : s.db.project (systemOp workload kind ts) = .ok db) :
      Change s (.dispatched workload) { s with db := db, dispatches := dispatches }
  /-- An append that timed out and landed. -/
  | unreported {op : StatefulOp} {db : StatefulTables} (hop : Hands s op)
      (hdb : s.db.project op = .ok db) : Change s (.unreported op) { s with db := db }
  | swept (brokenStreak : Table String Nat) :
      Change s .swept { s with brokenStreak := brokenStreak }
  | pruned (cutoff : Int) (batch : Nat) (scan : List String) :
      Change s (.pruned cutoff) { s with db := s.db.prune cutoff batch scan }
  | restarted : Change s .restarted (rebuild s.db)

/-! ## Frames -/

/-- `s'` has the tables of `s` that are not among those written. -/
structure Kept (writes : StatefulTable → Bool) (s s' : StatefulStore) : Prop where
  db : StatefulTables.Frame writes s.db s'.db
  instances : writes .instances = false → s'.instances = s.instances
  volumes : writes .volumes = false → s'.volumes = s.volumes
  blessing : writes .blessing = false → s'.blessing = s.blessing
  leases : writes .leases = false → s'.leases = s.leases

/-- What an append leaves of the tables, whatever it answers. -/
lemma frame_left (t : StatefulTables) (op : StatefulOp) (fault : Option AppendFault) :
    StatefulTables.Frame op.kind.writes t (left (t.append op fault)) := by
  rcases left_answered t (t.project op) fault with h | h
  · rw [StatefulTables.append, h]
    exact .refl _ _
  · exact StatefulTables.frame_project h

variable (s : StatefulStore) (workload : String)

lemma kept_bumpVolumeEts (nodeId : Option String) (generation : Option Nat) (ts : Int) :
    ∃ volumes, s.bumpVolumeEts workload nodeId generation ts = { s with volumes := volumes } := by
  unfold bumpVolumeEts
  rcases generation with _ | generation
  · exact ⟨_, rfl⟩
  · dsimp only
    split
    · exact ⟨_, rfl⟩
    · exact ⟨_, rfl⟩

lemma putMoved_eq (db : StatefulTables) (instanceId : String) (i : StatefulInstance)
    (kind : StatefulOpKind) (next : StatefulState) (updates : InstanceUpdates) (ts volumeTs : Int) :
    ∃ volumes, s.putMoved db instanceId i kind next updates ts volumeTs =
      { s with
        db := db
        instances := s.instances.insert instanceId (moved i kind next updates ts)
        volumes := volumes
        counts := bumpCounts s.counts (some i.state) next i.workload } := by
  cases kind with
  | relit nodeId vmId generation =>
    exact kept_bumpVolumeEts _ i.workload (updates.nodeId.getD none)
      (updates.generation.getD none) volumeTs
  | _ => exact ⟨_, rfl⟩

lemma insertBorn_eq (db : StatefulTables) (attrs : StartAttrs)
    (ts volumeTs : Int) : ∃ volumes, s.insertBorn db attrs ts volumeTs =
      { s with
        db := db
        instances := s.instances.insert attrs.instanceId (bornInstance attrs ts)
        volumes := volumes
        counts := bumpCounts s.counts none .starting attrs.workload } :=
  kept_bumpVolumeEts _ attrs.workload attrs.nodeId (some attrs.generation) volumeTs

/-- The state and the workload of a row after a durable transition. -/
lemma state_moved (i : StatefulInstance) (kind : StatefulOpKind) (next : StatefulState)
    (updates : InstanceUpdates) (ts : Int) : (moved i kind next updates ts).state = next ∧
      (moved i kind next updates ts).workload = i.workload := by
  unfold moved postTransitionEndpoint stampDestroyingEntry
  dsimp only
  split <;> split <;> exact ⟨rfl, rfl⟩

/-- The state and the workload of a row after a memory-only FSM move. -/
lemma state_marked (i : StatefulInstance) (next : StatefulState) (updates : InstanceUpdates)
    (ts : Int) : (marked i next updates ts).state = next ∧
      (marked i next updates ts).workload = i.workload := by
  unfold marked stampDestroyingEntry
  split <;> exact ⟨rfl, rfl⟩

/-- The state and the workload of a row after a forced state. -/
lemma state_adopted (i : StatefulInstance) (new : AdoptedState) (updates : InstanceUpdates)
    (ts : Int) : (adopted i new updates ts).state = new.state ∧
      (adopted i new updates ts).workload = i.workload := by
  cases new <;> exact ⟨rfl, rfl⟩

/-- A handler that writes the volume row and its projection, or nothing. -/
def VolumeWrite (s' : StatefulStore) : Prop :=
  ∃ db volumes, s' = { s with db := db, volumes := volumes } ∧
    StatefulTables.Frame (fun c => c = .volumes) s.db db

/-- The volume part of a report writes the volume row and the volumes table, nothing else. -/
lemma upsertVolumeFacts_eq (f : VolumeFields)
    (io : AppendIo) : ∃ db, (s.upsertVolumeFacts workload f io).2 =
        { s with
          db := db, volumes := s.volumes.insert workload (s.upsertVolumeFacts workload f io).1 } ∧
      StatefulTables.Frame (fun c => c = .volumes) s.db db := by
  unfold upsertVolumeFacts
  dsimp only
  split
  · have hframe := frame_left s.db (systemOp workload (.volumeRecoveryUpdated
      (recoveryProjectionNodeId (s.volumeBase workload io.ts)
        (mergeVolume (s.volumeBase workload io.ts) f io.ts) f)
      (mergeVolume (s.volumeBase workload io.ts) f io.ts).generation
      ((mergeVolume (s.volumeBase workload io.ts) f io.ts).exportedGeneration.getD 0)) io.ts)
      io.fault
    split
    · rename_i db happ
      rw [happ] at hframe
      exact ⟨db, rfl, hframe⟩
    · rename_i e db happ
      rw [happ] at hframe
      exact ⟨db, rfl, hframe⟩
  · exact ⟨s.db, rfl, .refl _ _⟩

lemma volumeWrite_reported (f : VolumeFields)
    (io : AppendIo) : VolumeWrite s (s.upsertVolumeFacts workload f io).2 := by
  obtain ⟨db, hs, hframe⟩ := upsertVolumeFacts_eq s workload f io
  exact ⟨db, _, hs, hframe⟩

lemma volumeWrite_adoptedExport (anchorNodeId : String) (generation : Nat) (io : AppendIo) :
    VolumeWrite s (s.adoptExportedGeneration workload anchorNodeId generation io).2 := by
  have hsame : VolumeWrite s s := ⟨s.db, s.volumes, rfl, .refl _ _⟩
  have hframe := frame_left s.db (systemOp workload
    (.volumeRecoveryUpdated (some anchorNodeId) generation generation) io.ts) io.fault
  unfold adoptExportedGeneration
  split
  · exact hsame
  · split
    · exact hsame
    · split
      · exact hsame
      · dsimp only
        split
        · rename_i e db happ
          rw [happ] at hframe
          exact ⟨db, _, rfl, hframe⟩
        · rename_i db happ
          rw [happ] at hframe
          exact ⟨db, _, rfl, hframe⟩

lemma volumeWrite_created (f : CreateFields)
    (io : AppendIo) : VolumeWrite s (s.createVolume workload f io) := by
  have hframe := frame_left s.db (systemOp workload (.volumeCreated f.nodeId f.generation
    (f.exportedGeneration.getD 0) f.sizeBytes f.allocatedBytes) io.ts) io.fault
  unfold createVolume
  dsimp only
  split
  · rename_i e db happ
    rw [happ] at hframe
    exact ⟨db, _, rfl, hframe⟩
  · rename_i db happ
    rw [happ] at hframe
    exact ⟨db, _, rfl, hframe⟩

lemma volumeWrite_deleted (io : AppendIo) : VolumeWrite s (s.deleteVolume workload io) := by
  have hframe := frame_left s.db (systemOp workload .volumeDeleted io.ts) io.fault
  unfold deleteVolume
  split
  · rename_i e db happ
    rw [happ] at hframe
    exact ⟨db, _, rfl, hframe⟩
  · rename_i db happ
    rw [happ] at hframe
    exact ⟨db, _, rfl, hframe⟩

lemma VolumeWrite.kept {s s' : StatefulStore} (h : VolumeWrite s s') :
    Kept (fun c => c = .volumes) s s' := by
  obtain ⟨db, volumes, rfl, hf⟩ := h
  exact ⟨hf, fun _ => rfl, by simp, fun _ => rfl, fun _ => rfl⟩

variable {l : ChangeLabel}

/-- **What a change leaves alone**: the tables its label does not write. -/
theorem Change.frame {s s' : StatefulStore} (h : Change s l s') : Kept l.writes s s' := by
  cases h with
  | @born attrs birth ts db volumeTs hgate hdb =>
    obtain ⟨volumes, hs⟩ := insertBorn_eq s db attrs ts volumeTs
    rw [hs]
    have hf := StatefulTables.frame_project hdb
    refine ⟨hf.mono ?_, by simp [ChangeLabel.writes], by simp [ChangeLabel.writes], fun _ => rfl,
      fun _ => rfl⟩
    cases birth <;> exact fun _ hc => hc
  | @moved instanceId i kind ts db next updates volumeTs hi hkind hdb =>
    obtain ⟨volumes, hs⟩ := putMoved_eq s db instanceId i kind next updates ts volumeTs
    rw [hs]
    have hf := StatefulTables.frame_project hdb
    refine ⟨hf.mono ?_, by simp [ChangeLabel.writes], by simp [ChangeLabel.writes], fun _ => rfl,
      fun _ => rfl⟩
    intro c hc
    rcases hkind c hc with rfl | rfl <;> rfl
  | held counts hi hworkload =>
    exact ⟨.refl _ _, by simp [ChangeLabel.writes], fun _ => rfl, fun _ => rfl, fun _ => rfl⟩
  | reported workload f io => exact (volumeWrite_reported s workload f io).kept
  | adoptedExport workload anchorNodeId generation io hfault =>
    exact (volumeWrite_adoptedExport s workload anchorNodeId generation io).kept
  | created workload f io hfault => exact (volumeWrite_created s workload f io).kept
  | deleted workload io hfault => exact (volumeWrite_deleted s workload io).kept
  | blessed hpast hdb =>
    exact ⟨StatefulTables.frame_project hdb, fun _ => rfl, fun _ => rfl,
      by simp [ChangeLabel.writes], fun _ => rfl⟩
  | judged hkeep =>
    exact ⟨.refl _ _, fun _ => rfl, fun _ => rfl, by simp [ChangeLabel.writes], fun _ => rfl⟩
  | leased createdTs updatedTs hdb =>
    exact ⟨StatefulTables.frame_project hdb, fun _ => rfl, fun _ => rfl, fun _ => rfl,
      by simp [ChangeLabel.writes]⟩
  | dispatched dispatches hkind hdb =>
    refine ⟨(StatefulTables.frame_project hdb).mono ?_, fun _ => rfl, fun _ => rfl, fun _ => rfl,
      fun _ => rfl⟩
    intro c hc
    rw [hkind c hc]
    rfl
  | unreported hop hdb =>
    exact ⟨StatefulTables.frame_project hdb, fun _ => rfl, fun _ => rfl, fun _ => rfl, fun _ => rfl⟩
  | swept brokenStreak =>
    exact ⟨.refl _ _, fun _ => rfl, fun _ => rfl, fun _ => rfl, fun _ => rfl⟩
  | pruned cutoff batch scan =>
    exact ⟨⟨by simp [ChangeLabel.writes], fun _ => rfl, fun _ => rfl, fun _ => rfl, fun _ => rfl⟩,
      fun _ => rfl, fun _ => rfl, fun _ => rfl, fun _ => rfl⟩
  | restarted =>
    exact ⟨.refl _ _, by simp [ChangeLabel.writes], by simp [ChangeLabel.writes],
      by simp [ChangeLabel.writes], by simp [ChangeLabel.writes]⟩

/-! ## Paths -/

/-- A sequence of changes, each admitted by `Q` in the state it is made in. -/
def Path (Q : StatefulStore → ChangeLabel → Prop) : StatefulStore → StatefulStore → Prop :=
  Relation.ReflTransGen fun s s' => ∃ l, Q s l ∧ Change s l s'

variable {Q : StatefulStore → ChangeLabel → Prop} {s s' s'' : StatefulStore} {instanceId : String}
  {i : StatefulInstance}

lemma Path.refl (s : StatefulStore) : Path Q s s := Relation.ReflTransGen.refl

lemma Path.trans (h : Path Q s s') (h' : Path Q s' s'') : Path Q s s'' :=
  Relation.ReflTransGen.trans h h'

lemma Change.path (h : Change s l s') (hl : Q s l) : Path Q s s' :=
  Relation.ReflTransGen.single ⟨l, hl, h⟩

/-- **Invariant rule for paths.** -/
theorem Path.induction (I : StatefulStore → Prop)
    (hstep : ∀ {s l s'}, I s → Q s l → Change s l s' → I s') (h : Path Q s s') (h0 : I s) :
    I s' := by
  induction h with
  | refl => exact h0
  | tail _ hlast ih =>
    obtain ⟨l, hl, hc⟩ := hlast
    exact hstep ih hl hc

/-! ## The building blocks of the handlers -/

/-- An append that was not answered `ok`: it wrote nothing, or it timed out and landed. -/
def Withheld (s : StatefulStore) (op : StatefulOp) (io : AppendIo) (s' : StatefulStore) : Prop :=
  s' = s ∨ (io.fault = some .timedOut ∧ Change s (.unreported op) s')

variable {op : StatefulOp} {io : AppendIo} {kind : StatefulOpKind}

lemma withheld_of_append {e : OpLogError} {db : StatefulTables} (hop : Hands s op)
    (h : s.db.append op io.fault = .error (e, db)) : Withheld s op io { s with db := db } := by
  rcases answered_eq_error h with rfl | ⟨hfault, hdb⟩
  · exact .inl rfl
  · exact .inr ⟨hfault, Change.unreported hop hdb⟩

lemma Withheld.path (h : Withheld s op io s')
    (hQ : io.fault = some .timedOut → Q s (.unreported op)) : Path Q s s' := by
  rcases h with rfl | ⟨hfault, hc⟩
  · exact Path.refl _
  · exact hc.path (hQ hfault)

/-- Memory does not see a withheld append. -/
lemma Withheld.memory (h : Withheld s op io s') : s' = { s with db := s'.db } := by
  rcases h with rfl | ⟨-, ⟨⟩⟩
  · rfl
  · rfl

lemma DurableMove.instanceKind_kind (move : DurableMove) : instanceKind move.kind := by
  cases move <;> simp [DurableMove.kind, instanceKind, StatefulOpKind.writes]

lemma hands_of_instanceKind (hkind : instanceKind op.kind) : Hands s op := by
  refine .other ?_ ?_
  · by_contra hw
    simpa using hkind .leases (by simpa using hw)
  · by_contra hw
    simpa using hkind .blessing (by simpa using hw)

/-- The write-through core answers an error, its append withheld, or makes its one change. -/
lemma appendAndUpdate_cases (hi : s.instances.lookup instanceId = some i)
    (hkind : instanceKind kind) (next : StatefulState) (updates : InstanceUpdates) (io : AppendIo)
    (volumeTs : Int) :
    (∃ e s', s.appendAndUpdate instanceId i kind next updates io volumeTs = (.error e, s') ∧
        Withheld s (moveOp instanceId i kind io.ts) io s') ∨
      ∃ s', s.appendAndUpdate instanceId i kind next updates io volumeTs =
          (.ok (moved i kind next updates io.ts), s') ∧ io.fault = none ∧
        Change s (.moved instanceId i kind next updates) s' := by
  unfold appendAndUpdate
  rcases happ : s.db.append (moveOp instanceId i kind io.ts) io.fault with ⟨e, db⟩ | db
  · exact .inl ⟨_, _, rfl, withheld_of_append (hands_of_instanceKind hkind) happ⟩
  · obtain ⟨hfault, hdb⟩ := answered_eq_ok happ
    exact .inr ⟨_, rfl, hfault, Change.moved next updates volumeTs hi hkind hdb⟩

variable (s) (instanceId)

/-- A durable transition answers an error, having changed nothing in memory, or follows an edge of
the FSM. -/
lemma doTransition_cases (event : StatefulEvent)
    (hkind : instanceKind kind) (updates : InstanceUpdates) (io : AppendIo) (volumeTs : Int)
    {r : Except StatefulError StatefulInstance × StatefulStore}
    (hr : r = s.doTransition instanceId event kind updates io volumeTs) :
    (r.1.isOk = false ∧ (r.2 = s ∨ ∃ i, s.instances.lookup instanceId = some i ∧
        Withheld s (moveOp instanceId i kind io.ts) io r.2)) ∨
      ∃ i next, s.instances.lookup instanceId = some i ∧ i.state.transition event = .ok next ∧
        io.fault = none ∧ Change s (.moved instanceId i kind next updates) r.2 := by
  subst hr
  unfold doTransition fetch
  rcases hi : s.instances.lookup instanceId with _ | i
  · exact .inl ⟨rfl, .inl rfl⟩
  rcases hn : i.state.transition event with e | next
  · simp only [hn]
    exact .inl ⟨rfl, .inl trivial⟩
  · simp only [hn]
    rcases appendAndUpdate_cases hi hkind next updates io volumeTs
      with ⟨e, s', he, hw⟩ | ⟨s', hok, hfault, hc⟩
    · rw [he]
      exact .inl ⟨rfl, .inr ⟨i, rfl, hw⟩⟩
    · rw [hok]
      exact .inr ⟨i, next, rfl, hn, hfault, hc⟩

/-- A memory-only transition answers an error and changes nothing, or follows an edge. -/
lemma doMarkWithUpdates_cases (event : StatefulEvent) (updates : InstanceUpdates) (ts : Int) :
    (s.doMarkWithUpdates instanceId event updates ts).2 = s ∨
      ∃ i next, s.instances.lookup instanceId = some i ∧ i.state.transition event = .ok next ∧
        Change s (.held instanceId i (marked i next updates ts))
          (s.doMarkWithUpdates instanceId event updates ts).2 := by
  unfold doMarkWithUpdates fetch
  rcases hi : s.instances.lookup instanceId with _ | i
  · exact .inl rfl
  rcases hn : i.state.transition event with e | next
  · simp only [hn]
    exact .inl trivial
  · simp only [hn]
    exact .inr ⟨i, next, rfl, hn, Change.held _ hi (state_marked i next updates ts).2⟩

/-- A forced state is nothing, or one memory-only write of an instance that is not terminal. -/
lemma adoptState_cases (new : AdoptedState)
    (updates : InstanceUpdates) (ts : Int) : s.adoptState instanceId new updates ts = s ∨
      ∃ i, s.instances.lookup instanceId = some i ∧ i.state.terminal = false ∧
        Change s (.held instanceId i (adopted i new updates ts))
          (s.adoptState instanceId new updates ts) := by
  unfold adoptState
  rcases hi : s.instances.lookup instanceId with _ | i
  · exact .inl rfl
  dsimp only
  split
  · exact .inl rfl
  · rename_i hterm
    split
    · exact .inl rfl
    · exact .inr ⟨i, rfl, by simpa using hterm,
        Change.held _ hi (state_adopted i new updates ts).2⟩

variable {instanceId}

/-- A rewrite in memory that keeps the workload is nothing or one memory-only write. -/
lemma update_cases (instanceId : String)
    (f : StatefulInstance → StatefulInstance) (hf : ∀ i, (f i).workload = i.workload) :
    ({ s with instances := s.instances.update instanceId f } : StatefulStore) = s ∨
      ∃ i, s.instances.lookup instanceId = some i ∧
        Change s (.held instanceId i (f i))
          { s with instances := s.instances.update instanceId f } := by
  unfold Table.update
  rcases hi : s.instances.lookup instanceId with _ | i
  · exact .inl rfl
  · exact .inr ⟨i, rfl, Change.held s.counts hi (hf i)⟩

variable {s}

/-! ## Eager eviction -/

/-- What one banked instance of a sweep can change. -/
def ChangeLabel.ofEviction (l : ChangeLabel) : Prop :=
  l = .swept ∨ ∃ instanceId i, i.state = .banked ∧
    l = .moved instanceId i (.evicted (some "pair_broken")) .evicted {}

/-- The op of a sweep whose append timed out. -/
def withheldEviction (io : String → AppendIo) (op : StatefulOp) : Prop :=
  ∃ instanceId i, (io instanceId).fault = some .timedOut ∧
    op = moveOp instanceId i (.evicted (some "pair_broken")) (io instanceId).ts

section

variable {io : String → AppendIo} (hQ : ∀ s l, l.ofEviction → Q s l)
  (hlate : ∀ s op, withheldEviction io op → Q s (.unreported op))

include hQ hlate

lemma path_evictIfBroken (hi : s.instances.lookup instanceId = some i)
    (hbanked : i.state = .banked) (scan : List String) :
    Path Q s (s.evictIfBroken instanceId i scan (io instanceId)) ∧
      ∀ id, id ≠ instanceId → (s.evictIfBroken instanceId i scan (io instanceId)).instances.lookup
        id = s.instances.lookup id := by
  have hsweep : ∀ (s : StatefulStore) (n : Nat), Path Q s (s.putBrokenStreak instanceId n) :=
    fun s n => (Change.swept _).path (hQ s _ (.inl rfl))
  unfold evictIfBroken
  dsimp only
  split
  · exact ⟨hsweep s 0, fun _ _ => rfl⟩
  · split
    · have hkind : instanceKind (.evicted (some "pair_broken")) := by
        simp [instanceKind, StatefulOpKind.writes]
      rcases appendAndUpdate_cases hi hkind .evicted {} (io instanceId) (io instanceId).ts
        with ⟨e, s₁, he, hw⟩ | ⟨s₁, hok, -, hc⟩
      · rw [he]
        refine ⟨(hw.path fun hfault => hlate s _ ⟨_, i, hfault, rfl⟩).trans (hsweep s₁ _),
          fun id _ => ?_⟩
        show s₁.instances.lookup id = _
        rw [hw.memory]
      · rw [hok]
        refine ⟨(hc.path (hQ s _ (.inr ⟨_, _, hbanked, rfl⟩))).trans (hsweep s₁ 0), ?_⟩
        intro id hid
        show s₁.instances.lookup id = _
        cases hc with
        | @moved _ _ _ ts db _ _ volumeTs hi' hkind' hdb =>
          exact AList.lookup_insert_ne hid
    · exact ⟨hsweep s _, fun _ _ => rfl⟩

/-- A sweep over distinct banked instances. -/
lemma path_evict_foldl (scan : List String) (l : List (String × StatefulInstance))
    (hnodup : (l.map Prod.fst).Nodup)
    (hl : ∀ e ∈ l, s.instances.lookup e.1 = some e.2 ∧ e.2.state = .banked) :
    Path Q s (l.foldl (fun s e => s.evictIfBroken e.1 e.2 scan (io e.1)) s) := by
  induction l generalizing s with
  | nil => exact Path.refl s
  | cons e l ih =>
    obtain ⟨hi, hbanked⟩ := hl e List.mem_cons_self
    obtain ⟨hfirst, hother⟩ := path_evictIfBroken hQ hlate hi hbanked scan
    rw [List.map_cons, List.nodup_cons] at hnodup
    refine hfirst.trans (ih hnodup.2 fun e' he' => ?_)
    -- the instances still to come are not the one just judged
    have hne : e'.1 ≠ e.1 := fun h => hnodup.1 (h ▸ List.mem_map_of_mem he')
    rw [hother e'.1 hne]
    exact hl e' (List.mem_cons_of_mem _ he')

end

lemma bankedScan_nodup (s : StatefulStore) (scan : List String) :
    ((s.bankedScan scan).map Prod.fst).Nodup := by
  unfold bankedScan
  rw [List.map_filterMap]
  refine scan.nodup_dedup.filterMap ?_
  intro a a' b hb hb'
  simp only [Option.map_map, Option.mem_def, Option.map_eq_some_iff, Function.comp_apply] at hb hb'
  obtain ⟨_, -, rfl⟩ := hb
  obtain ⟨_, -, h⟩ := hb'
  exact h.symm

lemma lookup_of_mem_bankedScan {scan : List String} {e : String × StatefulInstance}
    (he : e ∈ s.bankedScan scan) : s.instances.lookup e.1 = some e.2 ∧ e.2.state = .banked := by
  obtain ⟨id, -, hid⟩ := List.mem_filterMap.mp he
  obtain ⟨i, hi, rfl⟩ := Option.map_eq_some_iff.mp hid
  obtain ⟨hl, hb⟩ := Option.filter_eq_some_iff.mp hi
  exact ⟨hl, by simpa using hb⟩

lemma path_eagerEvictBrokenPairs {io : String → AppendIo} (hQ : ∀ s l, l.ofEviction → Q s l)
    (hlate : ∀ s op, withheldEviction io op → Q s (.unreported op)) (scan : List String) :
    Path Q s (s.eagerEvictBrokenPairs scan io) := by
  have hfold := path_evict_foldl hQ hlate scan (s.bankedScan scan) (bankedScan_nodup s scan)
    fun e he => lookup_of_mem_bankedScan he
  exact hfold.trans ((Change.swept _).path (hQ _ _ (.inl rfl)))

/-! ## Blessing and quarantine -/

variable {workload : String}

/-- A bless past the watermark is withheld or makes its one change. -/
lemma doBlessAppend_cases {generation : Nat} (io : AppendIo)
    (hpast : ∀ b, (s.fetchBlessing workload).blessedGeneration = some b → b < generation) :
    (∃ e s', s.doBlessAppend workload generation io = (.error e, s') ∧
        Withheld s (systemOp workload (.generationBlessed generation) io.ts) io s') ∨
      ∃ s', s.doBlessAppend workload generation io = (.ok (), s') ∧
        Change s (.blessed workload generation) s' := by
  unfold doBlessAppend
  rcases happ : s.db.append (systemOp workload (.generationBlessed generation) io.ts) io.fault
    with ⟨e, db⟩ | db
  · exact .inl ⟨_, _, rfl, withheld_of_append (.bless io.ts hpast) happ⟩
  · exact .inr ⟨_, rfl, Change.blessed hpast (answered_eq_ok happ).2⟩

lemma clearCheckpointDispatchWrite_cases (s : StatefulStore) (workload : String) (io : AppendIo) :
    Withheld s (systemOp workload .checkpointResolved io.ts) io
        (s.clearCheckpointDispatchWrite workload io) ∨
      Change s (.dispatched workload) (s.clearCheckpointDispatchWrite workload io) := by
  unfold clearCheckpointDispatchWrite
  rcases happ : s.db.append (systemOp workload .checkpointResolved io.ts) io.fault
    with ⟨e, db⟩ | db
  · exact .inl (withheld_of_append (.other rfl rfl) happ)
  · exact .inr (Change.dispatched _ (by simp [StatefulOpKind.writes]) (answered_eq_ok happ).2)

lemma judged_keep (s : StatefulStore) (workload : String) {fact : Blessing}
    (h : fact.blessedGeneration = (s.fetchBlessing workload).blessedGeneration) :
    Change s (.judged workload fact) { s with blessing := s.blessing.insert workload fact } :=
  Change.judged fun b hb => ⟨b, h.trans hb, le_rfl⟩

/-- What the quarantine ladder can change. A report that says it is blessed never moves the
watermark. -/
def ChangeLabel.ofQuarantine (workload : String) (blessedOnWire : Bool) (s : StatefulStore)
    (l : ChangeLabel) : Prop :=
  (blessedOnWire = false ∧ ∃ generation, l = .blessed workload generation) ∨
    (∃ fact, l = .judged workload fact ∧ (blessedOnWire = true →
      fact.blessedGeneration = (s.fetchBlessing workload).blessedGeneration)) ∨
    l = .dispatched workload

variable {blessedOnWire : Bool} {reported : Nat}

/-- An unblessed report is forward when it is past a watermark. -/
lemma forwardUnblessed?_eq_true (h : s.forwardUnblessed? workload reported blessedOnWire = true) :
    blessedOnWire = false ∧
      ∀ b, (s.fetchBlessing workload).blessedGeneration = some b → b < reported := by
  unfold forwardUnblessed? at h
  rw [Bool.and_eq_true] at h
  refine ⟨by simpa using h.1, fun b hb => ?_⟩
  rw [hb] at h
  simpa using h.2

/-- The ops that concern neither an instance nor a volume row. -/
def StatefulOp.aside (op : StatefulOp) : Prop :=
  op.instanceId = none ∧ op.kind.writes .instances = false ∧ op.kind.writes .volumes = false

lemma path_updateQuarantine {reportingNode anchorNode : Option String} {bless resolve : AppendIo}
    (hQ : ∀ s l, l.ofQuarantine workload blessedOnWire s → Q s l)
    (hlate : ∀ s op, StatefulOp.aside op → Q s (.unreported op)) :
    Path Q s (s.updateQuarantine workload reported blessedOnWire reportingNode anchorNode bless
      resolve) := by
  have hkeep : ∀ (s : StatefulStore) (fact : Blessing),
      fact.blessedGeneration = (s.fetchBlessing workload).blessedGeneration →
        Path Q s { s with blessing := s.blessing.insert workload fact } := fun s fact h =>
    (judged_keep s workload h).path (hQ s _ (.inr (.inl ⟨fact, rfl, fun _ => h⟩)))
  have hquarantine : ∀ s : StatefulStore, Path Q s (s.setQuarantined workload) :=
    fun s => hkeep s _ rfl
  unfold updateQuarantine
  split
  · rename_i hfwd
    obtain ⟨hwire, hpast⟩ := forwardUnblessed?_eq_true hfwd
    split
    · unfold autoHealCheckpointAbort
      rcases doBlessAppend_cases bless hpast with ⟨e, s₁, he, hw⟩ | ⟨s₁, hok, hc⟩
      · rw [he]
        exact (hw.path fun _ => hlate s _ ⟨rfl, rfl, rfl⟩).trans (hquarantine s₁)
      · rw [hok]
        have hblessed : Path Q s s₁ := hc.path (hQ s _ (.inl ⟨hwire, reported, rfl⟩))
        refine hblessed.trans ?_
        rcases clearCheckpointDispatchWrite_cases s₁ workload resolve with hw | hc
        · exact hw.path fun _ => hlate s₁ _ ⟨rfl, rfl, rfl⟩
        · exact hc.path (hQ s₁ _ (.inr (.inr rfl)))
    · split
      · exact hquarantine s
      · split
        · refine (Change.judged fun b hb => ⟨reported, rfl, (hpast b hb).le⟩).path
            (hQ s _ (.inr (.inl ⟨_, rfl, fun h => ?_⟩)))
          rw [hwire] at h
          simp at h
        · exact hquarantine s
  · exact hkeep s _ rfl

/-! ## Calls -/

/-- The endpoint a publish merges. -/
def publishedUpdates (ip : String) (port : Nat) : InstanceUpdates where
  ip := some (some ip)
  port := some (some port)
  healthy := some true
  drainReason := some none

/-- What an unpublish merges. -/
def unpublishedUpdates (reason : String) : InstanceUpdates where
  healthy := some false
  drainReason := some (some reason)
  ip := some none
  port := some none

end StatefulStore

open StatefulStore

/-- The call, made in `s`, can make and answer a change labelled `l` when the store is `t`. -/
def StatefulCall.reports (s : StatefulStore) : StatefulCall → StatefulStore → ChangeLabel → Prop
  | .start attrs _ _ _, t, l => t = s ∧ l = .born attrs
  | .transition id move io _, t, l => t = s ∧ ∃ i next, s.instances.lookup id = some i ∧
      i.state.transition move.event = .ok next ∧ io.fault = none ∧
      l = .moved id i move.kind next move.updates
  | .publish id ip port reason _, t, l => t = s ∧ ∃ i next, s.instances.lookup id = some i ∧
      i.state.transition .publish = .ok next ∧
      l = .moved id i (.published (some ip) (some port) reason) next (publishedUpdates ip port)
  | .unpublish id reason ts, t, l => t = s ∧ ∃ i next, s.instances.lookup id = some i ∧
      i.state.transition .unpublish = .ok next ∧
      l = .held id i (marked i next (unpublishedUpdates reason) ts)
  | .markWith id event updates ts, t, l => t = s ∧ ∃ i next, s.instances.lookup id = some i ∧
      i.state.transition event = .ok next ∧ l = .held id i (marked i next updates ts)
  | .setHealth id healthy ts, _, l => ∃ i, l = .held id i
      { i with healthy := healthy, updatedAt := ts }
  | .touchActive id ts, _, l => ∃ i, l = .held id i
      { i with lastActiveAt := some ts, updatedAt := ts }
  | .adoptState id new updates ts, t, l => t = s ∧ ∃ i, s.instances.lookup id = some i ∧
      i.state.terminal = false ∧ l = .held id i (adopted i new updates ts)
  | .adoptBankedBundle id nodeId bundle _, _, l => ∃ i, i.state.terminal = false ∧
      l = .moved id i bundle.kind .banked (bundle.updates nodeId)
  | .adoptEndpoint id nodeId vmId ip port healthy, _, l => ∃ i, l = .held id i
      { i with
        nodeId := some nodeId, vmId := some vmId, ip := ip, port := port
        healthy := healthy.getD i.healthy }
  | .eagerEvictBrokenPairs _ _, _, l => l.ofEviction
  | .upsertVolume w f _, t, l => (t = s ∧ l = .reported w f) ∨
      ∃ wire, f.generationBlessed = some wire ∧ l.ofQuarantine w wire t
  | .adoptExportedGeneration w _ generation _, _, l => l = .adoptedExport w generation
  | .createVolume w f _, _, l => l = .created w f
  | .deleteVolume w _, _, l => l = .deleted w
  | .blessGeneration w generation _, t, l => t = s ∧ l = .blessed w generation
  | .seedBlessedGenerationIfUnset w generation, _, l =>
    l = .judged w ⟨some generation, false, false⟩
  | .ensureBlessingLease w nodeId _ _ _, t, l => t = s ∧ l = .leased w nodeId
  | .recordCheckpointDispatch w _ _ _, _, l | .clearCheckpointDispatch w _, _, l =>
    l = .dispatched w
  | .compact cutoff _ _, t, l => t = s ∧ l = .pruned cutoff
  | .restart, t, l => t = s ∧ l = .restarted

/-- The call, made in `s`, can leave `op` below although its append timed out. -/
def StatefulCall.withholds (s : StatefulStore) : StatefulCall → StatefulOp → Prop
  | .start attrs birth io _, op => io.fault = some .timedOut ∧ op = birthOp attrs birth io.ts
  | .transition id move io _, op => io.fault = some .timedOut ∧
      ∃ i, s.instances.lookup id = some i ∧ op = moveOp id i move.kind io.ts
  | .publish id ip port reason io, op => io.fault = some .timedOut ∧
      ∃ i, op = moveOp id i (.published (some ip) (some port) reason) io.ts
  | .adoptBankedBundle id _ bundle io, op => io.fault = some .timedOut ∧
      ∃ i, op = moveOp id i bundle.kind io.ts
  | .eagerEvictBrokenPairs _ io, op => withheldEviction io op
  | .adoptExportedGeneration w nodeId generation io, op => io.fault = some .timedOut ∧
      op = systemOp w (.volumeRecoveryUpdated (some nodeId) generation generation) io.ts
  | .createVolume w f io, op => io.fault = some .timedOut ∧
      op = systemOp w (.volumeCreated f.nodeId f.generation (f.exportedGeneration.getD 0)
        f.sizeBytes f.allocatedBytes) io.ts
  | .deleteVolume w io, op => io.fault = some .timedOut ∧ op = systemOp w .volumeDeleted io.ts
  | .upsertVolume _ _ _, op | .blessGeneration _ _ _, op | .ensureBlessingLease _ _ _ _ _, op
  | .recordCheckpointDispatch _ _ _ _, op | .clearCheckpointDispatch _ _, op => StatefulOp.aside op
  | _, _ => False

/-- The call, made in `s`, can make a change labelled `l` when the store is `t`. -/
def StatefulCall.makes (s : StatefulStore) (call : StatefulCall) (t : StatefulStore)
    (l : ChangeLabel) : Prop :=
  call.reports s t l ∨ ∃ op, l = .unreported op ∧ call.withholds s op

namespace StatefulStore

/-- A birth is refused, is withheld, or makes its one change. -/
lemma doStart_cases (s : StatefulStore) (attrs : StartAttrs) (birth : Birth) (io : AppendIo)
    (volumeTs : Int) : ((s.doStart attrs birth io volumeTs).1.isOk = false ∧
        Withheld s (birthOp attrs birth io.ts) io (s.doStart attrs birth io volumeTs).2) ∨
      ((s.doStart attrs birth io volumeTs).1.isOk = true ∧
        Change s (.born attrs) (s.doStart attrs birth io volumeTs).2) := by
  unfold doStart
  split
  · exact .inl ⟨rfl, .inl rfl⟩
  · rename_i hgate
    unfold appendStart
    rcases happ : s.db.append (birthOp attrs birth io.ts) io.fault with ⟨e, db⟩ | db
    · refine .inl ⟨rfl, withheld_of_append (.other ?_ ?_) happ⟩ <;> cases birth <;> rfl
    · exact .inr ⟨rfl, Change.born volumeTs (by simpa using hgate) (answered_eq_ok happ).2⟩

/-- The adoption of a bundle answers `none` or an error, its append withheld, or banks the
instance. -/
lemma adoptBankedBundle_cases (s : StatefulStore) (instanceId nodeId : String) (bundle : Bundle)
    (io : AppendIo) : ((∀ j, (s.adoptBankedBundle instanceId nodeId bundle io).1 ≠ .ok (some j)) ∧
        ((s.adoptBankedBundle instanceId nodeId bundle io).2 = s ∨
          ∃ i, Withheld s (moveOp instanceId i bundle.kind io.ts) io
            (s.adoptBankedBundle instanceId nodeId bundle io).2)) ∨
      ∃ i, s.instances.lookup instanceId = some i ∧ i.state.terminal = false ∧
        Change s (.moved instanceId i bundle.kind .banked (bundle.updates nodeId))
          (s.adoptBankedBundle instanceId nodeId bundle io).2 := by
  unfold adoptBankedBundle
  rcases hi : s.instances.lookup instanceId with _ | i
  · exact .inl ⟨by simp, .inl rfl⟩
  dsimp only
  split
  · exact .inl ⟨by simp, .inl rfl⟩
  · rename_i hterm
    split
    · exact .inl ⟨by simp, .inl rfl⟩
    · have hkind : instanceKind bundle.kind := by
        simp [Bundle.kind, instanceKind, StatefulOpKind.writes]
      rcases appendAndUpdate_cases hi hkind .banked (bundle.updates nodeId) io io.ts
        with ⟨e, s', he, hw⟩ | ⟨s', hok, -, hc⟩
      · rw [he]
        exact .inl ⟨by simp, .inr ⟨i, hw⟩⟩
      · rw [hok]
        exact .inr ⟨i, rfl, by simpa using hterm, hc⟩

lemma blessGeneration_cases (s : StatefulStore) (workload : String) (generation : Nat)
    (io : AppendIo) :
    Withheld s (systemOp workload (.generationBlessed generation) io.ts) io
        (s.blessGeneration workload generation io).2 ∨
      Change s (.blessed workload generation) (s.blessGeneration workload generation io).2 := by
  have happend (hpast : ∀ b, (s.fetchBlessing workload).blessedGeneration = some b →
      b < generation) :
      Withheld s (systemOp workload (.generationBlessed generation) io.ts) io
          (s.blessGenerationAppend workload generation io).2 ∨
        Change s (.blessed workload generation)
          (s.blessGenerationAppend workload generation io).2 := by
    unfold blessGenerationAppend
    rcases doBlessAppend_cases io hpast with ⟨e, s₁, he, hw⟩ | ⟨s₁, hok, hc⟩
    · rw [he]
      exact .inl hw
    · rw [hok]
      exact .inr hc
  unfold blessGeneration
  rcases hcur : (s.fetchBlessing workload).blessedGeneration with _ | current
  · exact happend (by simp [hcur])
  · dsimp only
    split
    · exact .inl (.inl rfl)
    · refine happend fun b hb => ?_
      rw [hcur] at hb
      obtain rfl := Option.some.inj hb
      omega

/-- A request for a lease leaves memory alone, its append withheld, or puts the next lease. -/
lemma ensureBlessingLease_cases (s : StatefulStore) (workload nodeId : String) (io : AppendIo)
    (createdTs updatedTs : Int) :
    Withheld s (s.leaseOp workload nodeId io.ts) io
        (s.ensureBlessingLease workload nodeId io createdTs updatedTs).2 ∨
      ∃ db, s.db.project (s.leaseOp workload nodeId io.ts) = .ok db ∧
        (s.ensureBlessingLease workload nodeId io createdTs updatedTs).2 =
          s.putLease db workload nodeId createdTs updatedTs := by
  unfold ensureBlessingLease
  split
  · unfold appendBlessingLease
    rcases happ : s.db.append (s.leaseOp workload nodeId io.ts) io.fault with ⟨e, db⟩ | db
    · exact .inl (withheld_of_append (.lease _ _ _) happ)
    · exact .inr ⟨db, (answered_eq_ok happ).2, rfl⟩
  · exact .inl (.inl rfl)

section

variable {workload : String}

/-- A handler of one volume append, when the append timed out. -/
lemma adoptExportedGeneration_withheld {nodeId : String} {generation : Nat}
    (h : io.fault = some .timedOut) :
    Withheld s (systemOp workload (.volumeRecoveryUpdated (some nodeId) generation generation)
      io.ts) io (s.adoptExportedGeneration workload nodeId generation io).2 := by
  unfold adoptExportedGeneration
  split
  · exact .inl rfl
  · split
    · exact .inl rfl
    · split
      · exact .inl rfl
      · dsimp only
        split
        · rename_i e db happ
          exact withheld_of_append (.other rfl rfl) happ
        · rename_i db happ
          simp [(answered_eq_ok happ).1] at h

lemma createVolume_withheld {f : CreateFields} (h : io.fault = some .timedOut) :
    Withheld s (systemOp workload (.volumeCreated f.nodeId f.generation
      (f.exportedGeneration.getD 0) f.sizeBytes f.allocatedBytes) io.ts) io
      (s.createVolume workload f io) := by
  unfold createVolume
  dsimp only
  split
  · rename_i e db happ
    exact withheld_of_append (.other rfl rfl) happ
  · rename_i db happ
    simp [(answered_eq_ok happ).1] at h

lemma deleteVolume_withheld (h : io.fault = some .timedOut) :
    Withheld s (systemOp workload .volumeDeleted io.ts) io (s.deleteVolume workload io) := by
  unfold deleteVolume
  split
  · rename_i e db happ
    exact withheld_of_append (.other rfl rfl) happ
  · rename_i db happ
    simp [(answered_eq_ok happ).1] at h

lemma path_upsertVolume {f : VolumeFields} {io : UpsertIo}
    (hQ : ∀ t l, StatefulCall.makes s (.upsertVolume workload f io) t l → Q t l) :
    Path Q s (s.upsertVolume workload f io) := by
  have hreport : Path Q s (s.upsertVolumeFacts workload f io.volume).2 :=
    (Change.reported workload f io.volume).path (hQ s _ (.inl (.inl ⟨rfl, rfl⟩)))
  unfold upsertVolume
  rcases hwire : f.generationBlessed with _ | wire
  · exact hreport
  · exact hreport.trans (path_updateQuarantine
      (fun t l hl => hQ t l (.inl (.inr ⟨wire, hwire, hl⟩)))
      fun t op hop => hQ t _ (.inr ⟨op, rfl, hop⟩))

end

/-- **What a call can do**: the changes `makes` lists, and no others. -/
theorem step_path (s : StatefulStore) (call : StatefulCall) (hQ : ∀ t l, call.makes s t l → Q t l) :
    Path Q s (s.step call) := by
  have hsame : ∀ {t : StatefulStore}, t = s → Path Q s t := fun ht => ht ▸ Path.refl _
  have hdone : ∀ t l, call.reports s t l → Q t l := fun t l h => hQ t l (.inl h)
  have hlate : ∀ t op, call.withholds s op → Q t (.unreported op) :=
    fun t op h => hQ t _ (.inr ⟨op, rfl, h⟩)
  cases call with
  | start attrs birth io volumeTs =>
    rcases doStart_cases s attrs birth io volumeTs with ⟨-, hw⟩ | ⟨-, hc⟩
    · exact hw.path fun hfault => hlate s _ ⟨hfault, rfl⟩
    · exact hc.path (hdone s _ ⟨rfl, rfl⟩)
  | transition id move io volumeTs =>
    rcases doTransition_cases s id move.event move.instanceKind_kind move.updates io volumeTs rfl
      with ⟨-, hs | ⟨i, hi, hw⟩⟩ | ⟨i, next, hi, hn, hfault, hc⟩
    · exact hsame hs
    · exact hw.path fun hfault => hlate s _ ⟨hfault, i, hi, rfl⟩
    · exact hc.path (hdone s _ ⟨rfl, i, next, hi, hn, hfault, rfl⟩)
  | publish id ip port reason io =>
    have hkind : instanceKind (.published (some ip) (some port) reason) := by
      simp [instanceKind, StatefulOpKind.writes]
    rcases doTransition_cases s id .publish hkind (publishedUpdates ip port) io io.ts rfl
      with ⟨-, hs | ⟨i, -, hw⟩⟩ | ⟨i, next, hi, hn, -, hc⟩
    · exact hsame hs
    · exact hw.path fun hfault => hlate s _ ⟨hfault, i, rfl⟩
    · exact hc.path (hdone s _ ⟨rfl, i, next, hi, hn, rfl⟩)
  | unpublish id reason ts =>
    rcases doMarkWithUpdates_cases s id .unpublish (unpublishedUpdates reason) ts
      with hs | ⟨i, next, hi, hn, hc⟩
    · exact hsame hs
    · exact hc.path (hdone s _ ⟨rfl, i, next, hi, hn, rfl⟩)
  | markWith id event updates ts =>
    rcases doMarkWithUpdates_cases s id event updates ts with hs | ⟨i, next, hi, hn, hc⟩
    · exact hsame hs
    · exact hc.path (hdone s _ ⟨rfl, i, next, hi, hn, rfl⟩)
  | setHealth id healthy ts =>
    rcases update_cases s id (fun i => { i with healthy := healthy, updatedAt := ts })
      (fun _ => rfl) with hs | ⟨i, -, hc⟩
    · exact hsame hs
    · exact hc.path (hdone s _ ⟨i, rfl⟩)
  | touchActive id ts =>
    rcases update_cases s id (fun i => { i with lastActiveAt := some ts, updatedAt := ts })
      (fun _ => rfl) with hs | ⟨i, -, hc⟩
    · exact hsame hs
    · exact hc.path (hdone s _ ⟨i, rfl⟩)
  | adoptState id new updates ts =>
    rcases adoptState_cases s id new updates ts with hs | ⟨i, hi, hterm, hc⟩
    · exact hsame hs
    · exact hc.path (hdone s _ ⟨rfl, i, hi, hterm, rfl⟩)
  | adoptBankedBundle id nodeId bundle io =>
    rcases adoptBankedBundle_cases s id nodeId bundle io
      with ⟨-, hs | ⟨i, hw⟩⟩ | ⟨i, -, hterm, hc⟩
    · exact hsame hs
    · exact hw.path fun hfault => hlate s _ ⟨hfault, i, rfl⟩
    · exact hc.path (hdone s _ ⟨i, hterm, rfl⟩)
  | adoptEndpoint id nodeId vmId ip port healthy =>
    rcases update_cases s id
      (fun i => { i with
        nodeId := some nodeId, vmId := some vmId, ip := ip, port := port
        healthy := healthy.getD i.healthy }) (fun _ => rfl) with hs | ⟨i, -, hc⟩
    · exact hsame hs
    · exact hc.path (hdone s _ ⟨i, rfl⟩)
  | eagerEvictBrokenPairs scan io => exact path_eagerEvictBrokenPairs hdone hlate scan
  | upsertVolume w f io => exact path_upsertVolume hQ
  | adoptExportedGeneration w anchorNodeId generation io =>
    by_cases hfault : io.fault = some .timedOut
    · exact (adoptExportedGeneration_withheld hfault).path fun _ => hlate s _ ⟨hfault, rfl⟩
    · exact (Change.adoptedExport w anchorNodeId generation io hfault).path (hdone s _ rfl)
  | createVolume w f io =>
    by_cases hfault : io.fault = some .timedOut
    · exact (createVolume_withheld hfault).path fun _ => hlate s _ ⟨hfault, rfl⟩
    · exact (Change.created w f io hfault).path (hdone s _ rfl)
  | deleteVolume w io =>
    by_cases hfault : io.fault = some .timedOut
    · exact (deleteVolume_withheld hfault).path fun _ => hlate s _ ⟨hfault, rfl⟩
    · exact (Change.deleted w io hfault).path (hdone s _ rfl)
  | blessGeneration w generation io =>
    rcases blessGeneration_cases s w generation io with hw | hc
    · exact hw.path fun _ => hlate s _ ⟨rfl, rfl, rfl⟩
    · exact hc.path (hdone s _ ⟨rfl, rfl⟩)
  | seedBlessedGenerationIfUnset w generation =>
    show Path Q s (s.seedBlessedGenerationIfUnset w generation)
    unfold seedBlessedGenerationIfUnset
    rcases hb : (s.fetchBlessing w).blessedGeneration with _ | b
    · exact (Change.judged (by simp [hb])).path (hdone s _ rfl)
    · exact Path.refl s
  | ensureBlessingLease w nodeId io createdTs updatedTs =>
    rcases ensureBlessingLease_cases s w nodeId io createdTs updatedTs with hw | ⟨db, hdb, hs⟩
    · exact hw.path fun _ => hlate s _ ⟨rfl, rfl, rfl⟩
    · show Path Q s (s.ensureBlessingLease w nodeId io createdTs updatedTs).2
      rw [hs]
      exact (Change.leased createdTs updatedTs hdb).path (hdone s _ ⟨rfl, rfl⟩)
  | recordCheckpointDispatch w vmId generation io =>
    show Path Q s (s.recordCheckpointDispatch w vmId generation io)
    unfold recordCheckpointDispatch
    rcases happ : s.db.append (systemOp w (.checkpointDispatched vmId generation) io.ts) io.fault
      with ⟨e, db⟩ | db
    · exact (withheld_of_append (.other rfl rfl) happ).path fun _ => hlate s _ ⟨rfl, rfl, rfl⟩
    · exact (Change.dispatched _ (by simp [StatefulOpKind.writes])
        (answered_eq_ok happ).2).path (hdone s _ rfl)
  | clearCheckpointDispatch w io =>
    show Path Q s (s.clearCheckpointDispatch w io)
    unfold clearCheckpointDispatch
    rcases s.dispatches.lookup w with _ | d
    · exact Path.refl s
    · rcases clearCheckpointDispatchWrite_cases s w io with hw | hc
      · exact hw.path fun _ => hlate s _ ⟨rfl, rfl, rfl⟩
      · exact hc.path (hdone s _ rfl)
  | compact cutoff batch scan => exact (Change.pruned cutoff batch scan).path (hdone s _ ⟨rfl, rfl⟩)
  | restart => exact Change.restarted.path (hdone s _ ⟨rfl, rfl⟩)

/-! ## The calls behind a change -/

/-- The calls that make a durable transition of an instance. -/
inductive MovedBy (s : StatefulStore) (id : String) (i : StatefulInstance) :
    StatefulCall → StatefulStore → StatefulOpKind → StatefulState → InstanceUpdates → Prop where
  | transition {move : DurableMove} {io : AppendIo} {volumeTs : Int} {next : StatefulState}
      (hi : s.instances.lookup id = some i) (hn : i.state.transition move.event = .ok next)
      (hfault : io.fault = none) :
      MovedBy s id i (.transition id move io volumeTs) s move.kind next move.updates
  | publish {ip reason : String} {port : Nat} {io : AppendIo} {next : StatefulState}
      (hi : s.instances.lookup id = some i) (hn : i.state.transition .publish = .ok next) :
      MovedBy s id i (.publish id ip port reason io) s (.published (some ip) (some port) reason)
        next (publishedUpdates ip port)
  | adoptBankedBundle {t : StatefulStore} {nodeId : String} {bundle : Bundle} {io : AppendIo}
      (hterm : i.state.terminal = false) :
      MovedBy s id i (.adoptBankedBundle id nodeId bundle io) t bundle.kind .banked
        (bundle.updates nodeId)
  | eagerEvict {t : StatefulStore} {scan : List String} {io : String → AppendIo}
      (hbanked : i.state = .banked) :
      MovedBy s id i (.eagerEvictBrokenPairs scan io) t (.evicted (some "pair_broken")) .evicted {}

/-- The calls that rewrite an instance in memory. -/
inductive HeldBy (s : StatefulStore) (id : String) (i : StatefulInstance) :
    StatefulCall → StatefulStore → StatefulInstance → Prop where
  | unpublish {reason : String} {ts : Int} {next : StatefulState}
      (hi : s.instances.lookup id = some i) (hn : i.state.transition .unpublish = .ok next) :
      HeldBy s id i (.unpublish id reason ts) s (marked i next (unpublishedUpdates reason) ts)
  | markWith {event : StatefulEvent} {updates : InstanceUpdates} {ts : Int} {next : StatefulState}
      (hi : s.instances.lookup id = some i) (hn : i.state.transition event = .ok next) :
      HeldBy s id i (.markWith id event updates ts) s (marked i next updates ts)
  | setHealth {t : StatefulStore} {healthy : Bool} {ts : Int} :
      HeldBy s id i (.setHealth id healthy ts) t { i with healthy := healthy, updatedAt := ts }
  | touchActive {t : StatefulStore} {ts : Int} :
      HeldBy s id i (.touchActive id ts) t { i with lastActiveAt := some ts, updatedAt := ts }
  | adoptState {new : AdoptedState} {updates : InstanceUpdates} {ts : Int}
      (hi : s.instances.lookup id = some i) (hterm : i.state.terminal = false) :
      HeldBy s id i (.adoptState id new updates ts) s (adopted i new updates ts)
  | adoptEndpoint {t : StatefulStore} {nodeId vmId : String} {ip : Option String}
      {port : Option Nat} {healthy : Option Bool} :
      HeldBy s id i (.adoptEndpoint id nodeId vmId ip port healthy) t
        { i with
          nodeId := some nodeId, vmId := some vmId, ip := ip, port := port
          healthy := healthy.getD i.healthy }

section

variable {t : StatefulStore} {call : StatefulCall} {id : String} {i' : StatefulInstance}
  {kind : StatefulOpKind} {next : StatefulState} {updates : InstanceUpdates}

lemma reports_of_makes {l : ChangeLabel} (hm : call.makes s t l)
    (hl : ∀ op, l ≠ .unreported op) : call.reports s t l := by
  rcases hm with hm | ⟨op, rfl, -⟩
  · exact hm
  · exact absurd rfl (hl op)

lemma withholds_of_makes {op : StatefulOp} (hm : call.makes s t (.unreported op)) :
    call.withholds s op := by
  rcases hm with hm | ⟨op', hl, hop⟩
  · cases call <;>
      simp [StatefulCall.reports, ChangeLabel.ofEviction, ChangeLabel.ofQuarantine] at hm
  · cases hl
    exact hop

lemma movedBy_of_makes (hm : call.makes s t (.moved id i kind next updates)) :
    MovedBy s id i call t kind next updates := by
  replace hm := reports_of_makes hm (by simp)
  cases call with
  | transition id' move io volumeTs =>
    obtain ⟨rfl, i', next', hi, hn, hfault, hl⟩ := hm
    cases hl
    exact .transition hi hn hfault
  | publish id' ip port reason io =>
    obtain ⟨rfl, i', next', hi, hn, hl⟩ := hm
    cases hl
    exact .publish hi hn
  | adoptBankedBundle id' nodeId bundle io =>
    obtain ⟨i', hterm, hl⟩ := hm
    cases hl
    exact .adoptBankedBundle hterm
  | eagerEvictBrokenPairs scan io =>
    rcases hm with hl | ⟨id', i', hbanked, hl⟩ <;> cases hl
    exact .eagerEvict hbanked
  | _ => simp [StatefulCall.reports, ChangeLabel.ofQuarantine] at hm

lemma heldBy_of_makes (hm : call.makes s t (.held id i i')) : HeldBy s id i call t i' := by
  replace hm := reports_of_makes hm (by simp)
  cases call with
  | unpublish id' reason ts =>
    obtain ⟨rfl, i', next', hi, hn, hl⟩ := hm
    cases hl
    exact .unpublish hi hn
  | markWith id' event updates ts =>
    obtain ⟨rfl, i', next', hi, hn, hl⟩ := hm
    cases hl
    exact .markWith hi hn
  | setHealth id' healthy ts =>
    obtain ⟨i', hl⟩ := hm
    cases hl
    exact .setHealth
  | touchActive id' ts =>
    obtain ⟨i', hl⟩ := hm
    cases hl
    exact .touchActive
  | adoptState id' new updates ts =>
    obtain ⟨rfl, i', hi, hterm, hl⟩ := hm
    cases hl
    exact .adoptState hi hterm
  | adoptEndpoint id' nodeId vmId ip port healthy =>
    obtain ⟨i', hl⟩ := hm
    cases hl
    exact .adoptEndpoint
  | _ => simp [StatefulCall.reports, ChangeLabel.ofEviction, ChangeLabel.ofQuarantine] at hm

lemma start_of_makes {attrs : StartAttrs} (hm : call.makes s t (.born attrs)) :
    t = s ∧ ∃ birth io volumeTs, call = .start attrs birth io volumeTs := by
  replace hm := reports_of_makes hm (by simp)
  cases call with
  | start attrs' birth io volumeTs =>
    obtain ⟨rfl, hl⟩ := hm
    cases hl
    exact ⟨rfl, birth, io, volumeTs, rfl⟩
  | _ => simp [StatefulCall.reports, ChangeLabel.ofEviction, ChangeLabel.ofQuarantine] at hm

lemma restart_of_makes (hm : call.makes s t .restarted) : t = s ∧ call = .restart := by
  replace hm := reports_of_makes hm (by simp)
  cases call with
  | restart => exact ⟨hm.1, rfl⟩
  | _ => simp [StatefulCall.reports, ChangeLabel.ofEviction, ChangeLabel.ofQuarantine] at hm

end

end StatefulStore

end Homelab.Embervm
