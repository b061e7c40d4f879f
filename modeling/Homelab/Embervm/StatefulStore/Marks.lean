import Mathlib.Order.WithBot
import Homelab.Embervm.StatefulStore.Quarantine

/-!
# Marks that only rise

Two numbers of a workload that `Embervm.StatefulStore` may raise and never lower while the process
lives: the watermark of the blessing ledger, and the generation of the volume row that a banked
snapshot is paired with. A mark that is absent is below every number (`WithBot`).

* `Change.watermark_le` and `Change.storedGeneration_le`: no change lowers either. For the stored
  generation the three handlers that replace or remove the row are apart (`StatefulCall.resets`).
* `watermark_raised`: a report that says it is unblessed raises the watermark by one of two rungs
  of the quarantine ladder, the workload's own aborted checkpoint or the anchor's own report.
-/

namespace Homelab.Embervm

open Homelab.Lib
open Homelab.Embervm.OpLog

namespace StatefulStore

variable {s s' : StatefulStore} {l : ChangeLabel} {w : String}

/-- A number that may be absent, in the order where absence is below every number. -/
def mark : Option Nat → WithBot Nat
  | none => ⊥
  | some g => WithBot.some g

/-- The watermark of the workload. -/
def watermark (s : StatefulStore) (w : String) : WithBot Nat :=
  mark (s.fetchBlessing w).blessedGeneration

/-- The generation of the workload's volume in memory. -/
def hotGeneration (s : StatefulStore) (w : String) : Option Nat :=
  (s.volumes.lookup w).map Volume.generation

/-- The generation of the workload's volume row. -/
def storedGeneration (s : StatefulStore) (w : String) : WithBot Nat :=
  mark (s.hotGeneration w)

lemma mark_le_mark {a b : Option Nat} (h : ∀ g, a = some g → ∃ g', b = some g' ∧ g ≤ g') :
    mark a ≤ mark b := by
  rcases a with _ | g
  · exact bot_le
  · obtain ⟨g', rfl, hle⟩ := h g rfl
    exact WithBot.coe_le_coe.mpr hle

/-! ## The watermark -/

lemma watermark_insert (db : StatefulTables) (workload : String) (fact : Blessing) (w : String) :
    watermark { s with db := db, blessing := s.blessing.insert workload fact } w =
      if w = workload then mark fact.blessedGeneration else s.watermark w := by
  unfold watermark
  rw [fetchBlessing_insert]
  split_ifs with hw
  · rfl
  · rfl

lemma watermark_congr (h : s'.blessing = s.blessing) (w : String) :
    s'.watermark w = s.watermark w := by
  unfold watermark fetchBlessing
  rw [h]

/-- **No change lowers a watermark**, a restart apart. -/
theorem Change.watermark_le (hc : Change s l s') (hl : l ≠ .restarted) (w : String) :
    s.watermark w ≤ s'.watermark w := by
  have hf := hc.frame
  cases hc with
  | @blessed workload generation ts db hpast hdb =>
    rw [watermark_insert]
    by_cases hw : w = workload
    · subst hw
      rw [if_pos rfl]
      exact mark_le_mark fun g hg => ⟨generation, rfl, (hpast g hg).le⟩
    · rw [if_neg hw]
  | @judged workload fact hkeep =>
    have hins := watermark_insert (s := s) s.db workload fact w
    rw [hins]
    by_cases hw : w = workload
    · subst hw
      rw [if_pos rfl]
      exact mark_le_mark hkeep
    · rw [if_neg hw]
  | restarted => exact absurd rfl hl
  | unreported hop hdb => exact le_rfl
  | _ => exact (watermark_congr (hf.blessing rfl) w).ge

variable (s)

lemma watermark_le_step {call : StatefulCall} (hlife : call ≠ .restart)
    (w : String) : s.watermark w ≤ (s.step call).watermark w := by
  have hpath : Path (fun _ l => l ≠ .restarted) s (s.step call) := by
    refine step_path s call fun t l hm hl => ?_
    subst hl
    exact hlife (restart_of_makes hm).2
  exact hpath.induction (fun t => s.watermark w ≤ t.watermark w)
    (fun ht hl hc => ht.trans (hc.watermark_le hl w)) le_rfl

/-! ## What a report may raise -/

/-- The generation a report is judged on: the reported one, or the stored one if it names none. -/
def reportedGeneration (w : String) (f : VolumeFields) : Nat :=
  f.generation.getD (s.volumeGeneration w)

/-- The report is the end of the workload's own aborted checkpoint: one past the generation that was
dispatched, with the instance it was dispatched to still live. -/
def OwnAbort (w : String) (reported : Nat) : Prop :=
  ∃ d, s.dispatches.lookup w = some d ∧ reported = d.generation + 1 ∧
    ∃ id i, s.instances.lookup id = some i ∧ i.workload = w ∧ i.vmId = some d.vmId ∧
      i.state.live = true

/-- The report comes from the node the volume is anchored to, with no checkpoint open. -/
def FencedWriter (w : String) (f : VolumeFields) : Prop :=
  ∃ node, f.nodeId = some node ∧ s.anchorNode w = some node ∧ s.dispatches.lookup w = none

variable {s}

lemma ownAbort_of_signature {reported : Nat}
    (h : s.checkpointAbortSignature? w reported = true) : s.OwnAbort w reported := by
  unfold checkpointAbortSignature? at h
  rcases hd : s.dispatches.lookup w with _ | d
  · rw [hd] at h
    simp at h
  · rw [hd] at h
    simp only [Bool.and_eq_true, decide_eq_true_eq] at h
    obtain ⟨hrep, hlive⟩ := h
    obtain ⟨id, i, hi, hmatch⟩ := (Table.exists?_iff _ _).mp hlive
    simp only [Bool.and_eq_true, decide_eq_true_eq] at hmatch
    exact ⟨d, hd, hrep, id, i, hi, hmatch.1.1, hmatch.1.2, hmatch.2⟩

variable (s) (workload : String)

/-- A fact of the ledger rewritten under the same watermark. -/
lemma watermark_rewrite {fact : Blessing}
    (h : fact.blessedGeneration = (s.fetchBlessing workload).blessedGeneration) (w : String) :
    watermark { s with blessing := s.blessing.insert workload fact } w = s.watermark w := by
  refine (watermark_insert (s := s) s.db workload fact w).trans ?_
  by_cases hw : w = workload
  · subst hw
    rw [if_pos rfl, h]
    rfl
  · rw [if_neg hw]

lemma watermark_setQuarantined (w : String) :
    (s.setQuarantined workload).watermark w = s.watermark w := by
  apply watermark_rewrite
  rfl

lemma watermark_clearCheckpointDispatchWrite (io : AppendIo)
    (w : String) : (s.clearCheckpointDispatchWrite workload io).watermark w = s.watermark w := by
  unfold clearCheckpointDispatchWrite
  split <;> rfl

/-- The healing rung blesses the reported generation and writes no other watermark. -/
lemma watermark_autoHeal (reported : Nat) (bless resolve : AppendIo) (w : String) :
    (s.autoHealCheckpointAbort workload reported bless resolve).watermark w = s.watermark w ∨
      (w = workload ∧
        (s.autoHealCheckpointAbort workload reported bless resolve).watermark w =
          mark (some reported)) := by
  unfold autoHealCheckpointAbort doBlessAppend
  rcases s.db.append (systemOp workload (.generationBlessed reported) bless.ts) bless.fault
    with ⟨e, db⟩ | db
  · exact .inl (watermark_setQuarantined { s with db := db } workload w)
  · show (clearCheckpointDispatchWrite _ workload resolve).watermark w = _ ∨ _
    rw [watermark_clearCheckpointDispatchWrite, watermark_insert]
    split_ifs with hw
    · exact .inr ⟨hw, rfl⟩
    · exact .inl rfl

/-- The rung that moved a watermark. -/
lemma watermark_updateQuarantine (reported : Nat)
    (wire : Bool) (reporting anchor : Option String) (bless resolve : AppendIo) (w : String) :
    (s.updateQuarantine workload reported wire reporting anchor bless resolve).watermark w =
        s.watermark w ∨
      (w = workload ∧ wire = false ∧
        (s.updateQuarantine workload reported wire reporting anchor bless resolve).watermark w =
          mark (some reported) ∧
        (s.OwnAbort w reported ∨ (s.dispatches.lookup w = none ∧
          ∃ node, reporting = some node ∧ anchor = some node))) := by
  unfold updateQuarantine
  split
  · next hfwd =>
    obtain ⟨hwire, -⟩ := forwardUnblessed?_eq_true hfwd
    split
    · next hsig =>
      rcases watermark_autoHeal s workload reported bless resolve w with hsame | ⟨rfl, hto⟩
      · exact .inl hsame
      · exact .inr ⟨rfl, hwire, hto, .inl (ownAbort_of_signature hsig)⟩
    · split
      · exact .inl (watermark_setQuarantined s workload w)
      · next hdisp =>
        split
        · next hfenced =>
          have hins := watermark_insert (s := s) s.db workload ⟨some reported, false, false⟩ w
          by_cases hw : w = workload
          · subst hw
            simp only [fencedWriter?, Bool.and_eq_true, decide_eq_true_eq] at hfenced
            obtain ⟨node, hnode⟩ := Option.isSome_iff_exists.mp hfenced.1
            have hnone : s.dispatches.lookup w = none := by
              simpa [hasCheckpointDispatch?] using hdisp
            rw [if_pos rfl] at hins
            exact .inr ⟨rfl, hwire, hins, .inr ⟨hnone, node, hnode, hfenced.2 ▸ hnode⟩⟩
          · exact .inl (hins.trans (if_neg hw))
        · exact .inl (watermark_setQuarantined s workload w)
  · left
    apply watermark_rewrite
    rfl

lemma volumeBase_generation (w : String) (ts : Int) :
    (s.volumeBase w ts).generation = s.volumeGeneration w := by
  unfold volumeBase volumeGeneration
  rcases s.volumes.lookup w with _ | v <;> rfl

/-- A report is judged on the reported generation, or on the stored one that its merge keeps. -/
lemma judged_on (f : VolumeFields) (io : AppendIo) :
    f.generation.getD (s.upsertVolumeFacts workload f io).1.generation =
      s.reportedGeneration workload f := by
  obtain ⟨dirty, nodeId, hfst⟩ := upsertVolumeFacts_fst s workload f io
  rw [hfst]
  unfold reportedGeneration mergeVolume
  rcases f.generation with _ | g
  · exact volumeBase_generation s workload io.ts
  · rfl

/-- **What a report may raise.** A report leaves every watermark, or it says it is unblessed, raises
the one of its own workload to the generation it reports, and is one of the two rungs. -/
theorem watermark_raised (f : VolumeFields) (io : UpsertIo)
    (w : String) : (s.upsertVolume workload f io).watermark w = s.watermark w ∨
      (w = workload ∧ f.generationBlessed = some false ∧
        (s.upsertVolume workload f io).watermark w = mark (some (s.reportedGeneration w f)) ∧
        (s.OwnAbort w (s.reportedGeneration w f) ∨ s.FencedWriter w f)) := by
  obtain ⟨db, hfacts, -⟩ := upsertVolumeFacts_eq s workload f io.volume
  have hmark : (s.upsertVolumeFacts workload f io.volume).2.watermark w = s.watermark w := by
    rw [hfacts]
    rfl
  unfold upsertVolume
  rcases hwire : f.generationBlessed with _ | wire
  · exact .inl hmark
  · dsimp only
    rw [judged_on]
    rcases watermark_updateQuarantine (s.upsertVolumeFacts workload f io.volume).2 workload
      (s.reportedGeneration workload f) wire f.nodeId (s.anchorNode workload) io.bless io.resolve w
      with hsame | ⟨rfl, rfl, hto, hrung⟩
    · exact .inl (hsame.trans hmark)
    · refine .inr ⟨rfl, rfl, hto, ?_⟩
      rcases hrung with habort | ⟨hnone, node, hnode, hanchor⟩
      · left
        rw [hfacts] at habort
        exact habort
      · right
        rw [hfacts] at hnone
        exact ⟨node, hnode, hanchor, hnone⟩

variable {s}

/-- **The watermark only rises, and not by a report alone.** Along a run without a restart, from any
store: no call lowers the watermark of a workload; a report that does not say it is unblessed moves
none; and one that says so raises the watermark of its own workload only, and then it is one past
the generation dispatched to an instance that is still live under the same VM, or it comes from the
volume's anchor while no checkpoint is open. -/
theorem watermark_rises (s : StatefulStore) (calls : List StatefulCall)
    (hlife : StatefulCall.restart ∉ calls) (w : String) : (∀ m n, m ≤ n →
      (run step s (calls.take m)).watermark w ≤ (run step s (calls.take n)).watermark w) ∧
    ∀ pre post workload f io, calls = pre ++ .upsertVolume workload f io :: post →
      (f.generationBlessed ≠ some false →
        (run step s (pre ++ [.upsertVolume workload f io])).watermark w =
          (run step s pre).watermark w) ∧
      (f.generationBlessed = some false →
        (run step s pre).watermark w <
          (run step s (pre ++ [.upsertVolume workload f io])).watermark w →
        w = workload ∧
          ((run step s pre).OwnAbort w ((run step s pre).reportedGeneration w f) ∨
            (run step s pre).FencedWriter w f)) := by
  constructor
  · intro m n hmn
    refine run_progress (G := fun _ call => call ≠ StatefulCall.restart) (fun _ => True)
      (fun s s' => s.watermark w ≤ s'.watermark w) (fun _ => le_rfl) (fun _ _ _ => le_trans)
      (fun t call _ hcall => ⟨trivial, watermark_le_step t hcall w⟩) trivial ?_ hmn
    refine along_of_forall_mem (fun call hcall _ h => ?_) s
    subst h
    exact hlife hcall
  · rintro pre post workload f io -
    have hmove := watermark_raised (run step s pre) workload f io w
    rw [run_append]
    change _ ∧ (_ → (run step s pre).watermark w <
      ((run step s pre).upsertVolume workload f io).watermark w → _)
    constructor
    · intro hwire
      rcases hmove with hsame | ⟨-, hfalse, -⟩
      · exact hsame
      · exact absurd hfalse hwire
    · intro _ hlt
      rcases hmove with hsame | ⟨hw, -, -, hrung⟩
      · exact absurd hsame hlt.ne'
      · exact ⟨hw, hrung⟩

/-- The anchor of `pg` reports generation 2 after generation 1 was blessed: the watermark is 2. -/
theorem watermark_rises_by_anchor : let report : VolumeFields :=
      { nodeId := some "brick-a", generation := some 2, generationBlessed := some false }
    let s := run step init anchoredCalls
    s.watermark "pg" < (run step init
        (anchoredCalls ++ [.upsertVolume "pg" report reportIo])).watermark "pg" ∧
      (s.OwnAbort "pg" (s.reportedGeneration "pg" report) ∨ s.FencedWriter "pg" report) := by
  intro report s
  have hlife : StatefulCall.restart ∉ anchoredCalls ++ [.upsertVolume "pg" report reportIo] := by
    simp [anchoredCalls]
  have hlt : s.watermark "pg" < (run step init
      (anchoredCalls ++ [.upsertVolume "pg" report reportIo])).watermark "pg" := by
    exact WithBot.coe_lt_coe.mpr (by decide)
  have h := watermark_rises init _ hlife "pg"
  exact ⟨hlt, (((h.2 anchoredCalls [] "pg" report reportIo rfl).2 rfl) hlt).2⟩

/-! ## The stored generation -/

lemma storedGeneration_le_of_volumeGeneration {g : Nat} (h : s.volumeGeneration w ≤ g) :
    s.storedGeneration w ≤ mark (some g) := by
  unfold volumeGeneration at h
  change mark ((s.volumes.lookup w).map Volume.generation) ≤ mark (some g)
  refine mark_le_mark fun g' hg' => ⟨g, rfl, ?_⟩
  rw [hg'] at h
  exact h

lemma storedGeneration_congr (h : s'.volumes.lookup w = s.volumes.lookup w) :
    s'.storedGeneration w = s.storedGeneration w := by
  unfold storedGeneration hotGeneration
  rw [h]

variable (s)

/-- An attach leaves memory at the larger of the stored and the attached generation. -/
lemma hotGeneration_bumpVolumeEts (w' : String) (nodeId : Option String)
    (g : Nat) (ts : Int) (w : String) : (s.bumpVolumeEts w' nodeId (some g) ts).hotGeneration w =
      if w = w' then some (max (s.volumeGeneration w') g) else s.hotGeneration w := by
  unfold bumpVolumeEts
  dsimp only
  rw [volumeBase_generation]
  split
  · rename_i hle
    unfold hotGeneration
    rw [Table.lookup_insert, max_eq_right hle]
    split_ifs with hw
    · rfl
    · rfl
  · rename_i hlt
    rw [not_le] at hlt
    split_ifs with hw
    · rw [max_eq_left hlt.le, hw]
      -- a stored generation past another one is that of a row
      unfold volumeGeneration at hlt ⊢
      unfold hotGeneration
      rcases hv : s.volumes.lookup w' with _ | v
      · rw [hv] at hlt
        simp at hlt
      · rfl
    · rfl

/-- A report leaves memory at or past the stored generation. -/
lemma mergeVolume_generation (base : Volume) (f : VolumeFields) (ts : Int) :
    base.generation ≤ (mergeVolume base f ts).generation := by
  unfold mergeVolume
  rcases f.generation with _ | g
  · simp
  · simp

/-- An attach is never mirrored backwards. -/
lemma storedGeneration_le_bumpVolumeEts (workload : String)
    (nodeId : Option String) (generation : Option Nat) (ts : Int) (w : String) :
    s.storedGeneration w ≤ (s.bumpVolumeEts workload nodeId generation ts).storedGeneration w := by
  rcases generation with _ | g
  · exact le_rfl
  · unfold storedGeneration
    rw [hotGeneration_bumpVolumeEts]
    split
    · next hw =>
      subst hw
      exact storedGeneration_le_of_volumeGeneration (le_max_left _ _)
    · exact le_rfl

/-- A report is floored to the stored generation. -/
lemma storedGeneration_le_upsertVolumeFacts (workload : String)
    (f : VolumeFields) (io : AppendIo) (w : String) :
    s.storedGeneration w ≤ (s.upsertVolumeFacts workload f io).2.storedGeneration w := by
  obtain ⟨db, hs, -⟩ := upsertVolumeFacts_eq s workload f io
  obtain ⟨dirty, nodeId, hfst⟩ := upsertVolumeFacts_fst s workload f io
  rw [hs]
  by_cases hw : w = workload
  · subst hw
    have hle := mergeVolume_generation (s.volumeBase w io.ts) f io.ts
    rw [volumeBase_generation] at hle
    refine (storedGeneration_le_of_volumeGeneration hle).trans_eq ?_
    unfold storedGeneration hotGeneration
    rw [AList.lookup_insert, hfst]
    rfl
  · exact (storedGeneration_congr (AList.lookup_insert_ne hw)).ge

lemma lookup_adoptExportedGeneration {workload w : String} (hw : w ≠ workload)
    (anchorNodeId : String) (generation : Nat) (io : AppendIo) :
    (s.adoptExportedGeneration workload anchorNodeId generation io).2.volumes.lookup w =
      s.volumes.lookup w := by
  unfold adoptExportedGeneration
  split
  · rfl
  · split
    · rfl
    · split
      · rfl
      · dsimp only
        split
        · rfl
        · exact AList.lookup_insert_ne hw

lemma lookup_createVolume {workload w : String} (hw : w ≠ workload) (f : CreateFields)
    (io : AppendIo) : (s.createVolume workload f io).volumes.lookup w = s.volumes.lookup w := by
  unfold createVolume
  dsimp only
  split
  · rfl
  · exact AList.lookup_insert_ne hw

lemma lookup_deleteVolume {workload w : String} (hw : w ≠ workload) (io : AppendIo) :
    (s.deleteVolume workload io).volumes.lookup w = s.volumes.lookup w := by
  unfold deleteVolume
  split
  · rfl
  · exact (Table.lookup_erase _ _ _).trans (if_neg hw)

variable {s}

/-- The changes that replace or remove the volume row of a workload. -/
def ChangeLabel.resets (w : String) : ChangeLabel → Bool
  | .created w' _ | .adoptedExport w' _ | .deleted w' => w' = w
  | .restarted => true
  | _ => false

/-- **No other change lowers a stored generation.** -/
theorem Change.storedGeneration_le (hc : Change s l s') (hl : l.resets w = false) :
    s.storedGeneration w ≤ s'.storedGeneration w := by
  have hf := hc.frame
  cases hc with
  | @born attrs birth ts db volumeTs hgate hdb =>
    exact storedGeneration_le_bumpVolumeEts
      { s with
        db := db
        instances := s.instances.insert attrs.instanceId (bornInstance attrs ts)
        counts := bumpCounts s.counts none .starting attrs.workload }
      attrs.workload attrs.nodeId (some attrs.generation) volumeTs w
  | @moved id i kind ts db next updates volumeTs hi hkind hdb =>
    cases kind with
    | relit nodeId vmId generation =>
      exact storedGeneration_le_bumpVolumeEts
        { s with
          db := db
          instances := s.instances.insert id
            (StatefulStore.moved i (.relit nodeId vmId generation) next updates ts)
          counts := bumpCounts s.counts (some i.state) next i.workload }
        i.workload _ _ volumeTs w
    | _ => exact le_rfl
  | reported workload f io => exact storedGeneration_le_upsertVolumeFacts s workload f io w
  | adoptedExport workload anchorNodeId generation io hfault =>
    have hne : w ≠ workload := fun h => by simp [ChangeLabel.resets, h] at hl
    exact (storedGeneration_congr
      (lookup_adoptExportedGeneration s hne anchorNodeId generation io)).ge
  | created workload f io hfault =>
    have hne : w ≠ workload := fun h => by simp [ChangeLabel.resets, h] at hl
    exact (storedGeneration_congr (lookup_createVolume s hne f io)).ge
  | deleted workload io hfault =>
    have hne : w ≠ workload := fun h => by simp [ChangeLabel.resets, h] at hl
    exact (storedGeneration_congr (lookup_deleteVolume s hne io)).ge
  | restarted => simp [ChangeLabel.resets] at hl
  | unreported hop hdb => exact le_rfl
  | _ => exact (storedGeneration_congr (by rw [hf.volumes rfl])).ge

end StatefulStore

open StatefulStore

/-- The calls that replace or remove the volume row of a workload. -/
def StatefulCall.resets (w : String) : StatefulCall → Bool
  | .createVolume w' _ _ | .adoptExportedGeneration w' _ _ _ | .deleteVolume w' _ => w' = w
  | .restart => true
  | _ => false

namespace StatefulStore

lemma resets_of_makes {call : StatefulCall} {t : StatefulStore} (hm : call.makes s t l)
    (hcall : call.resets w = false) : l.resets w = false := by
  cases l with
  | created w' f =>
    replace hm := reports_of_makes hm (by simp)
    cases call with
    | createVolume w'' f' io =>
      cases hm
      exact hcall
    | _ => simp [StatefulCall.reports, ChangeLabel.ofEviction, ChangeLabel.ofQuarantine] at hm
  | adoptedExport w' generation =>
    replace hm := reports_of_makes hm (by simp)
    cases call with
    | adoptExportedGeneration w'' node generation' io =>
      cases hm
      exact hcall
    | _ => simp [StatefulCall.reports, ChangeLabel.ofEviction, ChangeLabel.ofQuarantine] at hm
  | deleted w' =>
    replace hm := reports_of_makes hm (by simp)
    cases call with
    | deleteVolume w'' io =>
      cases hm
      exact hcall
    | _ => simp [StatefulCall.reports, ChangeLabel.ofEviction, ChangeLabel.ofQuarantine] at hm
  | restarted =>
    obtain ⟨-, rfl⟩ := restart_of_makes hm
    exact hcall
  | _ => rfl

lemma storedGeneration_le_step (s : StatefulStore) {call : StatefulCall}
    (hcall : call.resets w = false) : s.storedGeneration w ≤ (s.step call).storedGeneration w :=
  (step_path s call fun _ _ hm => resets_of_makes hm hcall).induction
    (fun t => s.storedGeneration w ≤ t.storedGeneration w)
    (fun ht hl hc => ht.trans (hc.storedGeneration_le hl)) le_rfl

/-- **The stored generation only rises.** Along every run of calls other than the creation, the
deletion and the adoption of an export of the workload's volume, whatever is reported and whichever
appends fail, the generation of the workload's volume row never goes back, and the row stays. -/
theorem stored_generation_rises (s : StatefulStore) (calls : List StatefulCall) (w : String)
    (hcalls : ∀ call ∈ calls, call.resets w = false) {m n : Nat} (hmn : m ≤ n) :
    (run step s (calls.take m)).storedGeneration w ≤
      (run step s (calls.take n)).storedGeneration w :=
  run_progress (G := fun _ call => call.resets w = false) (fun _ => True)
    (fun s s' => s.storedGeneration w ≤ s'.storedGeneration w) (fun _ => le_rfl)
    (fun _ _ _ => le_trans) (fun t _ _ hcall => ⟨trivial, storedGeneration_le_step t hcall⟩)
    trivial (along_of_forall_mem (fun call hcall _ => hcalls call hcall) s) hmn

/-- A report that lags behind a birth leaves the generation at 7. -/
theorem stored_generation_rises_past_report : let calls : List StatefulCall :=
      [.start ⟨"i1", "homelab", none, "pg", some "brick-a", some "vm-1", 7, none⟩ .started
        appended 1,
        .upsertVolume "pg" { nodeId := some "brick-a", generation := some 3 } reportIo]
    (run step init (calls.take 1)).hotGeneration "pg" = some 7 ∧
      (run step init (calls.take 1)).storedGeneration "pg" ≤
        (run step init (calls.take 2)).storedGeneration "pg" := by
  intro calls
  refine ⟨by decide +kernel, stored_generation_rises init calls "pg" ?_ (by omega)⟩
  simp [calls, StatefulCall.resets]

end StatefulStore

end Homelab.Embervm
