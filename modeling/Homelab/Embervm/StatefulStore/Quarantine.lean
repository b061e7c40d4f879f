import Homelab.Lib.Run
import Homelab.Embervm.StatefulStore.Changes

/-!
# Split-brain quarantine under repeated reports

A node that is not the anchor of a volume reports a generation past the watermark that nobody
blessed: the workload is quarantined. What happens when the node goes on sending the same report?

* A report overwrites the anchor (`anchorNode_upsertVolumeFacts`), and the ladder judges a report
  against the anchor before it. So the first report of a foreign node is judged as foreign and makes
  that node the anchor; the second is the anchor's own, its generation becomes the watermark and the
  quarantine is lifted.
* The one rung above that adoption is the open checkpoint (`judged_upsertVolume`): while the
  workload has an unresolved checkpoint dispatch, no number of repetitions lifts the quarantine.

`quarantine_kept_iff_dispatch_open` puts both together for every state, report and number of
repetitions.
-/

namespace Homelab.Embervm

open Homelab.Lib
open Homelab.Embervm.OpLog

namespace StatefulStore

variable {s : StatefulStore} {workload : String} {f : VolumeFields} {g : Nat}

/-! ## What the volume part of a report leaves alone -/

section

variable (s workload f) (io : AppendIo)

/-- The merged row is the report over the stored row, up to the marks of a failed write. -/
lemma upsertVolumeFacts_fst : ∃ dirty nodeId, (s.upsertVolumeFacts workload f io).1 =
      { mergeVolume (s.volumeBase workload io.ts) f io.ts with
        projectionDirty := dirty, projectionNodeId := nodeId } := by
  unfold upsertVolumeFacts
  dsimp only
  split
  · split
    · exact ⟨_, _, rfl⟩
    · exact ⟨_, _, rfl⟩
  · exact ⟨_, _, rfl⟩

lemma fetchBlessing_upsertVolumeFacts (w : String) :
    (s.upsertVolumeFacts workload f io).2.fetchBlessing w = s.fetchBlessing w := by
  obtain ⟨db, h, -⟩ := upsertVolumeFacts_eq s workload f io
  rw [h]
  rfl

lemma checkpointAbortSignature?_upsertVolumeFacts (w : String) (n : Nat) :
    (s.upsertVolumeFacts workload f io).2.checkpointAbortSignature? w n =
      s.checkpointAbortSignature? w n := by
  obtain ⟨db, h, -⟩ := upsertVolumeFacts_eq s workload f io
  rw [h]
  rfl

lemma hasCheckpointDispatch?_upsertVolumeFacts (w : String) :
    (s.upsertVolumeFacts workload f io).2.hasCheckpointDispatch? w =
      s.hasCheckpointDispatch? w := by
  obtain ⟨db, h, -⟩ := upsertVolumeFacts_eq s workload f io
  rw [h]
  rfl

/-- **A report re-anchors**: the node it names is the anchor from then on. -/
theorem anchorNode_upsertVolumeFacts {node : String} (hnode : f.nodeId = some node) :
    (s.upsertVolumeFacts workload f io).2.anchorNode workload = some node := by
  obtain ⟨db, h, -⟩ := upsertVolumeFacts_eq s workload f io
  obtain ⟨dirty, nodeId, hfst⟩ := upsertVolumeFacts_fst s workload f io
  rw [h, hfst]
  simp [anchorNode, mergeVolume, hnode]

end

/-! ## The rungs an unblessed report can reach -/

/-- The report of an unblessed generation `g`, from whichever node. -/
structure Unblessed (f : VolumeFields) (g : Nat) : Prop where
  generation : f.generation = some g
  wire : f.generationBlessed = some false

/-- The report is judged on its raw generation, against the anchor before it. -/
lemma upsertVolume_of_unblessed (hf : Unblessed f g) (io : UpsertIo) :
    s.upsertVolume workload f io =
      (s.upsertVolumeFacts workload f io.volume).2.updateQuarantine workload g false f.nodeId
        (s.anchorNode workload) io.bless io.resolve := by
  unfold upsertVolume
  rw [hf.wire, hf.generation]
  rfl

lemma forwardUnblessed?_upsertVolumeFacts (io : AppendIo) :
    (s.upsertVolumeFacts workload f io).2.forwardUnblessed? workload g false =
      s.forwardUnblessed? workload g false := by
  unfold forwardUnblessed?
  rw [fetchBlessing_upsertVolumeFacts]

lemma checkpointAbortSignature?_of_not_dispatch (hdisp : s.hasCheckpointDispatch? workload = false)
    (n : Nat) : s.checkpointAbortSignature? workload n = false := by
  unfold hasCheckpointDispatch? at hdisp
  rw [Option.isSome_eq_false_iff, Option.isNone_iff_eq_none] at hdisp
  unfold checkpointAbortSignature?
  rw [hdisp]

/-- A report past the watermark that is not the abort of the workload's checkpoint is adopted when
no checkpoint is open and the anchor reports, and quarantines the workload otherwise. -/
lemma upsertVolume_of_forward (hf : Unblessed f g)
    (hfwd : s.forwardUnblessed? workload g false = true)
    (hsig : s.checkpointAbortSignature? workload g = false) (io : UpsertIo) :
    s.upsertVolume workload f io =
      let s' := (s.upsertVolumeFacts workload f io.volume).2
      if s.hasCheckpointDispatch? workload = false ∧ fencedWriter? f.nodeId (s.anchorNode workload)
      then { s' with blessing := s'.blessing.insert workload ⟨some g, false, false⟩ }
      else s'.setQuarantined workload := by
  rw [upsertVolume_of_unblessed hf, updateQuarantine, forwardUnblessed?_upsertVolumeFacts,
    checkpointAbortSignature?_upsertVolumeFacts, hasCheckpointDispatch?_upsertVolumeFacts, hfwd,
    hsig]
  cases s.hasCheckpointDispatch? workload <;> simp

/-- A report that is not past the watermark lifts the quarantine and leaves the watermark. -/
lemma upsertVolume_of_not_forward (hf : Unblessed f g)
    (hfwd : s.forwardUnblessed? workload g false = false) (io : UpsertIo) :
    (s.upsertVolume workload f io).fetchBlessing workload =
      ⟨(s.fetchBlessing workload).blessedGeneration, false, false⟩ := by
  rw [upsertVolume_of_unblessed hf, updateQuarantine, forwardUnblessed?_upsertVolumeFacts, hfwd]
  simp [fetchBlessing_insert, fetchBlessing_upsertVolumeFacts]

/-! ## Repetition -/

/-- What a quarantining report leaves: the flag up, the watermark and the checkpoint as they were,
and the reporter as the anchor. -/
structure Judged (s s' : StatefulStore) (workload : String) (f : VolumeFields) : Prop where
  quarantined : s'.quarantined? workload = true
  watermark : (s'.fetchBlessing workload).blessedGeneration =
    (s.fetchBlessing workload).blessedGeneration
  signature : ∀ n, s'.checkpointAbortSignature? workload n = s.checkpointAbortSignature? workload n
  dispatch : s'.hasCheckpointDispatch? workload = s.hasCheckpointDispatch? workload
  anchor : ∀ node, f.nodeId = some node → s'.anchorNode workload = some node

lemma judged_setQuarantined (io : AppendIo) :
    Judged s ((s.upsertVolumeFacts workload f io).2.setQuarantined workload) workload f where
  quarantined := by simp [quarantined?, setQuarantined, fetchBlessing_insert]
  watermark := by
    rw [setQuarantined, fetchBlessing_insert, if_pos rfl, fetchBlessing_upsertVolumeFacts]
  signature n := checkpointAbortSignature?_upsertVolumeFacts s workload f io workload n
  dispatch := hasCheckpointDispatch?_upsertVolumeFacts s workload f io workload
  anchor _ hnode := anchorNode_upsertVolumeFacts s workload f io hnode

/-- An open checkpoint or a foreign reporter: quarantined. -/
lemma judged_upsertVolume (hf : Unblessed f g) (hfwd : s.forwardUnblessed? workload g false = true)
    (hsig : s.checkpointAbortSignature? workload g = false)
    (hstays : s.hasCheckpointDispatch? workload = true ∨ f.nodeId ≠ s.anchorNode workload)
    (io : UpsertIo) : Judged s (s.upsertVolume workload f io) workload f := by
  rw [upsertVolume_of_forward hf hfwd hsig]
  rw [if_neg]
  · exact judged_setQuarantined io.volume
  · rintro ⟨hdisp, hfenced⟩
    simp only [fencedWriter?, Bool.and_eq_true, decide_eq_true_eq] at hfenced
    simp [hdisp, hfenced.2] at hstays

lemma Judged.forward {s' : StatefulStore} (h : Judged s s' workload f) (n : Nat) :
    s'.forwardUnblessed? workload n false = s.forwardUnblessed? workload n false := by
  unfold forwardUnblessed?
  rw [h.watermark]

lemma Judged.mark {s' : StatefulStore} (h : Judged s s' workload f) :
    s'.blessingWatermark workload = s.blessingWatermark workload := by
  unfold blessingWatermark
  rw [h.watermark]

/-- The store after the same report again and again, one clock reading and append outcome each. -/
def repeated (s : StatefulStore) (workload : String) (f : VolumeFields) (ios : List UpsertIo) :
    StatefulStore :=
  run step s (ios.map fun io => .upsertVolume workload f io)

@[simp] lemma repeated_cons (io : UpsertIo) (ios : List UpsertIo) :
    s.repeated workload f (io :: ios) = (s.upsertVolume workload f io).repeated workload f ios :=
  rfl

/-- Under an open checkpoint every repetition is judged the same. -/
lemma judged_repeated (hf : Unblessed f g) (hfwd : s.forwardUnblessed? workload g false = true)
    (hsig : s.checkpointAbortSignature? workload g = false)
    (hdisp : s.hasCheckpointDispatch? workload = true) (io : UpsertIo) (ios : List UpsertIo) :
    (s.repeated workload f (io :: ios)).quarantined? workload = true ∧
      (s.repeated workload f (io :: ios)).blessingWatermark workload =
        s.blessingWatermark workload := by
  induction ios generalizing s io with
  | nil =>
    have hj := judged_upsertVolume hf hfwd hsig (.inl hdisp) io
    exact ⟨hj.quarantined, hj.mark⟩
  | cons io' ios ih =>
    have hj := judged_upsertVolume hf hfwd hsig (.inl hdisp) io
    rw [repeated_cons, ← hj.mark]
    exact ih ((hj.forward g).trans hfwd) ((hj.signature g).trans hsig) (hj.dispatch.trans hdisp) io'

/-- Once the generation of the report is the watermark, repeating the report changes neither. -/
lemma adopted_repeated (hf : Unblessed f g)
    (h : (s.fetchBlessing workload) = ⟨some g, false, false⟩) (ios : List UpsertIo) :
    (s.repeated workload f ios).fetchBlessing workload = ⟨some g, false, false⟩ := by
  induction ios generalizing s with
  | nil => exact h
  | cons io ios ih =>
    have hfwd : s.forwardUnblessed? workload g false = false := by
      simp [forwardUnblessed?, h]
    rw [repeated_cons]
    apply ih
    rw [upsertVolume_of_not_forward hf hfwd, h]

/-- A quarantining report was past a watermark. -/
lemma forward_of_quarantined (hf : Unblessed f g) {io : UpsertIo}
    (hq : (s.upsertVolume workload f io).quarantined? workload = true) :
    s.forwardUnblessed? workload g false = true := by
  by_contra hfwd
  rw [Bool.not_eq_true] at hfwd
  unfold quarantined? at hq
  rw [upsertVolume_of_not_forward hf hfwd] at hq
  simp at hq

/-- **Laundering by repetition.** Without an open checkpoint, a foreign node's quarantining report
sent again lifts the quarantine and moves the watermark to the reported generation, and it stays so
for every further repetition. -/
theorem repeated_foreign_adopted (hf : Unblessed f g)
    (hfwd : s.forwardUnblessed? workload g false = true)
    (hdisp : s.hasCheckpointDispatch? workload = false) {node : String}
    (hnode : f.nodeId = some node) (hforeign : f.nodeId ≠ s.anchorNode workload) (io io' : UpsertIo)
    (ios : List UpsertIo) :
    ((s.upsertVolume workload f io).repeated workload f (io' :: ios)).fetchBlessing workload =
      ⟨some g, false, false⟩ := by
  have hsig := checkpointAbortSignature?_of_not_dispatch hdisp g
  have hj := judged_upsertVolume hf hfwd hsig (.inr hforeign) io
  rw [repeated_cons]
  -- the second report comes from what is now the anchor
  refine adopted_repeated hf ?_ ios
  rw [upsertVolume_of_forward hf ((hj.forward g).trans hfwd) ((hj.signature g).trans hsig)]
  simp [hj.dispatch, hdisp, fencedWriter?, hnode, hj.anchor node hnode, fetchBlessing_insert]

/-- **Quarantine against repetition.** Let a node that is not the anchor of a workload's volume
report an unblessed generation so that the workload is quarantined (the generation is then past the
watermark), and let the report not be the abort of the workload's own checkpoint. After any number
`n ≥ 1` of the same report the workload is still quarantined under the same watermark exactly when
it has an unresolved checkpoint dispatch. -/
theorem quarantine_kept_iff_dispatch_open (s : StatefulStore) (workload : String) (f : VolumeFields)
    {a b : String} {g : Nat} (hanchor : s.anchorNode workload = some a) (hforeign : b ≠ a)
    (hnode : f.nodeId = some b) (hf : Unblessed f g)
    (hsig : s.checkpointAbortSignature? workload g = false) (io : UpsertIo)
    (hq : (s.upsertVolume workload f io).quarantined? workload = true) (ios : List UpsertIo)
    (hios : ios ≠ []) :
    ((s.upsertVolume workload f io).repeated workload f ios).quarantined? workload = true ∧
      ((s.upsertVolume workload f io).repeated workload f ios).blessingWatermark workload =
        s.blessingWatermark workload ↔
      s.hasCheckpointDispatch? workload = true := by
  have hfwd := forward_of_quarantined hf hq
  constructor
  · rintro ⟨hkept, -⟩
    by_contra hdisp
    rw [Bool.not_eq_true] at hdisp
    obtain ⟨io', rest, rfl⟩ := List.exists_cons_of_ne_nil hios
    have hne : f.nodeId ≠ s.anchorNode workload := by
      rw [hnode, hanchor]
      simpa using hforeign
    unfold quarantined? at hkept
    rw [repeated_foreign_adopted hf hfwd hdisp hnode hne] at hkept
    simp at hkept
  · intro hdisp
    exact judged_repeated hf hfwd hsig hdisp io ios

/-! ## Runs -/

/-- An append that succeeds. -/
def appended : AppendIo := ⟨1, none⟩

/-- A volume on `brick-a` whose first generation the control plane blessed. -/
def anchoredCalls : List StatefulCall :=
  [.createVolume "pg" ⟨some "brick-a", 1, none, none, none⟩ appended,
    .blessGeneration "pg" 1 appended]

/-- `brick-b` reports generation 2, which nobody blessed. -/
def foreignReport : VolumeFields :=
  { nodeId := some "brick-b", generation := some 2, generationBlessed := some false }

def reportIo : UpsertIo := ⟨appended, appended, appended⟩

/-- With a checkpoint of generation 5 open, three foreign reports leave the quarantine standing. -/
theorem quarantine_kept_under_dispatch :
    let s := run step init (anchoredCalls ++ [.recordCheckpointDispatch "pg" "vm-1" 5 appended])
    ((s.upsertVolume "pg" foreignReport reportIo).repeated "pg" foreignReport
        [reportIo, reportIo]).quarantined? "pg" = true ∧
      ((s.upsertVolume "pg" foreignReport reportIo).repeated "pg" foreignReport
        [reportIo, reportIo]).blessingWatermark "pg" = s.blessingWatermark "pg" := by
  intro s
  exact (quarantine_kept_iff_dispatch_open s "pg" foreignReport (a := "brick-a") (b := "brick-b")
    (g := 2) (by decide +kernel) (by decide) rfl ⟨rfl, rfl⟩ (by decide +kernel) reportIo
    (by decide +kernel) [reportIo, reportIo] (by simp)).mpr (by decide +kernel)

/-- Without one, the first report of `brick-b` quarantines the workload and the second, the same
report again, lifts the quarantine and moves the watermark to the unblessed generation. -/
theorem second_foreign_report_lifts_quarantine : let s := run step init anchoredCalls
    let s₁ := s.upsertVolume "pg" foreignReport reportIo
    let s₂ := s₁.repeated "pg" foreignReport [reportIo]
    s.anchorNode "pg" = some "brick-a" ∧ s.blessingWatermark "pg" = 1 ∧
      s.checkpointAbortSignature? "pg" 2 = false ∧
      s₁.quarantined? "pg" = true ∧ s₁.blessingWatermark "pg" = 1 ∧
      s₂.quarantined? "pg" = false ∧ s₂.blessingWatermark "pg" = 2 := by
  decide +kernel

end StatefulStore

end Homelab.Embervm
