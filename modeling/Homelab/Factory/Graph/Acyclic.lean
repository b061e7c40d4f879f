import Homelab.Factory.Graph.Atomic

/-!
# The plan graph stays acyclic and closed

`Sound` is the invariant of the plan rows. Its heart is `ordered`: a live node depends only on live
nodes created in earlier versions. An add keeps it because its dependencies must be live and its key
must not be; a discard keeps it because no live node may depend on what it removes, also when the
key comes back later with other dependencies. Creation versions go down along every dependency, so
there is no cycle (`Sound.acyclic`).
-/

namespace Homelab.Factory

open Homelab.Lib List
open Relation (ReflTransGen TransGen)

namespace Task

/-- The live node `a` names `b` as a dependency. -/
def DependsOn (s : Task) (a b : String) : Prop :=
  ∃ node ∈ s.live, node.nodeKey = a ∧ b ∈ node.deps

/-! ## The invariant -/

/-- A row of the current plan. -/
def HasLive (s : Task) (node : PlanNode) : Prop :=
  node ∈ s.nodes ∧ node.discardedInVersion = none

/-- The invariant of the plan. -/
structure Sound (s : Task) : Prop where
  versions : s.versions.map (·.version) = range' 1 s.versions.length
  keys : (s.nodes.map (·.nodeKey)).Nodup
  uncancelled : ∀ node ∈ s.nodes, node.cancelledInVersion = none
  created : ∀ node ∈ s.nodes, node.createdInVersion ≤ s.versions.length
  discarded : ∀ node ∈ s.nodes, ∀ d, node.discardedInVersion = some d → d ≤ s.versions.length
  ordered : ∀ node, s.HasLive node → ∀ dep ∈ node.deps, ∃ other, s.HasLive other ∧
    other.nodeKey = dep ∧ other.createdInVersion < node.createdInVersion

lemma foldl_max_range' (n : Nat) : (range' 1 n).foldl max 0 = n := by
  induction n with
  | zero => rfl
  | succ n ih =>
    rw [range'_1_concat, foldl_append, ih]
    change max n (1 + n) = n + 1
    omega

namespace Sound

variable {s : Task} (h : s.Sound)
include h

lemma currentVersion : s.currentVersion = s.versions.length := by
  rw [Task.currentVersion, h.versions, foldl_max_range']

lemma mem_live {node : PlanNode} : node ∈ s.live ↔ s.HasLive node := by
  rw [live, visibleNodes, mem_filter, h.currentVersion]
  refine and_congr_right fun hmem => ?_
  have hcreated := h.created node hmem
  have hcancelled := h.uncancelled node hmem
  unfold PlanNode.visibleIn
  rcases hdiscarded : node.discardedInVersion with _ | d
  · simp [hcreated, hcancelled]
  · have := h.discarded node hmem d hdiscarded
    simp [hcreated, hcancelled, this]

lemma liveNode_isSome {key : String} :
    (s.liveNode key).isSome ↔ ∃ node, s.HasLive node ∧ node.nodeKey = key := by
  rw [liveNode, find?_isSome]
  simp only [decide_eq_true_eq, h.mem_live]

/-- Keys are unique. -/
lemma eq_of_key {a b : PlanNode} (ha : a ∈ s.nodes) (hb : b ∈ s.nodes)
    (hkey : a.nodeKey = b.nodeKey) : a = b :=
  inj_on_of_nodup_map h.keys ha hb hkey

/-! ## What the invariant gives -/

/-- Along dependencies, creation versions go down. -/
lemma created_lt {a b : String} (hab : TransGen s.DependsOn a b) :
    ∃ node other, s.HasLive node ∧ node.nodeKey = a ∧ s.HasLive other ∧ other.nodeKey = b ∧
      other.createdInVersion < node.createdInVersion := by
  induction hab with
  | single hab =>
    obtain ⟨node, hnode, rfl, hdep⟩ := hab
    have hlive := h.mem_live.mp hnode
    obtain ⟨other, hother, hkey, hlt⟩ := h.ordered node hlive _ hdep
    exact ⟨node, other, hlive, rfl, hother, hkey, hlt⟩
  | tail _ hbc ih =>
    obtain ⟨node, middle, hnode, hkey, hmiddle, hb, hlt⟩ := ih
    obtain ⟨middle', hmiddle', hkey', hdep⟩ := hbc
    have hlive' := h.mem_live.mp hmiddle'
    obtain rfl : middle' = middle := h.eq_of_key hlive'.1 hmiddle.1 (hkey'.trans hb.symm)
    obtain ⟨other, hother, hc, hlt'⟩ := h.ordered _ hmiddle _ hdep
    exact ⟨node, other, hnode, hkey, hother, hc, hlt'.trans hlt⟩

lemma acyclic (key : String) : ¬ TransGen s.DependsOn key key := by
  intro hcycle
  obtain ⟨node, other, hnode, hkey, hother, hkey', hlt⟩ := h.created_lt hcycle
  obtain rfl : node = other := h.eq_of_key hnode.1 hother.1 (hkey.trans hkey'.symm)
  exact lt_irrefl _ hlt

lemma closed {a b : String} (hab : s.DependsOn a b) : ∃ node ∈ s.live, node.nodeKey = b := by
  obtain ⟨_, other, _, _, hother, hkey, _⟩ := h.created_lt (.single hab)
  exact ⟨other, h.mem_live.mpr hother, hkey⟩

end Sound

/-! ## Every change keeps the invariant -/

lemma sound_empty (id conductorModel : String) (budgetUsd : Value) (runs : List NodeRun) :
    (empty id conductorModel budgetUsd runs).Sound where
  versions := rfl
  keys := nodup_nil
  uncancelled _ hnode := absurd hnode not_mem_nil
  created _ hnode := absurd hnode not_mem_nil
  discarded _ hnode := absurd hnode not_mem_nil
  ordered _ hnode := absurd hnode.1 not_mem_nil

/-- The next version continues the numbering. -/
lemma Sound.versions_record {s : Task} (h : s.Sound) (change : Change) (cause : Cause) :
    (s.record change cause).versions.map (·.version) =
      range' 1 (s.record change cause).versions.length := by
  simp [record, h.versions, h.currentVersion, range'_1_concat, Nat.add_comm]

/-- A change of columns that say nothing about where a node stands in the plan. -/
lemma Sound.map_nodes {s s' : Task} (h : s.Sound) {f : PlanNode → PlanNode}
    (hf : ∀ node, (f node).nodeKey = node.nodeKey ∧
      (f node).createdInVersion = node.createdInVersion ∧
      (f node).discardedInVersion = node.discardedInVersion ∧
      (f node).cancelledInVersion = node.cancelledInVersion ∧ (f node).deps = node.deps)
    (hnodes : s'.nodes = s.nodes.map f)
    (hversions : s'.versions.map (·.version) = range' 1 s'.versions.length)
    (hgrow : s.versions.length ≤ s'.versions.length) : s'.Sound := by
  have hmem : ∀ node' ∈ s'.nodes, ∃ node ∈ s.nodes, f node = node' := by
    rw [hnodes]
    exact fun node' => mem_map.mp
  refine ⟨hversions, ?_, ?_, ?_, ?_, ?_⟩
  · have hkeys : s'.nodes.map (·.nodeKey) = s.nodes.map (·.nodeKey) := by
      rw [hnodes, map_map]
      exact map_congr_left fun node _ => (hf node).1
    rw [hkeys]
    exact h.keys
  · rintro node' hnode'
    obtain ⟨node, hnode, rfl⟩ := hmem node' hnode'
    exact (hf node).2.2.2.1.trans (h.uncancelled node hnode)
  · rintro node' hnode'
    obtain ⟨node, hnode, rfl⟩ := hmem node' hnode'
    rw [(hf node).2.1]
    exact (h.created node hnode).trans hgrow
  · rintro node' hnode' d hd
    obtain ⟨node, hnode, rfl⟩ := hmem node' hnode'
    rw [(hf node).2.2.1] at hd
    exact (h.discarded node hnode d hd).trans hgrow
  · rintro node' ⟨hnode', hlive⟩ dep hdep
    obtain ⟨node, hnode, rfl⟩ := hmem node' hnode'
    rw [(hf node).2.2.1] at hlive
    rw [(hf node).2.2.2.2] at hdep
    obtain ⟨other, ⟨hother, hotherLive⟩, hkey, hlt⟩ := h.ordered node ⟨hnode, hlive⟩ dep hdep
    refine ⟨f other, ⟨hnodes ▸ mem_map_of_mem hother, ?_⟩, ?_, ?_⟩
    · rw [(hf other).2.2.1, hotherLive]
    · rw [(hf other).1, hkey]
    · rw [(hf other).2.1, (hf node).2.1]
      exact hlt

/-- A change outside the plan. -/
lemma Sound.congr {s s' : Task} (h : s.Sound) (hnodes : s'.nodes = s.nodes)
    (hversions : s'.versions = s.versions) : s'.Sound :=
  h.map_nodes (f := fun node => node) (fun _ => ⟨rfl, rfl, rfl, rfl, rfl⟩)
    (by rw [hnodes, map_id'])
    (by rw [hversions]; exact h.versions) (by rw [hversions])

lemma Sound.add {s : Task} (h : s.Sound) (cause : Cause) {expectedVersion : Int}
    {fields : NodeFields} (hguards : s.addNodeRefusal expectedVersion fields = none) :
    (s.withNode cause fields).Sound := by
  obtain ⟨_, hnew, hdeps⟩ := addNodeRefusal_eq_none hguards
  have hlen : (s.withNode cause fields).versions.length = s.versions.length + 1 := by
    simp [withNode, record]
  have hmem : ∀ {node}, node ∈ (s.withNode cause fields).nodes ↔
      node = newRow fields (s.currentVersion + 1) ∨
        (node ∈ s.nodes ∧ node.nodeKey ≠ fields.nodeKey) := mem_putNode
  -- nothing live stands under the new key, so every live row stays
  have hstays : ∀ {node}, s.HasLive node → (s.withNode cause fields).HasLive node := by
    rintro node ⟨hnode, hlive⟩
    refine ⟨hmem.mpr (.inr ⟨hnode, fun hkey => ?_⟩), hlive⟩
    rw [← Bool.not_eq_true, h.liveNode_isSome] at hnew
    exact hnew ⟨node, ⟨hnode, hlive⟩, hkey⟩
  refine ⟨h.versions_record _ cause, putNode_keys h.keys _, ?_, ?_, ?_, ?_⟩
  · intro node hnode
    rcases hmem.mp hnode with rfl | ⟨hnode, -⟩
    · rfl
    · exact h.uncancelled node hnode
  · intro node hnode
    rw [hlen]
    rcases hmem.mp hnode with rfl | ⟨hnode, -⟩
    · exact (congrArg (· + 1) h.currentVersion).le
    · exact (h.created node hnode).trans (Nat.le_succ _)
  · intro node hnode d hd
    rw [hlen]
    rcases hmem.mp hnode with rfl | ⟨hnode, -⟩
    · cases hd
    · exact (h.discarded node hnode d hd).trans (Nat.le_succ _)
  · rintro node ⟨hnode, hlive⟩ dep hdep
    rcases hmem.mp hnode with rfl | ⟨hnode, -⟩
    · obtain ⟨other, hother, hkey⟩ := h.liveNode_isSome.mp (hdeps dep hdep)
      refine ⟨other, hstays hother, hkey, ?_⟩
      change other.createdInVersion < s.currentVersion + 1
      rw [h.currentVersion]
      exact Nat.lt_succ_of_le (h.created other hother.1)
    · obtain ⟨other, hother, hkey, hlt⟩ := h.ordered node ⟨hnode, hlive⟩ dep hdep
      exact ⟨other, hstays hother, hkey, hlt⟩

lemma Sound.discard {s : Task} (h : s.Sound) (cause : Cause) {starts : List FactoryStart}
    {nodeKey : String} {expectedVersion : Int} {observedBranchHead : Value}
    {activitiesClaimWrite : Bool}
    (hguards : s.discardNodeRefusal starts nodeKey expectedVersion observedBranchHead
      activitiesClaimWrite = none) : (s.withoutNode cause nodeKey).Sound := by
  obtain ⟨_, -, hfree⟩ := discardNodeRefusal_eq_none hguards
  have hlen : (s.withoutNode cause nodeKey).versions.length = s.versions.length + 1 := by
    simp [withoutNode, record]
  have hmem : ∀ node' ∈ (s.withoutNode cause nodeKey).nodes, ∃ node ∈ s.nodes,
      node' = if node.nodeKey = nodeKey then
        { node with discardedInVersion := some (s.currentVersion + 1) } else node := by
    intro node' hnode'
    obtain ⟨node, hnode, heq⟩ := mem_map.mp hnode'
    exact ⟨node, hnode, heq.symm⟩
  refine ⟨h.versions_record _ cause, ?_, ?_, ?_, ?_, ?_⟩
  · have hkeys : (s.withoutNode cause nodeKey).nodes.map (·.nodeKey) = s.nodes.map (·.nodeKey) := by
      change (s.nodes.map _).map _ = _
      rw [map_map]
      refine map_congr_left fun node _ => ?_
      change (if node.nodeKey = nodeKey then
        { node with discardedInVersion := some (s.currentVersion + 1) } else node).nodeKey = _
      split_ifs <;> rfl
    rw [hkeys]
    exact h.keys
  · intro node' hnode'
    obtain ⟨node, hnode, rfl⟩ := hmem node' hnode'
    split_ifs <;> exact h.uncancelled node hnode
  · intro node' hnode'
    obtain ⟨node, hnode, rfl⟩ := hmem node' hnode'
    rw [hlen]
    have hcreated := (h.created node hnode).trans (Nat.le_succ _)
    split_ifs <;> exact hcreated
  · intro node' hnode' d hd
    obtain ⟨node, hnode, rfl⟩ := hmem node' hnode'
    rw [hlen]
    split_ifs at hd with hkey
    · rw [← h.currentVersion]
      exact (Option.some.inj hd).ge
    · exact (h.discarded node hnode d hd).trans (Nat.le_succ _)
  · rintro node' ⟨hnode', hlive⟩ dep hdep
    obtain ⟨node, hnode, rfl⟩ := hmem node' hnode'
    split_ifs at hlive hdep ⊢ with hkey
    obtain ⟨other, hother, hotherKey, hlt⟩ := h.ordered node ⟨hnode, hlive⟩ dep hdep
    -- the discarded node is nobody's dependency
    have hne : other.nodeKey ≠ nodeKey := by
      rintro heq
      rw [← hotherKey, heq] at hdep
      exact hfree node (h.mem_live.mpr ⟨hnode, hlive⟩) hdep
    exact ⟨other, ⟨mem_map.mpr ⟨other, hother.1, if_neg hne⟩, hother.2⟩, hotherKey, hlt⟩

lemma write_sound (s s' : Task) (hwrite : Write s s') (h : s.Sound) : s'.Sound := by
  cases hwrite with
  | log => exact h.congr rfl rfl
  | add cause expectedVersion fields hguards => exact h.add cause hguards
  | discard starts cause nodeKey expectedVersion head claim hguards => exact h.discard cause hguards
  | renew target expectedVersion requestId node hlive hguards =>
    refine h.map_nodes (fun node => ?_) rfl (h.versions_record _ _) (by simp [withRenewal, record])
    split_ifs <;> exact ⟨rfl, rfl, rfl, rfl, rfl⟩
  | reserve env a node hfresh hlive hguards =>
    refine h.map_nodes (fun node => ?_) rfl h.versions le_rfl
    split_ifs <;> exact ⟨rfl, rfl, rfl, rfl, rfl⟩
  | bind => exact h.congr rfl rfl
  | conclude => exact h.congr rfl rfl

/-! ## Versions -/

lemma applyEdits_versions (s : Task) (starts : List FactoryStart) (cause : Cause)
    (expectedVersion : Int) (edits : Value) :
    ((s.applyEdits starts cause expectedVersion edits).1.nodes = s.nodes ∧
        (s.applyEdits starts cause expectedVersion edits).1.versions = s.versions) ∨
      ∃ batch rows, decodeEdits edits = some batch ∧
        (s.applyEdits starts cause expectedVersion edits).1.versions = s.versions ++ rows ∧
        rows.length = batch.length := by
  unfold applyEdits
  split
  · exact .inl ⟨rfl, rfl⟩
  · rename_i batch hbatch
    split
    · rename_i s' version h
      obtain ⟨-, -, rows, hrows, hlen, -⟩ := applyInOrder_versions h
      exact .inr ⟨batch, rows, hbatch, hrows, hlen.trans (s.orderedBatch_length batch)⟩
    · exact .inl ⟨rfl, rfl⟩
    · exact .inl ⟨rfl, rfl⟩

lemma renewFundedAttempt_versions (s : Task) (target : FundingTarget) (expectedVersion : Int)
    (requestId : Nat) : (s.renewFundedAttempt target expectedVersion requestId).1 = s ∨
      ∃ row, (s.renewFundedAttempt target expectedVersion requestId).1.versions =
        s.versions ++ [row] := by
  unfold renewFundedAttempt
  split
  · exact .inl rfl
  · exact .inr ⟨_, rfl⟩

end Task

/-- The calls that edit the plan. -/
def Call.isEdit : Call → Bool
  | .addNode .. | .discardNode .. | .applyEdits .. | .renewFundedAttempt .. => true
  | .admitDispatch .. | .recordDispatch .. | .bindNodeSession .. | .recordOutcome .. => false

/-- The number of edits a call asks for. -/
def Call.edits : Call → Nat
  | .addNode .. | .discardNode .. | .renewFundedAttempt .. => 1
  | .applyEdits _ _ _ edits => (decodeEdits edits).elim 0 length
  | .admitDispatch .. | .recordDispatch .. | .bindNodeSession .. | .recordOutcome .. => 0

namespace Task

/-- An edit call leaves the plan untouched or adds one version for each of its edits. -/
lemma step_versions (s : Task) {call : Call} (hedit : call.isEdit = true) :
    ((s.step call).nodes = s.nodes ∧ (s.step call).versions = s.versions) ∨
      ∃ rows, (s.step call).versions = s.versions ++ rows ∧ rows.length = call.edits := by
  cases call with
  | addNode cause expectedVersion fields =>
    obtain ⟨-, hnodes, hversions, -⟩ | ⟨-, -, -, row, hrow, -⟩ :=
      s.addNode_effect cause expectedVersion fields
    · exact .inl ⟨hnodes, hversions⟩
    · exact .inr ⟨[row], hrow, rfl⟩
  | discardNode starts cause nodeKey expectedVersion head claim =>
    obtain ⟨-, hnodes, hversions, -⟩ | ⟨-, -, -, row, hrow, -⟩ :=
      s.discardNode_effect starts cause nodeKey expectedVersion head claim
    · exact .inl ⟨hnodes, hversions⟩
    · exact .inr ⟨[row], hrow, rfl⟩
  | applyEdits starts cause expectedVersion edits =>
    obtain hsame | ⟨batch, rows, hbatch, hrows, hlen⟩ :=
      s.applyEdits_versions starts cause expectedVersion edits
    · exact .inl hsame
    · refine .inr ⟨rows, hrows, ?_⟩
      rw [Call.edits, hbatch]
      exact hlen
  | renewFundedAttempt target expectedVersion requestId =>
    obtain hsame | ⟨row, hrow⟩ := s.renewFundedAttempt_versions target expectedVersion requestId
    · exact .inl ⟨congrArg nodes hsame, congrArg versions hsame⟩
    · exact .inr ⟨[row], hrow, rfl⟩
  | admitDispatch => cases hedit
  | recordDispatch => cases hedit
  | bindNodeSession => cases hedit
  | recordOutcome => cases hedit

lemma sound_run (id conductorModel : String) (budgetUsd : Value) (runs : List NodeRun)
    (calls : List Call) : ((empty id conductorModel budgetUsd runs).run calls).Sound :=
  writes_keep write_sound (sound_empty ..) (run_writes ..)

/-- **The plan graph is acyclic and dependency-closed at every version.** After any calls on a task
that starts with an empty plan, the live nodes have no dependency cycle and no dependency outside
them, none depends on itself, and the versions are `1, .., n`; and an edit call then adds as many
versions as it has edits, or leaves the plan untouched. -/
theorem plan_acyclic_and_closed (id conductorModel : String) (budgetUsd : Value)
    (runs : List NodeRun) (calls : List Call) :
    let s := (empty id conductorModel budgetUsd runs).run calls
    (∀ key, ¬ TransGen s.DependsOn key key) ∧
      (∀ a b, s.DependsOn a b → ∃ node ∈ s.live, node.nodeKey = b) ∧
      (∀ node ∈ s.live, node.nodeKey ∉ node.deps) ∧
      s.versions.map (·.version) = range' 1 s.currentVersion ∧
      ∀ call : Call, call.isEdit = true →
        ((s.step call).nodes = s.nodes ∧ (s.step call).versions = s.versions) ∨
          ((s.step call).currentVersion = s.currentVersion + call.edits ∧
            ∃ rows, (s.step call).versions = s.versions ++ rows ∧ rows.length = call.edits) := by
  intro s
  have h : s.Sound := sound_run ..
  refine ⟨h.acyclic, fun a b => h.closed, fun node hnode hself => ?_, ?_, fun call hedit => ?_⟩
  · exact h.acyclic node.nodeKey (.single ⟨node, hnode, rfl, hself⟩)
  · rw [h.currentVersion]
    exact h.versions
  · refine (s.step_versions hedit).imp_right fun ⟨rows, hrows, hlen⟩ => ⟨?_, rows, hrows, hlen⟩
    have hstep : (s.step call).Sound := writes_keep write_sound h (step_writes s call)
    rw [hstep.currentVersion, h.currentVersion, hrows, length_append, hlen]

end Task

end Homelab.Factory
