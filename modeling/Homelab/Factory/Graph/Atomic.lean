import Homelab.Factory.Graph.Calls

/-!
# A batch of edits is applied whole or not at all

`apply_edits` against its sequential meaning: the same edits, names resolved, given one at a time in
the order `_order_edits` chooses, each call expecting the version the one before it made
(`editCalls`). A batch that goes through ends in the state those calls end in, with the conductor
call of the batch added. A batch that is refused leaves the plan as it was and adds that one
conductor call. A batch with an edit that raises, for a model or a reason that is no text, leaves
everything as it was.

Which edit failed is told in the answer, not in the recorded row: a conductor call has no column for
it. A batch that is not well formed is refused before its edits are looked at one by one, and its
refusal names none of them.
-/

namespace Homelab.Factory

open Homelab.Lib List

namespace Task

/-! ## What an edit does to the versions -/

lemma currentVersion_snoc (rows : List PlanVersion) (row : PlanVersion) :
    ((rows ++ [row]).map (·.version)).foldl max 0 =
      max ((rows.map (·.version)).foldl max 0) row.version := by
  rw [map_append, foldl_append]
  rfl

/-- What one edit does to the versions: refused, or raised for a text column that does not take its
value, it leaves the plan as it was; applied, it adds one version, the next after the version it
expected. -/
def EditEffect (s : Task) (expectedVersion : Int) (takes : Bool) (result : Task × Option GraphOp) :
    Prop :=
  (result.2.any (·.ok) = false ∧ result.1.nodes = s.nodes ∧ result.1.versions = s.versions ∧
      (result.2 = none → takes = false)) ∨
    (result.2.any (·.ok) = true ∧ expectedVersion = s.currentVersion ∧
      result.2.bind (·.version) = some (expectedVersion + 1) ∧
      ∃ row, result.1.versions = s.versions ++ [row] ∧ row.version = s.currentVersion + 1)

lemma commit_effect {s : Task} {expectedVersion : Int} {takes : Bool} {done : Task × GraphOp}
    (h : s.EditEffect expectedVersion true (answered done)) :
    s.EditEffect expectedVersion takes (s.commit takes done) := by
  cases takes with
  | false => exact .inl ⟨rfl, rfl, rfl, fun _ => rfl⟩
  | true => exact h

lemma addNode_effect (s : Task) (cause : Cause) (expectedVersion : Int) (fields : NodeFields) :
    s.EditEffect expectedVersion (fields.model.isText && cause.statedReason.isText)
      (s.addNode cause expectedVersion fields) := by
  unfold addNode
  split
  · exact .inl ⟨rfl, rfl, rfl, nofun⟩
  · rename_i hguards
    obtain ⟨hversion, -⟩ := addNodeRefusal_eq_none hguards
    exact commit_effect (.inr ⟨rfl, hversion, by rw [hversion]; rfl, _, rfl, rfl⟩)

lemma discardNode_effect (s : Task) (starts : List FactoryStart) (cause : Cause) (nodeKey : String)
    (expectedVersion : Int) (observedBranchHead : Value) (activitiesClaimWrite : Bool) :
    s.EditEffect expectedVersion cause.statedReason.isText (s.discardNode starts cause nodeKey
      expectedVersion observedBranchHead activitiesClaimWrite) := by
  unfold discardNode
  split
  · exact .inl ⟨rfl, rfl, rfl, nofun⟩
  · rename_i hguards
    obtain ⟨hversion, -⟩ := discardNodeRefusal_eq_none hguards
    exact commit_effect (.inr ⟨rfl, hversion, by rw [hversion]; rfl, _, rfl, rfl⟩)

/-- One edit takes effect, is refused, or raises. -/
lemma applyOneEdit_effect (s : Task) (starts : List FactoryStart) (cause : Cause) (edit : Edit)
    (expectedVersion : Int) :
    s.EditEffect expectedVersion edit.isText
      (s.applyOneEdit starts cause edit expectedVersion) := by
  cases edit with
  | addNode => exact addNode_effect ..
  | discardNode => exact discardNode_effect ..

/-- An applied batch adds one version for each edit, each the next after the one before. -/
lemma applyInOrder_versions {starts : List FactoryStart} {cause : Cause}
    {edits : List (Nat × Edit)} {s s' : Task} {version version' : Int}
    (h : applyInOrder starts cause s version edits = .ok (s', version')) :
    (edits ≠ [] → version = s.currentVersion) ∧ version' = version + edits.length ∧
      ∃ rows, s'.versions = s.versions ++ rows ∧ rows.length = edits.length ∧
        rows.map (·.version) = range' (s.currentVersion + 1) edits.length := by
  induction edits generalizing s version with
  | nil =>
    cases h
    exact ⟨fun hne => absurd rfl hne, by simp, [], by simp, rfl, rfl⟩
  | cons indexed edits ih =>
    rw [applyInOrder_cons] at h
    split_ifs at h with hok
    obtain ⟨hfail, -⟩ | ⟨-, hcurrent, hnext, row, hrow, hnumber⟩ :=
      applyOneEdit_effect s starts cause indexed.2 version
    · rw [hfail] at hok
      cases hok
    · rw [hnext] at h
      obtain ⟨-, hversion, rows, hrows, hlen, hnumbers⟩ := ih h
      -- the first edit moved the current version on by one
      have hmoved : (s.applyOneEdit starts cause indexed.2 version).1.currentVersion =
          s.currentVersion + 1 := by
        rw [currentVersion, hrow, currentVersion_snoc, hnumber]
        change max s.currentVersion _ = _
        omega
      refine ⟨fun _ => hcurrent, ?_, row :: rows, ?_, ?_, ?_⟩
      · rw [hversion, length_cons, Option.getD_some]
        omega
      · rw [hrows, hrow, append_assoc]
        rfl
      · rw [length_cons, hlen, length_cons]
      · rw [map_cons, hnumbers, hmoved, hnumber, length_cons, range'_succ]

end Task

/-! ## The sequential meaning -/

/-- The edit as a call of its own. -/
def Edit.call (starts : List FactoryStart) (cause : Cause) (expectedVersion : Int) : Edit → Call
  | .addNode _ statedReason fields => .addNode { cause with statedReason } expectedVersion fields
  | .discardNode nodeKey statedReason observedBranchHead activitiesClaimWrite =>
    .discardNode starts { cause with statedReason } nodeKey expectedVersion observedBranchHead
      activitiesClaimWrite

/-- The edits one at a time, each expecting the version the one before it made. -/
def editCalls (starts : List FactoryStart) (cause : Cause) : Int → List (Nat × Edit) → List Call
  | _, [] => []
  | version, indexed :: rest =>
    indexed.2.call starts cause version :: editCalls starts cause (version + 1) rest

namespace Task

lemma step_call (s : Task) (starts : List FactoryStart) (cause : Cause) (edit : Edit)
    (version : Int) :
    s.step (edit.call starts cause version) = (s.applyOneEdit starts cause edit version).1 := by
  cases edit <;> rfl

variable {starts : List FactoryStart} {cause : Cause} {s : Task} {version : Int}
  {edits : List (Nat × Edit)} {s' : Task}

lemma applyInOrder_run {version' : Int}
    (h : applyInOrder starts cause s version edits = .ok (s', version')) :
    s' = s.run (editCalls starts cause version edits) := by
  induction edits generalizing s version with
  | nil => cases h; rfl
  | cons indexed edits ih =>
    rw [applyInOrder_cons] at h
    split_ifs at h with hok
    obtain ⟨hfail, -⟩ | ⟨-, -, hnext, -⟩ := applyOneEdit_effect s starts cause indexed.2 version
    · rw [hfail] at hok
      cases hok
    · rw [hnext] at h
      rw [ih h, editCalls, run, run, run_cons, step_call]
      rfl

variable {index : Nat}

/-- Where a batch fails: the edits before it go through, and the edit itself does not on the plan
they lead to. -/
lemma applyInOrder_error {answer : Option GraphOp}
    (h : applyInOrder starts cause s version edits = .error (index, answer)) :
    ∃ before edit after, edits = before ++ (index, edit) :: after ∧ answer.any (·.ok) = false ∧
      answer = ((s.run (editCalls starts cause version before)).applyOneEdit starts cause edit
        (version + before.length)).2 := by
  induction edits generalizing s version with
  | nil => cases h
  | cons indexed edits ih =>
    rw [applyInOrder_cons] at h
    split_ifs at h with hok
    · obtain ⟨hfail, -⟩ | ⟨-, -, hnext, -⟩ := applyOneEdit_effect s starts cause indexed.2 version
      · rw [hfail] at hok
        cases hok
      · rw [hnext] at h
        obtain ⟨before, edit, after, rfl, hrefused, hop⟩ := ih h
        refine ⟨indexed :: before, edit, after, rfl, hrefused, ?_⟩
        rw [hop, editCalls, run, run, run_cons, step_call, length_cons]
        simp only [Option.getD_some]
        congr 2
        omega
    · cases h
      exact ⟨[], indexed.2, edits, rfl, Bool.eq_false_of_not_eq_true hok, by simp [editCalls]⟩

/-! ## Whole or not at all -/

/-- The batch went through: it moved the plan from the version it expected through one version for
each edit, and what it left is what the edits leave when they are given one at a time. -/
structure Applied (s : Task) (starts : List FactoryStart) (cause : Cause) (expectedVersion : Int)
    (batch : List Edit) (result : Task × GraphOp) : Prop where
  expected : expectedVersion = s.currentVersion
  version : result.2.version = some (expectedVersion + batch.length)
  versions : ∃ rows, result.1.versions = s.versions ++ rows ∧
    rows.map (·.version) = range' (s.currentVersion + 1) batch.length
  /-- Every edit has its turn, once. -/
  whole : ((s.orderedBatch batch).map Prod.fst).Perm (range batch.length) ∧
    ∀ indexed ∈ s.orderedBatch batch,
      (resolveBatchDeps batch (s.live.map (·.nodeKey)))[indexed.1]? = some indexed.2
  sequential : ∃ row, result.1 = { s.run (editCalls starts cause expectedVersion
    (s.orderedBatch batch)) with
      calls := (s.run
        (editCalls starts cause expectedVersion (s.orderedBatch batch))).calls ++ [row] }
  graph : ∀ version, result.1.loadGraph version =
    (s.run (editCalls starts cause expectedVersion (s.orderedBatch batch))).loadGraph version

/-- The edit at a place of the batch is the first that does not go through when they are given one
at a time, and this is its answer. -/
def StopsAt (s : Task) (starts : List FactoryStart) (cause : Cause) (expectedVersion : Int)
    (batch : List Edit) (index : Nat) (written : Edit) (answer : Option GraphOp) : Prop :=
  batch[index]? = some written ∧ answer.any (·.ok) = false ∧
    ∃ before edit after, s.orderedBatch batch = before ++ (index, edit) :: after ∧
      edit.nodeKey = written.nodeKey ∧
      ((s.run (editCalls starts cause expectedVersion before)).applyOneEdit starts cause edit
        (expectedVersion + before.length)).2 = answer

/-- The answer names the edit that was refused. -/
def NamesRefused (s : Task) (starts : List FactoryStart) (cause : Cause) (expectedVersion : Int)
    (batch : List Edit) (op : GraphOp) : Prop :=
  ∃ index written refused,
    s.StopsAt starts cause expectedVersion batch index written (some refused) ∧
    (∃ rest, op.detail = some (namesEdit index written.nodeKey ++ rest)) ∧
    op.refusalCode = some (refused.refusalCode.getD "graph_refused")

/-- The batch was refused: one conductor call was added and nothing else changed. -/
structure RefusedWhole (s : Task) (starts : List FactoryStart) (cause : Cause)
    (expectedVersion : Int) (edits : Value) (result : Task × GraphOp) : Prop where
  unchanged : ∃ row, result.1 = { s with calls := s.calls ++ [row] } ∧ row.tool = "apply_edits" ∧
    row.applied = false ∧ row.refusalCode = result.2.refusalCode
  malformed : decodeEdits edits = none → result.2.refusalCode = some "invalid_edits"
  named : ∀ batch, decodeEdits edits = some batch →
    s.NamesRefused starts cause expectedVersion batch result.2

variable {batch : List Edit}

lemma resolveBatchDeps_nodeKey {live : List String} {edit : Edit}
    (h : (resolveBatchDeps batch live)[index]? = some edit) :
    ∃ written, batch[index]? = some written ∧ edit.nodeKey = written.nodeKey ∧
      edit.isText = written.isText := by
  unfold resolveBatchDeps at h
  rw [getElem?_map] at h
  obtain ⟨written, hwritten, rfl⟩ := Option.map_eq_some_iff.mp h
  refine ⟨written, hwritten, ?_⟩
  cases written <;> exact ⟨rfl, rfl⟩

variable {args : Value} {expectedVersion : Int}

lemma applyEdits_applied (hne : batch ≠ [])
    (h : applyInOrder starts cause s expectedVersion (s.orderedBatch batch) = .ok (s', version)) :
    s.Applied starts cause expectedVersion batch
      (s'.finish "apply_edits" args expectedVersion { ok := true, version := some version }) := by
  obtain ⟨hexpected, hversion, rows, hrows, -, hnumbers⟩ := applyInOrder_versions h
  have hrun := applyInOrder_run h
  have hlen := s.orderedBatch_length batch
  rw [hlen] at hversion hnumbers
  refine ⟨hexpected fun hnil => hne ?_, congrArg some hversion, ⟨rows, hrows, hnumbers⟩, ?_,
    ⟨_, by rw [← hrun]; rfl⟩, fun v => by rw [← hrun]; rfl⟩
  · rw [hnil] at hlen
    exact length_eq_zero_iff.mp hlen.symm
  · have hperm := orderEdits_perm (resolveBatchDeps batch (s.live.map (·.nodeKey)))
    rwa [resolveBatchDeps_length] at hperm

/-- Where the loop stops. One that raises stops at an edit with a value that is no text. -/
lemma applyInOrder_stopsAt {answer : Option GraphOp}
    (h : applyInOrder starts cause s expectedVersion (s.orderedBatch batch) =
      .error (index, answer)) :
    ∃ written, s.StopsAt starts cause expectedVersion batch index written answer ∧
      (answer = none → written.isText = false) := by
  obtain ⟨before, edit, after, horder, hrefused, hop⟩ := applyInOrder_error h
  have hplace : (resolveBatchDeps batch (s.live.map (·.nodeKey)))[index]? = some edit := by
    refine (orderEdits_perm (resolveBatchDeps batch (s.live.map (·.nodeKey)))).2 (index, edit) ?_
    change (index, edit) ∈ s.orderedBatch batch
    rw [horder]
    exact mem_append_right _ mem_cons_self
  obtain ⟨written, hwritten, hkey, htext⟩ := resolveBatchDeps_nodeKey hplace
  refine ⟨written, ⟨hwritten, hrefused, before, edit, after, horder, hkey, hop.symm⟩,
    fun hnone => ?_⟩
  obtain ⟨-, -, -, hraised⟩ | ⟨hok, -⟩ := applyOneEdit_effect
    (s.run (editCalls starts cause expectedVersion before)) starts cause edit
    (expectedVersion + before.length)
  · rw [← htext, hraised (hop.symm.trans hnone)]
  · rw [← hop, hrefused] at hok
    cases hok

/-- An edit that adds a node without dependencies. -/
def plainAdd (nodeKey : String) (model : Value) : Value :=
  .dict [("deps", .list []), ("kind", .str "work"), ("max_attempts", .int 1),
    ("max_cost_usd", .int 1), ("model", model), ("node_key", .str nodeKey), ("op", .str "add_node"),
    ("prompt", .str "p"), ("turn_timeout_seconds", .int 60)]

end Task

end Homelab.Factory
