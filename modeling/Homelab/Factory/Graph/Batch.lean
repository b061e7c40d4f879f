import Homelab.Factory.Graph
import Homelab.Lib.Table
import Homelab.Lib.Toposort

/-!
# Applying a batch of plan edits

`apply_edits` of `graph.py`: the edits of one decision are checked for shape, their dependency names
resolved against the keys the server minted, put in dependency order, and applied one after the
other, each as its own plan version. A refused edit abandons the batch: the savepoint is rolled
back, so everything the earlier edits wrote is gone, the refused edit's own conductor call with it,
and one refusal of the batch is recorded afterwards. An edit that raises takes the call with it:
only refusals are caught.
-/

namespace Homelab.Factory

open Homelab.Lib List

def maxPlanEdits : Nat := 20

/-- A well-formed edit. `rawNodeKey` is the key its author wrote, before the server prefixed it. -/
inductive Edit where
  | addNode (rawNodeKey statedReason : Value) (fields : NodeFields)
  | discardNode (nodeKey : String) (statedReason observedBranchHead : Value)
      (activitiesClaimWrite : Bool)
  deriving DecidableEq

namespace Edit

def nodeKey : Edit → String
  | .addNode _ _ fields => fields.nodeKey
  | .discardNode nodeKey _ _ _ => nodeKey

/-- The text columns take what the edit writes to them. -/
def isText : Edit → Bool
  | .addNode _ statedReason fields => fields.model.isText && statedReason.isText
  | .discardNode _ statedReason _ _ => statedReason.isText

/-- The key an add creates. -/
def added : Edit → Option String
  | .addNode _ _ fields => some fields.nodeKey
  | .discardNode .. => none

def deps : Edit → List String
  | .addNode _ _ fields => fields.deps
  | .discardNode .. => []

end Edit

/-! ## Shape -/

/-- The strings of a list of strings. -/
def strings : Value → Option (List String)
  | .list items => items.mapM Value.asStr
  | _ => none

/-- One edit of the batch; `none` where `_edits_error` refuses it. The fields `_apply_one_edit`
reads by `edit.get` are read here. -/
def decodeEdit (edit : Value) : Option Edit :=
  match (edit.get "op").asStr, (edit.get "node_key").asStr with
  | some op, some nodeKey =>
    if nodeKey = "" then none
    else if op = "discard_node" then
      some (.discardNode nodeKey (edit.get "stated_reason") (edit.get "observed_branch_head")
        (edit.get "activities_claim_write").truthy)
    else if op = "add_node" then
      match (edit.get "prompt").asStr, (edit.get "kind").asStr, strings (edit.get "deps") with
      | some prompt, some kind, some deps =>
        some (.addNode (edit.get "raw_node_key") (edit.get "stated_reason")
          { nodeKey := nodeKey, kind := kind, prompt := prompt, model := edit.get "model"
            effort := edit.get "effort", deps := deps, maxCostUsd := edit.get "max_cost_usd"
            sideEffects := (edit.get "side_effects").truthy
            maxAttempts := edit.get "max_attempts"
            turnTimeoutSeconds := edit.get "turn_timeout_seconds" })
      | _, _, _ => none
    else none
  | _, _ => none

/-- Source: `graph.py`, `_edits_error` -/
def decodeEdits : Value → Option (List Edit)
  | .list edits =>
    if 1 ≤ edits.length ∧ edits.length ≤ maxPlanEdits then edits.mapM decodeEdit else none
  | _ => none

variable {batch : List Edit}

lemma decodeEdits_ne_nil {edits : Value} (h : decodeEdits edits = some batch) : batch ≠ [] := by
  rintro rfl
  unfold decodeEdits at h
  split at h
  · rename_i items
    split_ifs at h with hlen
    cases items with
    | nil => exact absurd hlen.1 (by decide)
    | cons item items =>
      rw [mapM_cons] at h
      obtain ⟨edit, -, h⟩ := Option.bind_eq_some_iff.mp h
      obtain ⟨rest, -, h⟩ := Option.bind_eq_some_iff.mp h
      cases h
  · cases h

/-! ## Names -/

/-- The keys the batch adds. -/
def addedKeys (edits : List Edit) : List String := edits.filterMap Edit.added

/-- Note the author's key of one edit. A key two edits claim stands for neither. -/
def noteAlias (live final : List String) (aliases : Table String (Option String)) (edit : Edit) :
    Table String (Option String) :=
  match edit with
  | .addNode (.str raw) _ fields =>
    if raw ≠ "" ∧ raw ≠ fields.nodeKey ∧ raw ∉ live ∧ raw ∉ final then
      aliases.insert raw (if (aliases.lookup raw).isSome then none else some fields.nodeKey)
    else aliases
  | _ => aliases

/-- The key a dependency stands for. -/
def resolveDep (live final : List String) (aliases : Table String (Option String)) (dep : String) :
    String :=
  if dep ∉ live ∧ dep ∉ final then ((aliases.lookup dep).join).getD dep else dep

/-- Source: `graph.py`, `_resolve_batch_deps` -/
def resolveBatchDeps (edits : List Edit) (live : List String) : List Edit :=
  let final := addedKeys edits
  let aliases := edits.foldl (noteAlias live final) ∅
  edits.map fun edit =>
    match edit with
    | .addNode raw reason fields =>
      .addNode raw reason { fields with deps := fields.deps.map (resolveDep live final aliases) }
    | .discardNode .. => edit

variable (edits : List Edit)

lemma resolveBatchDeps_length (live : List String) :
    (resolveBatchDeps edits live).length = edits.length := length_map ..

/-! ## Order -/

/-- Source: `graph.py`, `link` in `_order_edits` -/
def link (edges : List (Nat × Nat)) (before after : Nat) : List (Nat × Nat) :=
  if before ≠ after ∧ (before, after) ∉ edges then edges ++ [(before, after)] else edges

/-- The first edit that adds a key. -/
def producer (key : String) : Option Nat :=
  (edits.zipIdx.find? fun indexed => indexed.1.added = some key).map Prod.snd

/-- The links into one edit: from the last edit before it that touches its key, and from the adds of
its dependencies. -/
def linkEdit (st : List (Nat × Nat) × List (String × Nat))
    (indexed : Edit × Nat) : List (Nat × Nat) × List (String × Nat) :=
  let (edges, lastTouch) := st
  let (edit, index) := indexed
  let edges := (lastTouch.lookup edit.nodeKey).elim edges (link edges · index)
  (edit.deps.foldl (fun edges dep => (producer edits dep).elim edges (link edges · index)) edges,
    (edit.nodeKey, index) :: lastTouch)

/-- All links of a batch. -/
def links : List (Nat × Nat) :=
  (edits.zipIdx.foldl (linkEdit edits) ([], [])).1

/-- The edits with their places in the author's list, in the order they are applied. A batch that
cannot be ordered keeps the author's order. Source: `graph.py`, `_order_edits` -/
def orderEdits : List (Nat × Edit) :=
  let order := toposort (range edits.length) (links edits)
  if order.length ≠ edits.length then edits.zipIdx.map Prod.swap
  else order.filterMap fun index => edits[index]?.map (index, ·)

/-- Every edge is listed once and leads to an edit of the batch. -/
def LinksInto (n : Nat) (edges : List (Nat × Nat)) : Prop :=
  edges.Nodup ∧ ∀ e ∈ edges, e.2 < n

variable {edges : List (Nat × Nat)} {after n : Nat}

lemma LinksInto.link (h : LinksInto n edges) (before : Nat) (hafter : after < n) :
    LinksInto n (link edges before after) := by
  unfold Factory.link
  split_ifs with hnew
  · refine ⟨h.1.append (nodup_singleton _) ?_, fun e he => ?_⟩
    · intro e he hnewEdge
      rw [mem_singleton.mp hnewEdge] at he
      exact hnew.2 he
    · rcases mem_append.mp he with he | he
      · exact h.2 e he
      · rw [mem_singleton.mp he]
        exact hafter
  · exact h

/-- A link from whatever source there is, if there is one. -/
lemma LinksInto.linkFrom (h : LinksInto n edges) (before : Option Nat) (hafter : after < n) :
    LinksInto n (before.elim edges (Factory.link edges · after)) := by
  cases before with
  | none => exact h
  | some before => exact h.link before hafter

lemma linkEdit_linksInto {st : List (Nat × Nat) × List (String × Nat)} (h : LinksInto n st.1)
    {indexed : Edit × Nat} (hindex : indexed.2 < n) :
    LinksInto n (linkEdit edits st indexed).1 := by
  -- first the link from the last touch, then one for each dependency
  have htouch := h.linkFrom (st.2.lookup indexed.1.nodeKey) hindex
  exact foldlRecOn (motive := LinksInto n) indexed.1.deps _ htouch
    fun edges hedges dep _ => hedges.linkFrom (producer edits dep) hindex

lemma links_linksInto : LinksInto edits.length (links edits) := by
  refine foldlRecOn
    (motive := fun st : List (Nat × Nat) × List (String × Nat) => LinksInto edits.length st.1)
    edits.zipIdx _ ⟨nodup_nil, fun e he => absurd he not_mem_nil⟩ ?_
  intro st hst indexed hmem
  exact linkEdit_linksInto edits hst (by simpa using snd_lt_of_mem_zipIdx hmem)

lemma links_inside : ∀ e ∈ links edits, e.2 ∈ range edits.length :=
  fun e he => mem_range.mpr ((links_linksInto edits).2 e he)

/-- What the loop puts out, if it puts out all. -/
lemma orderEdits_places
    (hlen : (toposort (range edits.length) (links edits)).length = edits.length) :
    (orderEdits edits).map Prod.fst = toposort (range edits.length) (links edits) := by
  have hsubset := toposort_subset nodup_range (links_linksInto edits).1 (links_inside edits)
  unfold orderEdits
  rw [if_neg (not_not.mpr hlen), map_filterMap]
  refine (filterMap_congr fun index hindex => ?_).trans filterMap_some
  have hlt : index < edits.length := mem_range.mp (hsubset hindex)
  rw [getElem?_eq_getElem hlt]
  rfl

lemma zipIdx_places : (edits.zipIdx.map Prod.swap).map Prod.fst = range edits.length := by
  rw [map_map, range_eq_range', ← zipIdx_map_snd 0 edits]
  rfl

lemma zipIdx_read : ∀ indexed ∈ edits.zipIdx.map Prod.swap, edits[indexed.1]? = some indexed.2 := by
  intro indexed hmem
  obtain ⟨⟨edit, index⟩, hplace, rfl⟩ := mem_map.mp hmem
  simpa using mk_mem_zipIdx_iff_getElem?.mp hplace

/-- **A batch loses no edit and doubles none**: the order lists every place of the author's list
once, each with the edit that stands there. -/
theorem orderEdits_perm : ((orderEdits edits).map Prod.fst).Perm (range edits.length) ∧
      ∀ indexed ∈ orderEdits edits, edits[indexed.1]? = some indexed.2 := by
  constructor
  · by_cases hlen : (toposort (range edits.length) (links edits)).length = edits.length
    · rw [orderEdits_places edits hlen]
      exact toposort_perm nodup_range (links_linksInto edits).1 (links_inside edits)
        (by simpa using hlen)
    · have horder : orderEdits edits = edits.zipIdx.map Prod.swap := if_pos hlen
      rw [horder, zipIdx_places]
  · intro indexed hmem
    unfold orderEdits at hmem
    dsimp only at hmem
    split_ifs at hmem
    · exact zipIdx_read edits indexed hmem
    · obtain ⟨index, -, heq⟩ := mem_filterMap.mp hmem
      obtain ⟨edit, hedit, rfl⟩ := Option.map_eq_some_iff.mp heq
      exact hedit

lemma orderEdits_length : (orderEdits edits).length = edits.length := by
  simpa using (orderEdits_perm edits).1.length_eq

/-! ## Applying -/

namespace Task

/-- Source: `graph.py`, `_apply_one_edit` -/
def applyOneEdit (s : Task) (starts : List FactoryStart) (cause : Cause) (edit : Edit)
    (expectedVersion : Int) : Task × Option GraphOp :=
  match edit with
  | .discardNode nodeKey statedReason observedBranchHead activitiesClaimWrite =>
    s.discardNode starts { cause with statedReason } nodeKey expectedVersion observedBranchHead
      activitiesClaimWrite
  | .addNode _ statedReason fields =>
    s.addNode { cause with statedReason } expectedVersion fields

/-- The loop of `apply_edits`: each edit is checked against the version its predecessor made. It
ends at the first edit that is refused, or that raises (`none`). -/
def applyInOrder (starts : List FactoryStart) (cause : Cause) :
    Task → Int → List (Nat × Edit) → Except (Nat × Option GraphOp) (Task × Int)
  | s, version, [] => .ok (s, version)
  | s, version, (index, edit) :: rest =>
    let (s', result) := s.applyOneEdit starts cause edit version
    if result.any (·.ok) then
      applyInOrder starts cause s' ((result.bind (·.version)).getD version) rest
    else .error (index, result)

lemma applyInOrder_cons (starts : List FactoryStart) (cause : Cause) (s : Task) (version : Int)
    (indexed : Nat × Edit) (rest : List (Nat × Edit)) :
    applyInOrder starts cause s version (indexed :: rest) =
      if (s.applyOneEdit starts cause indexed.2 version).2.any (·.ok) then
        applyInOrder starts cause (s.applyOneEdit starts cause indexed.2 version).1
          (((s.applyOneEdit starts cause indexed.2 version).2.bind (·.version)).getD version) rest
      else .error (indexed.1, (s.applyOneEdit starts cause indexed.2 version).2) := rfl

end Task

/-- `recorded[key] = value` on a dict. -/
def setItem (key : String) (value : Value) : List (String × Value) → List (String × Value)
  | [] => [(key, value)]
  | (k, v) :: items =>
    if key < k then (key, value) :: (k, v) :: items
    else if key = k then (key, value) :: items
    else (k, v) :: setItem key value items

/-- Source: `graph.py`, `_plan_edit_args` -/
def planEditArgs (edit : Value) : Value :=
  match edit with
  | .dict items =>
    let recorded := items.filter (·.1 ≠ "prompt")
    match (edit.get "prompt").asStr with
    | some prompt => .dict (setItem "prompt_chars" (.int prompt.length) recorded)
    | none => .dict recorded
  | _ => edit.auditValue

/-- The arguments a batch is recorded with. -/
def applyEditsArgs (cause : Cause) (expectedVersion : Int) (edits : Value) : Value :=
  .dict [("author", .str cause.author), ("author_kind", .str cause.authorKind),
    ("cause_kind", .str cause.causeKind), ("cause_ref", .ofStr cause.causeRef),
    ("edits", match edits with
      | .list items => .list (items.map planEditArgs)
      | _ => edits.auditValue),
    ("expected_version", .int expectedVersion)]

/-- How a refusal names the edit that caused it. -/
def namesEdit (index : Nat) (nodeKey : String) : String :=
  "edit " ++ toString index ++ " (" ++ nodeKey ++ "): "

/-- The refusal of a batch one edit of which was refused. -/
def batchRefusal (batch : List Edit) (index : Nat) (op : GraphOp) : Refusal :=
  let rejection := op.refusalCode.getD "graph_refused"
  ⟨rejection, some (namesEdit index ((batch[index]?).elim "None" Edit.nodeKey) ++ rejection ++
    op.detail.elim "" fun detail => " (" ++ detail ++ ")")⟩

lemma batchRefusal_detail {index : Nat} {edit : Edit} (h : batch[index]? = some edit)
    (op : GraphOp) : ∃ rest,
      (batchRefusal batch index op).detail = some (namesEdit index edit.nodeKey ++ rest) := by
  refine ⟨op.refusalCode.getD "graph_refused" ++
    op.detail.elim "" fun detail => " (" ++ detail ++ ")", ?_⟩
  rw [batchRefusal, h, ← String.append_assoc]
  rfl

def invalidEdits : Refusal :=
  ⟨"invalid_edits", some "plan edits are not a bounded list of graph operations"⟩

/-- The edits of a batch as they are applied to the plan: names resolved, in order. -/
def Task.orderedBatch (s : Task) (batch : List Edit) : List (Nat × Edit) :=
  orderEdits (resolveBatchDeps batch (s.live.map (·.nodeKey)))

lemma Task.orderedBatch_length (s : Task) (batch : List Edit) :
    (s.orderedBatch batch).length = batch.length := by
  rw [Task.orderedBatch, orderEdits_length, resolveBatchDeps_length]

/-- Source: `graph.py`, `apply_edits` -/
def Task.applyEdits (s : Task) (starts : List FactoryStart) (cause : Cause) (expectedVersion : Int)
    (edits : Value) : Task × Option GraphOp :=
  let args := applyEditsArgs cause expectedVersion edits
  match decodeEdits edits with
  | none => Task.answered (s.refuse "apply_edits" args invalidEdits)
  | some batch =>
    match Task.applyInOrder starts cause s expectedVersion (s.orderedBatch batch) with
    | .ok (s', version) => Task.answered
      (s'.finish "apply_edits" args expectedVersion { ok := true, version := some version })
    -- the savepoint is rolled back, so the refusal is recorded on the plan as it was
    | .error (index, some op) =>
      Task.answered (s.refuse "apply_edits" args (batchRefusal batch index op))
    | .error (_, none) => (s, none)

end Homelab.Factory
