import Homelab.Factory.Plan
import Homelab.Lib.Search
import Mathlib.Data.List.Nodup

/-!
# Editing the plan graph

The semantic edits of `graph.py`: adding a node, discarding one, and renewing the attempt bound of a
failed one. Every edit holds the lock on the task row for its whole transaction, so an edit is a
function on `Task`.

An edit is a chain of guards and then one change. The guards are kept apart from the change
(`addNodeRefusal`, `discardNodeRefusal`): the first that fires gives the refusal, which is recorded
as a conductor call and changes nothing else. `graph.py` answers a refusal as a `GraphOp`; only
`renew_funded_attempt` raises, and an edit whose `model` or `stated_reason` is no text: its columns
do not take the value, and the transaction is given up. Sources without a file name are in
`graph.py`.
-/

namespace Homelab.Factory

open Homelab.Lib List

/-- Source: `GraphOp` -/
structure GraphOp where
  ok : Bool
  version : Option Int := none
  refusalCode : Option String := none
  detail : Option String := none
  attempt : Option Nat := none
  pin : Option Pin := none
  deriving DecidableEq

/-- Why an operation is refused. -/
structure Refusal where
  code : String
  detail : Option String := none
  deriving DecidableEq

/-- `if condition: return refuse(code, detail)` -/
def refuseIf (condition : Bool) (code : String) (detail : Option String := none) : Option Refusal :=
  if condition then some ⟨code, detail⟩ else none

@[simp] lemma refuseIf_eq_none {condition : Bool} {code : String} {detail : Option String} :
    refuseIf condition code detail = none ↔ condition = false := by
  cases condition <;> simp [refuseIf]

/-! ## Bounds -/

/-- Source: `execution/__init__.py`, `EFFORT_LEVELS` -/
def effortLevels : List String := ["low", "medium", "high", "xhigh", "max"]

def nodeKinds : List String := ["work", "gate", "merge", "fable_escalation"]

def maxAttemptsCeiling : Nat := 10

def maxFundingRetries : Nat := 2

def maxTurnTimeoutSeconds : Nat := 43200

/-- Source: `_bounds_error` -/
def boundsError (fields : NodeFields) : Option Refusal :=
  refuseIf (fields.effort ≠ .null ∧ fields.effort ∉ effortLevels.map .str) "invalid_effort"
  <|> refuseIf (!fields.maxCostUsd.validCost) "invalid_node_budget"
  <|> refuseIf (!fields.maxAttempts.validBound maxAttemptsCeiling) "invalid_max_attempts"
  <|> refuseIf (!fields.turnTimeoutSeconds.validBound maxTurnTimeoutSeconds) "invalid_turn_timeout"

/-! ## Recording -/

namespace Task

variable (s : Task)

/-- Source: `_finish` -/
def finish (tool : String) (args : Value) (versionBefore : Int) (result : GraphOp) :
    Task × GraphOp :=
  ({ s with calls := s.calls ++ [{
      conductorModel := s.conductorModel
      tool := tool
      args := args.auditValue
      applied := result.ok
      refusalCode := result.refusalCode
      versionBefore := versionBefore
      versionAfter := result.version }] }, result)

/-- Source: `_refuse` -/
def refuse (tool : String) (args : Value) (refusal : Refusal) : Task × GraphOp :=
  s.finish tool args s.currentVersion
    { ok := false, version := some s.currentVersion, refusalCode := some refusal.code,
      detail := refusal.detail }

/-! ## Adding a node -/

/-- Source: `_would_cycle` -/
def wouldCycle (nodeKey : String) (deps : List String) (live : List PlanNode) : Bool :=
  let next := fun key => (live.find? (·.nodeKey = key)).elim [] (·.deps)
  stackSearch next nodeKey (searchFuel next (live.map (·.nodeKey)) deps.reverse [] + 1)
    deps.reverse []

/-- Source: `_fable_ever_created` -/
def fableEverCreated : Bool :=
  s.nodes.any (·.kind = "fable_escalation") ||
    s.versions.any fun row =>
      match row.change with
      | .addNode fields => fields.kind = "fable_escalation"
      | _ => false

/-- A run from before reservations were pinned may still charge the ceiling of this row. -/
def legacyReservation (nodeKey : String) : Bool :=
  s.runs.any fun run =>
    run.nodeKey = nodeKey ∧ run.reservedCostUsd = .null ∧ run.accountingBasis.settled = false

/-- The guards of `_add_node_locked`, in its order. -/
def addNodeRefusal (expectedVersion : Int) (fields : NodeFields) : Option Refusal :=
  let liveKey := fun key => (s.liveNode key).isSome
  refuseIf (expectedVersion ≠ s.currentVersion) "stale_version"
  <|> boundsError fields
  <|> refuseIf (s.budgetUsd ≠ .null && !s.budgetUsd.validCost) "invalid_task_budget"
  <|> refuseIf (liveKey fields.nodeKey) "duplicate_key"
  <|> refuseIf (fields.deps.any (!liveKey ·)) "unknown_dep" (fields.deps.find? (!liveKey ·))
  <|> refuseIf (wouldCycle fields.nodeKey fields.deps s.live) "cycle"
  <|> refuseIf (fields.kind ∉ nodeKinds) "invalid_kind"
  <|> refuseIf (fields.kind = "fable_escalation" ∧ s.budgetUsd = .null) "fable_requires_budget"
  -- a discarded escalation does not refund the slot
  <|> refuseIf (fields.kind = "fable_escalation" ∧ s.fableEverCreated) "fable_cap"
  <|> refuseIf ((s.row fields.nodeKey).any fun existing =>
        existing.maxCostUsd.norm ≠ fields.maxCostUsd.norm && s.legacyReservation fields.nodeKey)
      "legacy_reservation_conflict"

lemma addNodeRefusal_eq_none {s : Task} {expectedVersion : Int} {fields : NodeFields}
    (h : s.addNodeRefusal expectedVersion fields = none) :
    expectedVersion = s.currentVersion ∧ (s.liveNode fields.nodeKey).isSome = false ∧
      ∀ dep ∈ fields.deps, (s.liveNode dep).isSome = true := by
  simp only [addNodeRefusal, Option.orElse_eq_orElse, Option.orElse_eq_or,
    Option.or_eq_none_iff, refuseIf_eq_none] at h
  obtain ⟨hversion, _, _, hkey, hdeps, _⟩ := h
  refine ⟨by simpa using hversion, hkey, fun dep hdep => ?_⟩
  have hlive := any_eq_false.mp hdeps dep hdep
  rwa [Bool.not_eq_true', Bool.not_eq_false] at hlive

/-- The row an add writes, over the old row of its key or as a new one. -/
def newRow (fields : NodeFields) (version : Nat) : PlanNode :=
  { fields.stored with
    createdInVersion := version
    discardedInVersion := none
    cancelledInVersion := none
    armedAt := none
    baseArtifactSha := none }

/-- Keys are unique per task: a key that has a row keeps its place. -/
def putNode (nodes : List PlanNode) (node : PlanNode) : List PlanNode :=
  if nodes.any (·.nodeKey = node.nodeKey) then
    nodes.map fun old => if old.nodeKey = node.nodeKey then node else old
  else nodes ++ [node]

lemma mem_putNode {nodes : List PlanNode} {node other : PlanNode} : other ∈ putNode nodes node ↔
      other = node ∨ (other ∈ nodes ∧ other.nodeKey ≠ node.nodeKey) := by
  unfold putNode
  split_ifs with hany
  · obtain ⟨old, hold, hkey⟩ := any_eq_true.mp hany
    rw [mem_map]
    constructor
    · rintro ⟨n, hn, rfl⟩
      split_ifs with hn'
      · exact .inl rfl
      · exact .inr ⟨hn, hn'⟩
    · rintro (rfl | ⟨hmem, hne⟩)
      · exact ⟨old, hold, if_pos (by simpa using hkey)⟩
      · exact ⟨other, hmem, if_neg hne⟩
  · have hnone : ∀ n ∈ nodes, n.nodeKey ≠ node.nodeKey := by simpa using hany
    rw [mem_append, mem_singleton]
    constructor
    · rintro (hmem | rfl)
      · exact .inr ⟨hmem, hnone other hmem⟩
      · exact .inl rfl
    · rintro (rfl | ⟨hmem, -⟩)
      · exact .inr rfl
      · exact .inl hmem

/-- Writing a row keeps keys unique. -/
lemma putNode_keys {nodes : List PlanNode} (h : (nodes.map (·.nodeKey)).Nodup) (node : PlanNode) :
    ((putNode nodes node).map (·.nodeKey)).Nodup := by
  unfold putNode
  split_ifs with hany
  · have hsame : (nodes.map fun old => if old.nodeKey = node.nodeKey then node else old).map
        (·.nodeKey) = nodes.map (·.nodeKey) := by
      rw [map_map]
      refine map_congr_left fun old _ => ?_
      change (if old.nodeKey = node.nodeKey then node else old).nodeKey = old.nodeKey
      split_ifs with hkey
      · exact hkey.symm
      · rfl
    rw [hsame]
    exact h
  · rw [map_append]
    refine h.append (nodup_singleton _) fun key hkey hnew => ?_
    obtain ⟨old, hold, rfl⟩ := mem_map.mp hkey
    exact hany (any_eq_true.mpr ⟨old, hold, by simpa using hnew⟩)

/-- The next plan version. -/
def record (s : Task) (change : Change) (cause : Cause) : Task :=
  { s with versions := s.versions ++ [⟨s.currentVersion + 1, change, cause⟩] }

end Task

/-- The arguments an add is recorded with. -/
def addNodeArgs (cause : Cause) (expectedVersion : Int) (fields : NodeFields) : Value :=
  .dict [("author", .str cause.author), ("author_kind", .str cause.authorKind),
    ("cause_kind", .str cause.causeKind), ("cause_ref", .ofStr cause.causeRef),
    ("deps", .list (fields.deps.map .str)), ("effort", fields.effort),
    ("expected_version", .int expectedVersion), ("kind", .str fields.kind),
    ("max_attempts", fields.maxAttempts), ("max_cost_usd", fields.maxCostUsd),
    ("model", fields.model), ("node_key", .str fields.nodeKey), ("prompt", .str fields.prompt),
    ("side_effects", .bool fields.sideEffects), ("stated_reason", cause.statedReason),
    ("turn_timeout_seconds", fields.turnTimeoutSeconds)]

namespace Task

/-- The plan after an add; the ledger keeps the fields as they came. -/
def withNode (s : Task) (cause : Cause) (fields : NodeFields) : Task :=
  { s.record (.addNode fields) cause with
    nodes := putNode s.nodes (newRow fields (s.currentVersion + 1)) }

/-- What a transaction leaves, and its answer. One that raises is rolled back and has none. -/
def answered (done : Task × GraphOp) : Task × Option GraphOp := (done.1, some done.2)

/-- The transaction raises unless the columns take what it writes. -/
def commit (s : Task) (takes : Bool) (done : Task × GraphOp) : Task × Option GraphOp :=
  if takes then answered done else (s, none)

/-- Source: `add_node` and `_add_node_locked` -/
def addNode (s : Task) (cause : Cause) (expectedVersion : Int) (fields : NodeFields) :
    Task × Option GraphOp :=
  let args := addNodeArgs cause expectedVersion fields
  match s.addNodeRefusal expectedVersion fields with
  | some refusal => answered (s.refuse "add_node" args refusal)
  | none => s.commit (fields.model.isText && cause.statedReason.isText)
    ((s.withNode cause fields).finish "add_node" args s.currentVersion
      { ok := true
        version := some (s.currentVersion + 1)
        detail := if s.budgetUsd = .null then some "unbudgeted run" else none })

end Task

/-! ## Discarding a node -/

/-- The status of a start of the factory. -/
inductive StartStatus where
  | reserved | succeeded | failed | uncertain | cancelled
  deriving DecidableEq, Repr

def StartStatus.text : StartStatus → String
  | reserved => "reserved"
  | succeeded => "succeeded"
  | failed => "failed"
  | uncertain => "uncertain"
  | cancelled => "cancelled"

/-- A row of the start ledger, another component's table: what the discard reads of it.
Source: `factory_models.py`, `FactoryStart` -/
structure FactoryStart where
  startKey : String
  status : StartStatus
  deriving DecidableEq

def armedRepair : String :=
  "wait for it to settle, or add a replacement node under a new node_key " ++
    "and leave this one in place; do not re-propose this discard"

/-- The first of the runs with the least attempt number. -/
def firstAttempt : List NodeRun → Option NodeRun
  | [] => none
  | run :: runs =>
    match firstAttempt runs with
    | some other => if other.attempt < run.attempt then some other else some run
    | none => some run

namespace Task

variable (s : Task) (starts : List FactoryStart) (nodeKey : String)

/-- Source: `_unsettled_reason` -/
def unsettledReason (node : PlanNode) : Option String :=
  let runs := s.runsOf node.nodeKey
  let keys := runs.filterMap fun run => run.dispatchKey.filter (· ≠ "")
  if runs.isEmpty then
    if node.armedAt.isNone then none
    else some (node.nodeKey ++ " is armed without a settled attempt; " ++ armedRepair)
  else
    match firstAttempt (runs.filter (!·.status.terminal)) with
    | some run =>
      some (node.nodeKey ++ " attempt " ++ toString run.attempt ++ " is " ++ run.status.text ++
        "; " ++ armedRepair)
    | none =>
      if runs.any (·.status = .succeeded) then
        some (node.nodeKey ++ " succeeded and its result stands; it is not pending " ++
          "work, so add any follow-up under a new node_key instead")
      else
        (starts.find? fun start =>
          start.startKey ∈ keys ∧ (start.status = .reserved ∨ start.status = .uncertain)).map
          fun start => node.nodeKey ++ " has an unresolved start (" ++ start.status.text ++ "); " ++
            armedRepair

/-- The live nodes that depend on a key. -/
def dependents : List PlanNode :=
  s.live.filter (nodeKey ∈ ·.deps)

/-- The feedback of a discard that live dependents block: at most ten of them, by key. -/
def dependentsDetail : String :=
  let sorted := (s.dependents nodeKey).mergeSort fun a b => !decide (b.nodeKey < a.nodeKey)
  let blockers := (sorted.take 10).map fun other =>
    let state := match s.unsettledReason starts other with
      | some protection => "protected: " ++ clip protection 160
      | none => "inactive"
    clip other.nodeKey 128 ++ " (" ++ state ++ ")"
  let omitted := sorted.length - blockers.length
  "dependent nodes: " ++ ", ".intercalate blockers ++
    (if omitted = 0 then "" else "; " ++ toString omitted ++ " more omitted") ++
    "; retire only eligible obsolete dependents first in one atomic plan, " ++
    "then this node; preserve required dependencies and uncertain work"

/-- The guards of `_discard_node_locked`, in its order. -/
def discardNodeRefusal (expectedVersion : Int) (observedBranchHead : Value)
    (activitiesClaimWrite : Bool) : Option Refusal :=
  let node := s.liveNode nodeKey
  refuseIf (expectedVersion ≠ s.currentVersion) "stale_version"
  <|> refuseIf node.isNone "unknown_node"
  <|> (node.bind (s.unsettledReason starts)).map (fun reason => ⟨"armed", some reason⟩)
  <|> refuseIf (node.any fun node => node.baseArtifactSha.any fun sha =>
        observedBranchHead ≠ .null && observedBranchHead ≠ .str sha) "branch_moved"
  -- an agent's claim can only force a refusal, it cannot prove that discarding is safe
  <|> refuseIf activitiesClaimWrite "write_claimed"
  <|> refuseIf (!(s.dependents nodeKey).isEmpty) "dependents" (s.dependentsDetail starts nodeKey)

end Task

namespace Task

lemma discardNodeRefusal_eq_none {s : Task} {starts : List FactoryStart} {nodeKey : String}
    {expectedVersion : Int} {observedBranchHead : Value} {activitiesClaimWrite : Bool}
    (h : s.discardNodeRefusal starts nodeKey expectedVersion observedBranchHead
      activitiesClaimWrite = none) :
    expectedVersion = s.currentVersion ∧ (s.liveNode nodeKey).isSome = true ∧
      ∀ other ∈ s.live, nodeKey ∉ other.deps := by
  simp only [discardNodeRefusal, Option.orElse_eq_orElse, Option.orElse_eq_or,
    Option.or_eq_none_iff,
    refuseIf_eq_none] at h
  obtain ⟨hversion, hnode, _, _, _, hdependents⟩ := h
  refine ⟨by simpa using hversion, by simpa using hnode, fun other hother hdep => ?_⟩
  have hmem : other ∈ s.dependents nodeKey := mem_filter.mpr ⟨hother, by simpa using hdep⟩
  have hnone : s.dependents nodeKey = [] := by simpa using hdependents
  exact absurd (hnone ▸ hmem) not_mem_nil

end Task

/-- The arguments a discard is recorded with. -/
def discardNodeArgs (cause : Cause) (nodeKey : String) (expectedVersion : Int)
    (observedBranchHead : Value) (activitiesClaimWrite : Bool) : Value :=
  .dict [("activities_claim_write", .bool activitiesClaimWrite), ("author", .str cause.author),
    ("author_kind", .str cause.authorKind), ("cause_kind", .str cause.causeKind),
    ("cause_ref", .ofStr cause.causeRef), ("expected_version", .int expectedVersion),
    ("node_key", .str nodeKey), ("observed_branch_head", observedBranchHead),
    ("stated_reason", cause.statedReason)]

namespace Task

/-- The plan after a discard; the ledger keeps the node as the graph showed it. -/
def withoutNode (s : Task) (cause : Cause) (nodeKey : String) : Task :=
  let snapshot := (s.loadGraph none).find? (·.nodeKey = nodeKey)
  { s.record (.discardNode nodeKey snapshot) cause with
    nodes := s.nodes.map fun node =>
      if node.nodeKey = nodeKey then { node with discardedInVersion := some (s.currentVersion + 1) }
      else node }

/-- Source: `discard_node` and `_discard_node_locked` -/
def discardNode (s : Task) (starts : List FactoryStart) (cause : Cause) (nodeKey : String)
    (expectedVersion : Int) (observedBranchHead : Value) (activitiesClaimWrite : Bool) :
    Task × Option GraphOp :=
  let args := discardNodeArgs cause nodeKey expectedVersion observedBranchHead activitiesClaimWrite
  match s.discardNodeRefusal starts nodeKey expectedVersion observedBranchHead
      activitiesClaimWrite with
  | some refusal => answered (s.refuse "discard_node" args refusal)
  | none => s.commit cause.statedReason.isText
    ((s.withoutNode cause nodeKey).finish "discard_node" args s.currentVersion
      { ok := true, version := some (s.currentVersion + 1) })

end Task

/-! ## Renewing an attempt bound -/

/-- The failed node a funding decision names. -/
structure FundingTarget where
  nodeKey : String
  node : GraphNode
  sourceRunId : Nat
  deriving DecidableEq

def fundingCause (requestId : Nat) : Cause where
  authorKind := "engine"
  author := "factory:funding"
  causeKind := "factory_conductor"
  causeRef := some ("funding:" ++ toString requestId)
  statedReason := .str "One evidence-bound funded retry of the same failed node"

def Renewal.args (renewal : Renewal) : Value :=
  .dict [("after", renewal.after), ("before", renewal.before),
    ("created_in_version", .int renewal.createdInVersion), ("node_key", .str renewal.nodeKey),
    ("request_id", .int renewal.requestId), ("source_run_id", .int renewal.sourceRunId)]

namespace Task

variable (s : Task) (target : FundingTarget)

/-- The renewals of the task so far. -/
def renewals : Nat :=
  s.versions.countP fun row =>
    match row.change with
    | .renewNodeAttempt _ => true
    | _ => false

/-- The evidence a funded retry needs: the node as the judge saw it, all of whose attempts failed,
the last of them the one judged, with its bound used up. -/
def renewable (expectedVersion : Int) (node : PlanNode) : Bool :=
  let prior := s.runsOf target.nodeKey
  expectedVersion = s.currentVersion && node.nodeFields = target.node && node.kind = "work" &&
    !"conductor_".toList.isPrefixOf node.nodeKey.toList && !prior.isEmpty &&
    prior.all (·.status = .failed) && (prior.map (·.id)).max? = some target.sourceRunId &&
    node.maxAttempts = .int (spentAttempts prior) &&
    spentAttempts prior < maxAttemptsCeiling && s.renewals < maxFundingRetries &&
    s.runs.all (·.status.terminal)

/-- The renewal the ledger records. -/
def renewalOf (requestId : Nat) (node : PlanNode) : Renewal where
  nodeKey := node.nodeKey
  createdInVersion := node.createdInVersion
  before := node.maxAttempts
  after := .int (spentAttempts (s.runsOf target.nodeKey) + 1)
  sourceRunId := target.sourceRunId
  requestId := requestId

/-- The plan after a renewal. -/
def withRenewal (renewal : Renewal) : Task :=
  { s.record (.renewNodeAttempt renewal) (fundingCause renewal.requestId) with
    nodes := s.nodes.map fun node =>
      if node.nodeKey = renewal.nodeKey then { node with maxAttempts := renewal.after } else node }

/-- Source: `renew_funded_attempt` -/
def renewFundedAttempt (expectedVersion : Int) (requestId : Nat) : Task × Except String Renewal :=
  match (s.liveNode target.nodeKey).filter (s.renewable target expectedVersion) with
  | none => (s, .error "funding_retry_evidence_changed")
  | some node =>
    let renewal := s.renewalOf target requestId node
    (((s.withRenewal renewal).finish "renew_node_attempt" renewal.args s.currentVersion
      { ok := true, version := some (s.currentVersion + 1) }).1, .ok renewal)

end Task

end Homelab.Factory
