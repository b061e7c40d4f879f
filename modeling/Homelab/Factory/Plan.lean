import Homelab.Factory.Value

/-!
# The tables of a swarm task

`models.py` and the reading half of `graph.py`: the plan rows of one task, the version ledger beside
them, the dispatch ledger, and the conductor calls. A `Task` is everything the database holds about
one task id; rows stand in the order of their ids.

A node has one row per key. Discarding a node stamps the row, and re-adding the key overwrites it,
so the rows alone show the current plan (`visibleNodes`). An earlier revision is rebuilt from the
ledger (`historicalNodes`): every add left its fields there, every discard its version, every
renewal of an attempt bound the value before and after.

Left out: `created_at` and `latency_ms` stamps, and the task's launch columns, which nothing here
reads.
-/

namespace Homelab.Factory

/-! ## Plan rows -/

/-- The fields of a node its author supplies. -/
structure NodeFields where
  nodeKey : String
  kind : String
  prompt : String
  model : Value
  effort : Value
  deps : List String
  maxCostUsd : Value
  sideEffects : Bool
  maxAttempts : Value
  turnTimeoutSeconds : Value
  deriving DecidableEq

/-- The fields as the columns of a row hold them: the cost column is a float. -/
def NodeFields.stored (fields : NodeFields) : NodeFields :=
  { fields with maxCostUsd := fields.maxCostUsd.asFloat }

/-- Source: `models.py`, `SwarmPlanNode` -/
structure PlanNode extends NodeFields where
  createdInVersion : Nat
  discardedInVersion : Option Nat
  cancelledInVersion : Option Nat
  armedAt : Option Int
  baseArtifactSha : Option String
  deriving DecidableEq

/-- What the plan reads of an evidence continuation grant; `node_versions` holds the creating
versions of the two nodes it names. Source: `evidence_continuation`, `make_grant` -/
structure Grant where
  nodeKey : String
  reviewKey : String
  nodeVersion : Nat
  reviewVersion : Nat
  attemptLimit : Int
  deriving DecidableEq

/-- A node of a loaded graph: the row's fields, and the keys `project` adds. -/
structure GraphNode extends PlanNode where
  evidenceContinuation : Option Grant
  evidenceContinuationBlocked : Bool
  deriving DecidableEq

/-- Source: `graph.py`, `_node_fields` -/
def PlanNode.nodeFields (node : PlanNode) : GraphNode :=
  { node with evidenceContinuation := none, evidenceContinuationBlocked := false }

/-! ## The version ledger -/

/-- A funded renewal of one node's attempt bound: `change_json` of `renew_node_attempt`. -/
structure Renewal where
  nodeKey : String
  createdInVersion : Nat
  before : Value
  after : Value
  sourceRunId : Nat
  requestId : Nat
  deriving DecidableEq

/-- `op` and `change_json` of a plan version. -/
inductive Change where
  | addNode (fields : NodeFields)
  /-- Discards from before snapshots were taken carry none. -/
  | discardNode (nodeKey : String) (snapshot : Option GraphNode)
  | renewNodeAttempt (renewal : Renewal)
  | continueEvidence (grant : Grant)
  | blockEvidenceContinuation
  | bootstrap
  deriving DecidableEq

/-- On whose behalf and why a change is made. -/
structure Cause where
  authorKind : String
  author : String
  causeKind : String
  causeRef : Option String
  statedReason : Value
  deriving DecidableEq

/-- Source: `models.py`, `SwarmPlanVersion` -/
structure PlanVersion where
  version : Nat
  change : Change
  cause : Cause
  deriving DecidableEq

/-! ## The dispatch ledger -/

/-- The status of an attempt. -/
inductive RunStatus where
  | admitted | dispatched | uncertain | succeeded | failed | escalated | cancelled
  deriving DecidableEq, Repr

namespace RunStatus

def text : RunStatus → String
  | admitted => "admitted"
  | dispatched => "dispatched"
  | uncertain => "uncertain"
  | succeeded => "succeeded"
  | failed => "failed"
  | escalated => "escalated"
  | cancelled => "cancelled"

/-- `status in TERMINAL_RUN_STATUSES` -/
def terminal : RunStatus → Bool
  | succeeded | failed | escalated | cancelled => true
  | admitted | dispatched | uncertain => false

end RunStatus

/-- A recorded outcome: its text, and what `json.loads` makes of it (`none` when it raises). -/
structure OutcomeJson where
  text : String
  parsed : Option Value
  deriving DecidableEq

/-- The immutable inputs of one attempt. `context` holds the execution context the caller supplied;
none of its keys is one of the others. -/
structure Pin where
  context : List (String × Value)
  taskId : String
  nodeKey : String
  attempt : Nat
  prompt : String
  model : Value
  maxCostUsd : Value
  maxAttempts : Int
  turnTimeoutSeconds : Value
  escalatedFrom : Option Value
  escalationReason : Option Value
  deriving DecidableEq

/-- Source: `models.py`, `SwarmNodeRun` -/
structure NodeRun where
  id : Nat
  nodeKey : String
  attempt : Nat
  dispatchKey : Option String
  pin : Option Pin
  model : Value
  reservedCostUsd : Value
  sessionId : Option Int
  status : RunStatus
  costUsd : Value
  baseSha : Option String
  headSha : Option String
  outcome : Option OutcomeJson
  finishedAt : Option Int
  deriving DecidableEq

/-- Source: `models.py`, `SwarmConductorCall` -/
structure ConductorCall where
  conductorModel : String
  tool : String
  args : Value
  applied : Bool
  refusalCode : Option String
  versionBefore : Int
  versionAfter : Option Int
  deriving DecidableEq

/-- The rows of one task. -/
structure Task where
  id : String
  conductorModel : String
  budgetUsd : Value
  nodes : List PlanNode
  versions : List PlanVersion
  runs : List NodeRun
  calls : List ConductorCall
  deriving DecidableEq

/-! ## Reading a run -/

/-- Source: `graph.py`, `NO_MODEL_POST_PHASES` -/
def noModelPostPhases : List String :=
  ["never_dispatched", "not_invoked", "lost_before_guest"]

/-- Source: `factory_models.py` -/
def maxCapacityDeniedAttempts : Nat := 3

/-- A phase is read from the outcome itself, from its recovery, or from a proof filed under the
phase it proves. Source: `graph.py`, `_outcome_phase` -/
def outcomePhase (outcome : Value) : Option String :=
  match (outcome.get "invocation_phase").asStr with
  | some phase => some phase
  | none =>
    match ((outcome.get "recovery").get "invocation_phase").asStr with
    | some phase => some phase
    | none => noModelPostPhases.find? fun expected =>
      (outcome.get expected).get "invocation_phase" = .str expected

namespace NodeRun

variable (run : NodeRun)

/-- The outcome's body, when there is one and it parses. -/
def outcomeBody : Option Value :=
  run.outcome.bind (·.parsed)

/-- Source: `graph.py`, `_invocation_phase` -/
def invocationPhase : Option String :=
  run.outcomeBody.bind outcomePhase

/-- `_invocation_phase(run) in NO_MODEL_POST_PHASES` -/
def noModelPost : Bool :=
  match run.invocationPhase with
  | some phase => phase ∈ noModelPostPhases
  | none => false

/-- Source: `graph.py`, `_capacity_denied` -/
def capacityDenied : Bool :=
  match run.outcomeBody with
  | some outcome => (outcome.get "capacity_denied").truthy
  | none => false

end NodeRun

/-- Source: `graph.py`, `_spent_attempts` -/
def spentAttempts (runs : List NodeRun) : Nat :=
  runs.length - min (runs.countP NodeRun.capacityDenied) maxCapacityDeniedAttempts

/-- What the cost of an attempt rests on. -/
inductive AccountingBasis where
  | activeReservation | reported | listPriced | noModelPost | reservedUnknownCost
  deriving DecidableEq, Repr

/-- Source: `graph.py`, `_accounting_basis` and `_reported_cost_basis` -/
def NodeRun.accountingBasis (run : NodeRun) : AccountingBasis :=
  if !run.status.terminal then .activeReservation
  else if run.costUsd.validCost true then
    match run.outcomeBody with
    | some outcome => if outcome.get "cost_basis" = .str "list" then .listPriced else .reported
    | none => .reported
  else if run.noModelPost then .noModelPost
  else .reservedUnknownCost

/-- `_accounting_basis(run) in SETTLED_ACCOUNTING_BASES` -/
def AccountingBasis.settled : AccountingBasis → Bool
  | reported | listPriced | noModelPost => true
  | activeReservation | reservedUnknownCost => false

namespace Task

/-! ## The current plan -/

/-- Source: `graph.py`, `_current_version` -/
def currentVersion (s : Task) : Nat :=
  (s.versions.map (·.version)).foldl max 0

end Task

/-- The node is part of the given revision. -/
def PlanNode.visibleIn (node : PlanNode) (version : Nat) : Bool :=
  node.createdInVersion ≤ version &&
    node.discardedInVersion.all (version < ·) && node.cancelledInVersion.all (version < ·)

namespace Task

variable (s : Task) (version : Nat) (nodeKey : String)

/-- Source: `graph.py`, `_visible_nodes` -/
def visibleNodes : List PlanNode :=
  s.nodes.filter (·.visibleIn version)

/-- The nodes of the current revision. -/
def live : List PlanNode := s.visibleNodes s.currentVersion

/-- `live.get(node_key)` -/
def liveNode : Option PlanNode :=
  s.live.find? (·.nodeKey = nodeKey)

/-- The row of a key, visible or not. -/
def row : Option PlanNode :=
  s.nodes.find? (·.nodeKey = nodeKey)

/-- The attempts of one key. -/
def runsOf : List NodeRun :=
  s.runs.filter (·.nodeKey = nodeKey)

/-! ## Loading a revision -/

/-- The grants recorded up to a version. -/
def grants : List Grant :=
  s.versions.filterMap fun row =>
    match row.change with
    | .continueEvidence grant => if row.version ≤ version then some grant else none
    | _ => none

/-- Source: `evidence_continuation`, `project` -/
def project (nodes : List GraphNode) : List GraphNode :=
  let grants := s.grants version
  let blocked := s.versions.any fun row =>
    row.change = .blockEvidenceContinuation ∧ row.version ≤ version
  nodes.map fun node =>
    let named := grants.filter fun grant =>
      node.nodeKey = grant.nodeKey ∨ node.nodeKey = grant.reviewKey
    let owned := named.filter fun grant =>
      node.createdInVersion =
        if node.nodeKey = grant.nodeKey then grant.nodeVersion else grant.reviewVersion
    { node with
      evidenceContinuation := owned.getLast?.or node.evidenceContinuation
      evidenceContinuationBlocked :=
        (blocked && !named.isEmpty) || node.evidenceContinuationBlocked }

end Task

/-! ## Rebuilding an earlier revision

The source keeps a dict of incarnations keyed by node key and creating version. Both are fields of
the node, so here it is the list of its values in insertion order. -/

/-- The dict key of an incarnation. -/
def GraphNode.incarnation (node : GraphNode) : String × Nat :=
  (node.nodeKey, node.createdInVersion)

/-- `incarnations.setdefault(key, node)` -/
def setDefault (incarnations : List GraphNode) (node : GraphNode) : List GraphNode :=
  if incarnations.any (·.incarnation = node.incarnation) then incarnations
  else incarnations ++ [node]

/-- Rewrite the incarnation under one dict key. -/
def rewrite (key : String × Nat) (f : GraphNode → GraphNode) (incarnations : List GraphNode) :
    List GraphNode :=
  incarnations.map fun node => if node.incarnation = key then f node else node

/-- The node an add left in the ledger. -/
def NodeFields.incarnationAt (fields : NodeFields) (version : Nat) : GraphNode :=
  { fields with
    createdInVersion := version
    discardedInVersion := none
    cancelledInVersion := none
    armedAt := none
    baseArtifactSha := none
    evidenceContinuation := none
    evidenceContinuationBlocked := false }

/-- First pass over the ledger: every add is an incarnation, unless the row still shows it. -/
def collectAdd (incarnations : List GraphNode) (row : PlanVersion) : List GraphNode :=
  match row.change with
  | .addNode fields => setDefault incarnations (fields.incarnationAt row.version)
  | _ => incarnations

/-- Second pass: a discard ends the newest incarnation of its key that is older than it. -/
def markDiscard (incarnations : List GraphNode) (row : PlanVersion) : List GraphNode :=
  match row.change with
  | .discardNode nodeKey snapshot =>
    let incarnations := snapshot.elim incarnations (setDefault incarnations)
    let candidates := incarnations.filter fun node =>
      node.nodeKey = nodeKey ∧ node.createdInVersion < row.version
    match (candidates.map (·.createdInVersion)).max? with
    | none => incarnations
    | some created =>
      rewrite (nodeKey, created) (fun node => { node with discardedInVersion := some row.version })
        incarnations
  | _ => incarnations

/-- Write an attempt bound a renewal recorded, when `pick` takes it. -/
def rewriteBound (pick : Nat → Renewal → Option Value) (incarnations : List GraphNode)
    (row : PlanVersion) : List GraphNode :=
  match row.change with
  | .renewNodeAttempt renewal =>
    match pick row.version renewal with
    | some bound =>
      rewrite (renewal.nodeKey, renewal.createdInVersion)
        (fun node => { node with maxAttempts := bound }) incarnations
    | none => incarnations
  | _ => incarnations

/-- Third pass, newest change first: take back the renewals later than the revision. -/
def takeBackRenewal (version : Nat) : List GraphNode → PlanVersion → List GraphNode :=
  rewriteBound fun made renewal => if version < made then some renewal.before else none

/-- Fourth pass: replay the renewals up to the revision. -/
def replayRenewal (version : Nat) : List GraphNode → PlanVersion → List GraphNode :=
  rewriteBound fun made renewal => if made ≤ version then some renewal.after else none

namespace Task

/-- Every incarnation the rows and the ledger know of, with its attempt bound at the revision. -/
def incarnations (s : Task) (version : Nat) : List GraphNode :=
  let known := s.versions.foldl collectAdd (s.nodes.map PlanNode.nodeFields)
  let ended := s.versions.foldl markDiscard known
  let takenBack := s.versions.reverse.foldl (takeBackRenewal version) ended
  s.versions.foldl (replayRenewal version) takenBack

/-- Source: `graph.py`, `_historical_nodes` -/
def historicalNodes (s : Task) (version : Nat) : List GraphNode :=
  ((s.incarnations version).mergeSort fun a b => a.createdInVersion ≤ b.createdInVersion).filter
    (·.visibleIn version)

/-- Source: `graph.py`, `load_graph` -/
def loadGraph (s : Task) (version : Option Nat) : List GraphNode :=
  let selected := version.getD s.currentVersion
  if selected < s.currentVersion then s.project selected (s.historicalNodes selected)
  else s.project selected ((s.visibleNodes selected).map PlanNode.nodeFields)

end Task

end Homelab.Factory
