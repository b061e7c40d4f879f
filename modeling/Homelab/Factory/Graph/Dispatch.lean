import Homelab.Factory.Graph

/-!
# The dispatch ledger

`graph.py` from `admit_dispatch` on: reserving one bounded attempt of a node, binding a session to
it, and recording what became of it. Every call holds the lock on the task row.

Admission asks other components about the task: the refill worker for the schema it authored, the
funding ledger for its direction and its profile, the evidence continuation for its fence. What they
answer is not a function of the plan; a call carries the answers it got (`Surroundings`).
-/

namespace Homelab.Factory

/-- The arguments of `admit_dispatch`. -/
structure Admission where
  nodeKey : String
  dispatchKey : Value
  executionContext : Value
  model : Value
  escalation : Value
  deriving DecidableEq

/-- What the rest of the system answers during one admission. -/
structure Surroundings where
  /-- `backlog_refill.dispatch_schema(task_id, node_key)` -/
  refillSchema : Value
  /-- The refusal `evidence_continuation.validate_dispatch` raises, if any. -/
  continuationRefusal : Option String
  /-- `evidence_continuation.prompt(grant)` -/
  continuationPrompt : String
  /-- `dispatch_prompt(db, task_id, node_key, node.prompt)` -/
  dispatchPrompt : String → String
  /-- The pin asks for a funding profile that is not allowed. -/
  profileRefused : Pin → Bool
  /-- The id the database gives the new run. -/
  runId : Nat
  now : Int

/-- Source: `graph.py`, `_CONTEXT_FIELDS` -/
def contextFields : List String :=
  ["repo", "branch", "workflow_id", "artifact_path", "artifact_schema", "hydration_branch",
    "retry_context", "task_deadline_at", "effort", "closing_instruction", "browser_evidence_review",
    "capture_evidence_ttl_seconds"]

/-- Source: `backlog_refill.py`, `NODES` -/
def refillNodes : List String := ["backlog_refill_collect_1", "backlog_refill_review_1"]

/-! ## Checking the request -/

namespace Admission

variable (a : Admission)

/-- The context, `{}` when there is none. -/
def context : Value :=
  if a.executionContext = .null then .dict [] else a.executionContext

def contextItems : List (String × Value) :=
  match a.context with
  | .dict items => items
  | _ => []

def readOnly : Bool := (a.contextItems.lookup "read_only").isSome

def dispatchKeyInvalid : Bool :=
  match a.dispatchKey with
  | .null => false
  | .str key => blank key || 256 < key.length
  | _ => true

/-- Only the refill roles may ask for a read-only run, with the schema the server authored and on
the commit that schema names. -/
def readOnlyInvalid (env : Surroundings) : Bool :=
  let schema := a.context.get "artifact_schema"
  let source := schema.get "x-factory-refill-inspection"
  let commit := Value.str ("commit:" ++ (source.get "sha").asStr.getD "")
  a.nodeKey ∉ refillNodes || a.context.get "read_only" ≠ .bool true || !schema.isDict ||
    schema.norm ≠ env.refillSchema.norm ||
    (source ≠ .null &&
      (a.context.get "branch" ≠ commit || a.context.get "hydration_branch" ≠ commit))

/-- The context is not one a dispatch may carry. -/
def contextInvalid (env : Surroundings) : Bool :=
  (a.readOnly && a.readOnlyInvalid env) || !a.context.isDict ||
    a.contextItems.any
      (fun item => item.1 ∉ contextFields ∧ ¬ (item.1 = "read_only" ∧ a.readOnly)) ||
    !a.context.serializable

/-- One field of the escalation, when it says something. -/
def stepped (field : String) : Option Value :=
  let value := a.escalation.get field
  if value.truthy then some value else none

def args : Value :=
  let escalation := [("escalated_from", a.stepped "escalated_from"),
    ("escalation_reason", a.stepped "escalation_reason")].filterMap fun field =>
      field.2.map (field.1, ·)
  .dict ([("dispatch_key", a.dispatchKey)] ++
    (if escalation.isEmpty then [] else [("escalation", .dict escalation)]) ++
    [("execution_context", a.context), ("model", a.model), ("node_key", .str a.nodeKey)])

end Admission

namespace Task

/-- The guards before the ledger is read. -/
def requestRefusal (env : Surroundings) (a : Admission) : Option Refusal :=
  refuseIf a.dispatchKeyInvalid "invalid_dispatch_key"
  <|> refuseIf (a.contextInvalid env) "invalid_execution_context"

/-- The run an earlier call with this dispatch key reserved. -/
def dispatchedAs (s : Task) (dispatchKey : Value) : Option NodeRun :=
  match dispatchKey with
  | .str key => s.runs.find? (·.dispatchKey = some key)
  | _ => none

/-- The pin an admission may replay: the same node and the same context. -/
def replayPin (a : Admission) (existing : NodeRun) : Option Pin :=
  existing.pin.filter fun pin =>
    existing.nodeKey = a.nodeKey ∧
      Value.normItems
          (pin.context.filter fun item => item.1 ∈ contextFields ∨ item.1 = "read_only") =
        Value.normItems a.contextItems

/-! ## Admission -/

/-- The grant on a live node. -/
def grantOn (s : Task) (nodeKey : String) : Option Grant :=
  ((s.loadGraph none).find? (·.nodeKey = nodeKey)).bind (·.evidenceContinuation)

end Task

/-- The integer of a checked bound. -/
def Value.asInt : Value → Int
  | .int i => i
  | _ => 0

namespace Task

/-- The attempts a node may spend. -/
def attemptLimit (s : Task) (node : PlanNode) : Int :=
  match s.grantOn node.nodeKey with
  | some grant =>
    if node.nodeKey = grant.nodeKey then grant.attemptLimit else node.maxAttempts.asInt
  | none => node.maxAttempts.asInt

variable (s : Task) (env : Surroundings) (a : Admission)

/-- `dependency in live` and one of its runs succeeded. -/
def dependencyMet (dependency : String) : Bool :=
  (s.liveNode dependency).isSome && (s.runsOf dependency).any (·.status = .succeeded)

/-- The guards on a live node, in the order of `admit_dispatch`. -/
def admitRefusal (node : PlanNode) : Option Refusal :=
  let runs := s.runsOf node.nodeKey
  boundsError node.toNodeFields
  <|> refuseIf (!s.budgetUsd.validCost) "invalid_task_budget"
  <|> refuseIf (runs.any (·.status = .succeeded)) "node_succeeded"
  <|> refuseIf (runs.any (!·.status.terminal)) "active_attempt"
  <|> (if (s.grantOn node.nodeKey).isSome then env.continuationRefusal.map (⟨·, none⟩) else none)
  <|> refuseIf (s.attemptLimit node ≤ spentAttempts runs) "attempts_exhausted"
  <|> refuseIf (!node.deps.all s.dependencyMet) "dependency_not_succeeded"
      (node.deps.find? (!s.dependencyMet ·))

/-- The number of the next attempt. -/
def nextAttempt (runs : List NodeRun) : Nat :=
  (runs.map (·.attempt)).foldl max 0 + 1

/-- Attempt numbers count every row, so the bound in the pin adds the denials that were excused. -/
def newPin (node : PlanNode) : Pin :=
  let runs := s.runsOf node.nodeKey
  { context := a.contextItems
    taskId := s.id
    nodeKey := node.nodeKey
    attempt := nextAttempt runs
    prompt :=
      if (s.grantOn node.nodeKey).any (·.nodeKey = node.nodeKey) then env.continuationPrompt
      else env.dispatchPrompt node.prompt
    model := if a.model.truthy then a.model else node.model
    maxCostUsd := node.maxCostUsd
    maxAttempts := s.attemptLimit node + ((runs.length - spentAttempts runs : Nat) : Int)
    turnTimeoutSeconds := node.turnTimeoutSeconds
    escalatedFrom := a.stepped "escalated_from"
    escalationReason := a.stepped "escalation_reason" }

/-- The run an admission adds. -/
def newRun (pin : Pin) : NodeRun where
  id := env.runId
  nodeKey := pin.nodeKey
  attempt := pin.attempt
  dispatchKey := a.dispatchKey.asStr
  pin := some pin
  model := pin.model
  reservedCostUsd := pin.maxCostUsd
  sessionId := none
  status := .admitted
  costUsd := .null
  baseSha := none
  headSha := none
  outcome := none
  finishedAt := none

/-- The ledger after an admission; the first one arms the node. -/
def withRun (pin : Pin) : Task :=
  { s with
    runs := s.runs ++ [newRun env a pin]
    nodes := s.nodes.map fun node =>
      if node.nodeKey = pin.nodeKey ∧ node.armedAt = none then { node with armedAt := some env.now }
      else node }

/-- Source: `graph.py`, `admit_dispatch` -/
def admitDispatch : Task × GraphOp :=
  let answer := fun (s' : Task) (pin : Pin) (attempt : Nat) =>
    s'.finish "admit_dispatch" a.args s.currentVersion
      { ok := true, version := some s.currentVersion, detail := some (toString attempt)
        attempt := some attempt, pin := some pin }
  match requestRefusal env a with
  | some refusal => s.refuse "admit_dispatch" a.args refusal
  | none =>
    match s.dispatchedAs a.dispatchKey with
    | some existing =>
      match replayPin a existing with
      | some pin => answer s pin existing.attempt
      | none => s.refuse "admit_dispatch" a.args { code := "dispatch_key_conflict" }
    | none =>
      match s.liveNode a.nodeKey with
      | none => s.refuse "admit_dispatch" a.args { code := "unknown_node" }
      | some node =>
        match s.admitRefusal env node with
        | some refusal => s.refuse "admit_dispatch" a.args refusal
        | none =>
          let pin := s.newPin env a node
          if env.profileRefused pin then
            s.refuse "admit_dispatch" a.args { code := "invalid_funding_profile" }
          else answer (s.withRun env a pin) pin pin.attempt

/-! ## Evidence -/

/-- Source: `graph.py`, `_get_run` -/
def getRun (nodeKey : String) (attempt : Nat) : Option NodeRun :=
  s.runs.find? fun run => run.nodeKey = nodeKey ∧ run.attempt = attempt

/-- Rewrite one run. -/
def updateRun (nodeKey : String) (attempt : Nat) (f : NodeRun → NodeRun) : Task :=
  { s with runs := s.runs.map fun run =>
      if run.nodeKey = nodeKey ∧ run.attempt = attempt then f run else run }

end Task

/-- `raise ValueError(..)`: the transaction is given up. -/
abbrev Raise := String

variable (run : NodeRun) (status : RunStatus)

/-- Bind a session, and fill in a base revision that was not known before. -/
def NodeRun.bind (sessionId : Int) (baseSha : Option String) : NodeRun :=
  { run with
    status := if run.sessionId.isNone ∧ run.status = .admitted then .dispatched else run.status
    sessionId := run.sessionId.or (some sessionId)
    baseSha := run.baseSha.or baseSha }

/-- A binding would replace evidence, or open a run that is over. -/
def NodeRun.bindConflict (sessionId : Int) (baseSha : Option String) : Bool :=
  run.sessionId.any (· ≠ sessionId) ||
    run.baseSha.any (fun sha => baseSha.any (· ≠ sha)) ||
    (run.sessionId.isNone && !(run.status = .admitted || run.status = .uncertain))

namespace Task

variable (s : Task) (nodeKey : String) (attempt : Nat)

def unknownRun : Raise :=
  "Unknown swarm node run " ++ s.id ++ "/" ++ nodeKey ++ "/" ++ toString attempt

/-- Source: `graph.py`, `record_dispatch` -/
def recordDispatch (sessionId : Value) (baseSha : Option String) : Task × Except Raise GraphOp :=
  let args := Value.dict [("attempt", .int attempt), ("base_sha", .ofStr baseSha),
    ("node_key", .str nodeKey), ("session_id", sessionId)]
  match s.getRun nodeKey attempt with
  | none => (s, .error (s.unknownRun nodeKey attempt))
  | some run =>
    let (s', op) :=
      if sessionId.asInt ≤ 0 then
        s.refuse "record_dispatch" args { code := "invalid_session_id" }
      else if run.bindConflict sessionId.asInt baseSha then
        s.refuse "record_dispatch" args { code := "dispatch_conflict" }
      else
        (s.updateRun nodeKey attempt (·.bind sessionId.asInt baseSha)).finish "record_dispatch" args
          s.currentVersion { ok := true, version := some s.currentVersion, attempt := some attempt }
    (s', .ok op)

/-- Source: `graph.py`, `lock_node_session_binding` -/
def bindingRefusal (workflowId : String) : Option Raise :=
  match s.getRun nodeKey attempt with
  | none => some (s.unknownRun nodeKey attempt)
  | some run =>
    if run.dispatchKey ≠ some workflowId then some "node session binding ownership conflict"
    else if run.sessionId.isNone ∧ run.status ≠ .admitted ∧ run.status ≠ .uncertain then
      some "node session binding conflict"
    else none

/-- Source: `graph.py`, `bind_node_session` -/
def bindNodeSession (sessionId : Value) (workflowId : String) : Task × Except Raise GraphOp :=
  match s.bindingRefusal nodeKey attempt workflowId with
  | some raised => (s, .error raised)
  | none => s.recordDispatch nodeKey attempt sessionId none

end Task

/-- The statuses an outcome may report. -/
def outcomeStatus : String → Option RunStatus
  | "succeeded" => some .succeeded
  | "failed" => some .failed
  | "escalated" => some .escalated
  | "cancelled" => some .cancelled
  | "uncertain" => some .uncertain
  | _ => none

/-- The arguments of `record_outcome` beside the run. -/
structure Evidence where
  status : String
  costUsd : Value
  headSha : Option String
  outcome : Option OutcomeJson
  deriving DecidableEq

/-- A cost that arrives for an uncertain run that had none. -/
def NodeRun.priced (costUsd : Value) : Bool :=
  run.status = .uncertain && status = .uncertain && run.costUsd = .null && costUsd ≠ .null

/-- The run already says this. -/
def NodeRun.records (evidence : Evidence) : Bool :=
  run.status = status && run.costUsd.norm = evidence.costUsd.norm &&
    run.headSha = evidence.headSha && run.outcome = evidence.outcome

/-- The run is over, or its execution was recorded as unknown before; a cost may still arrive. -/
def NodeRun.outcomeConflict (costUsd : Value) : Bool :=
  !run.priced status costUsd &&
    (run.status.terminal || (run.status = .uncertain && status = .uncertain))

/-- The outcome is written to the run: it is well formed, says something new and conflicts with
nothing. -/
def NodeRun.takes (evidence : Evidence) : Bool :=
  (outcomeStatus evidence.status).any fun status =>
    (evidence.costUsd = .null || evidence.costUsd.validCost true) &&
      !run.records status evidence && !run.outcomeConflict status evidence.costUsd

/-- The run with its outcome. -/
def NodeRun.conclude (evidence : Evidence) (now : Int) : NodeRun :=
  { run with
    status := status
    costUsd := evidence.costUsd.asFloat
    headSha := evidence.headSha
    outcome := evidence.outcome
    finishedAt := if status.terminal then some now else none }

namespace Task

/-- Source: `graph.py`, `record_outcome` -/
def recordOutcome (s : Task) (nodeKey : String) (attempt : Nat) (evidence : Evidence) (now : Int) :
    Task × Except Raise GraphOp :=
  let args := Value.dict [("attempt", .int attempt), ("cost_usd", evidence.costUsd),
    ("head_sha", .ofStr evidence.headSha), ("node_key", .str nodeKey),
    ("outcome_json", .ofStr (evidence.outcome.map (·.text))), ("status", .str evidence.status)]
  let answer := fun (s' : Task) =>
    s'.finish "record_outcome" args s.currentVersion
      { ok := true, version := some s.currentVersion, attempt := some attempt }
  match outcomeStatus evidence.status with
  | none => (s, .error ("Invalid swarm node run outcome status " ++ evidence.status))
  | some status =>
    if evidence.costUsd ≠ .null && !evidence.costUsd.validCost true then
      let (s', op) := s.refuse "record_outcome" args { code := "invalid_cost" }
      (s', .ok op)
    else
      match s.getRun nodeKey attempt with
      | none => (s, .error (s.unknownRun nodeKey attempt))
      | some run =>
        let (s', op) :=
          if run.records status evidence then answer s
          else if run.outcomeConflict status evidence.costUsd then
            s.refuse "record_outcome" args { code := "outcome_conflict" }
          else answer (s.updateRun nodeKey attempt (·.conclude status evidence now))
        (s', .ok op)

end Task

end Homelab.Factory
