import Homelab.Embervm.OpLog.Compaction

/-!
# The task store

`Embervm.TaskStore`: the hot set of tasks over the op-log's `tasks` projection. Every handler asks
the FSM, appends, and updates memory only when the append succeeded.

* `writeThrough` is the append-then-update core (`append_and_update/5` and the inlined copies of it
  in the retry and redrive handlers); a failed append leaves the store as it was.
* A handler is a function of the store and of what it reads from outside: the clock, the id
  generator, the workload catalog and the failures of its op-log calls. Where a handler makes
  several op-log calls, the op-log may serve other processes in between (`Background`).
* `TaskCall` is one message to the store, a restart, or background work of the op-log; `step` runs
  it.

The hooks `on_queued` and `on_metered` and the parked synchronous submitters are notified and
cannot change the store; they are left out. Sources without a file name are in `task_store.ex`.
-/

namespace Homelab.Embervm

open Homelab.Lib
open Homelab.Embervm.OpLog

/-- A task in memory; its id is the key of the table.
Source: `row_to_task/1` and `do_submit/4` -/
structure Task where
  tenant : String
  principal : Option String
  workload : String
  state : TaskState
  /-- Counted from 1. -/
  attempt : Nat
  idempotencyKey : Option String
  submittedAt : Int
  updatedAt : Int
  expiresAt : Option Int
  /-- The brick the task was dispatched to; in memory only. -/
  nodeId : Option String
  /-- Failures of the `:capacity` class; in memory only. -/
  capacityRetries : Nat
  deriving DecidableEq, Repr

/-- The part of a task that survives a restart. -/
def Task.durable (task : Task) : Task :=
  { task with nodeId := none, capacityRetries := 0 }

/-- Source: `row_to_task/1` -/
def rowToTask (row : TaskRow) : Task where
  tenant := row.tenant
  principal := some row.principal
  workload := row.workload
  state := row.state
  attempt := row.attempt + 1
  idempotencyKey := row.idempotencyKey
  submittedAt := row.submittedAt
  updatedAt := row.updatedAt
  expiresAt := row.expiresAt
  nodeId := none
  capacityRetries := 0

/-- The store: the op-log it writes through, the task table and the idempotency table. -/
structure TaskStore where
  db : Db
  tasks : Table String Task
  idem : Table (String × String) String

/-- Why a call failed. -/
inductive TaskError where
  | notFound (taskId : String)
  | illegalTransition (e : TaskState.IllegalTransition)
  | opLog (e : OpLogError)
  deriving DecidableEq, Repr

/-- What a successful call answers. -/
inductive TaskReply where
  | created (taskId : String)
  | existing (taskId : String)
  | task (task : Task)
  | retryable (task : Task) (backoffMs : Nat)
  | reassigned (count : Nat)
  deriving DecidableEq, Repr

/-- What the op-log does for other processes between two calls of one handler: appends of other
families and compaction batches. -/
inductive Background where
  | stateful (op : StatefulOp) (fault : Option AppendFault)
  | other (op : OtherOp) (after : OtherTables)
  | compact (c : CompactArgs)

/-- The op-log after one piece of background work. -/
def Background.apply (db : Db) : Background → Db
  | .stateful op fault => left (db.appendStateful op fault)
  | .other op after => db.appendOther op after
  | .compact c => (db.doCompact c).2

/-- The workload catalog as the store reads it.
Source: `workload_catalog.ex`, `retry_config/1` and `dead_letter_enabled?/1` -/
structure Catalog where
  retryConfig : String → RetryConfig
  deadLetterEnabled : String → Bool

namespace TaskStore

/-! ## Rebuild -/

/-- The idempotency table of a rebuild: every keyed row under its workload and key. -/
def rebuildIdem (rows : List (Sigma fun _ : String => TaskRow)) : Table (String × String) String :=
  rows.foldl (fun idem e =>
    match e.2.idempotencyKey with
    | some key => idem.insert (e.2.workload, key) e.1
    | none => idem) ∅

/-- A store started on an existing op-log.
Source: `rebuild/1` -/
def rebuild (db : Db) : TaskStore where
  db := db
  tasks := db.task.tasks.mapVal fun _ row => rowToTask row
  idem := rebuildIdem db.task.tasks.entries

/-! ## Helpers -/

variable (s : TaskStore) (attrs : SubmitAttrs) (taskId : String) (task : Task) (kind : TaskOpKind)
  (ts : Int) (reason : FailReason) (nodeId : Option String)

/-- The op-log serves other processes. -/
def interfere (bg : List Background) : TaskStore :=
  { s with db := bg.foldl Background.apply s.db }

/-- Source: `fetch_task/2` -/
def fetchTask : Except TaskError Task :=
  match s.tasks.lookup taskId with
  | some task => .ok task
  | none => .error (.notFound taskId)

/-- The op a transition of a task appends. -/
def opOf : TaskOp :=
  ⟨kind, task.tenant, task.principal, task.workload, taskId, ts⟩

/-- Append, and only when that is answered `ok` put the updated task into memory.
Source: `append_and_update/5`; the `:retry` and `:redrive` handlers -/
def writeThrough (update : Task → Task) (io : AppendIo) : Except TaskError Task × TaskStore :=
  match s.db.appendTask (opOf taskId task kind io.ts) io.fault with
  | .ok db =>
    (.ok (update task), { s with db := db, tasks := s.tasks.insert taskId (update task) })
  | .error (e, db) => (.error (.opLog e), { s with db := db })

/-- Source: `append_and_update/5` -/
def appendAndUpdate (next : TaskState) (io : AppendIo) : Except TaskError Task × TaskStore :=
  s.writeThrough taskId task kind (fun t => { t with state := next, updatedAt := io.ts }) io

/-- The reply of a handler that answers with the updated task. -/
def taskReply (r : Except TaskError Task × TaskStore) : Except TaskError TaskReply × TaskStore :=
  (r.1.map .task, r.2)

/-- Ask the FSM about a stored task, then act on the state it allows. -/
def withTransition (event : Task → TaskEvent)
    (act : Task → TaskState → Except TaskError TaskReply × TaskStore) :
    Except TaskError TaskReply × TaskStore :=
  match s.fetchTask taskId with
  | .error e => (.error e, s)
  | .ok task =>
    match task.state.transition (event task) with
    | .error e => (.error (.illegalTransition e), s)
    | .ok next => act task next

/-- Source: `with_node/2` -/
def withNode : Option String → Task
  | none => task
  | some nodeId => { task with nodeId := some nodeId }

/-- Source: `budget_attempt/1` -/
def budgetAttempt : Nat := max (task.attempt - task.capacityRetries) 1

/-- Source: `count_capacity_retry/3` -/
def countCapacityRetry : Task × TaskStore :=
  match reason with
  | .capacity =>
    let updated := { task with capacityRetries := task.capacityRetries + 1 }
    (updated, { s with tasks := s.tasks.insert taskId updated })
  | _ => (task, s)

/-! ## Submission -/

/-- Source: the attributes of `submit/2` -/
structure SubmitAttrs where
  tenant : String
  principal : Option String
  workload : String
  idempotencyKey : Option String
  expiresAt : Option Int
  request : Option String
  deriving DecidableEq, Repr

/-- What a submission reads from outside: the clock and the failure of the result read, the failure
of the eviction, the generated id and the append, with the op-log's other work in between. -/
structure SubmitIo where
  readTs : Int
  readFault : Option OpLogError
  afterRead : List Background
  evictFault : Option AppendFault
  afterEvict : List Background
  /-- The id `id_fun` generates. -/
  taskId : String
  append : AppendIo

/-- Source: `live_result/2` -/
def liveResult (now : Int) (fault : Option OpLogError) : Except OpLogError (Option ResultRow) :=
  match fault with
  | some e => .error e
  | none =>
    .ok ((s.db.task.results.lookup taskId).filter fun row =>
      match row.result.expiresAt with
      | some expiresAt => !(expiresAt < now)
      | none => true)

/-- The op a submission appends. -/
def submitOp : TaskOp where
  kind := .submitted attrs.idempotencyKey attrs.expiresAt attrs.request
  tenant := attrs.tenant
  principal := attrs.principal
  workload := attrs.workload
  taskId := taskId
  ts := ts

/-- The task a submission puts into memory. -/
def submitTask : Task where
  tenant := attrs.tenant
  principal := attrs.principal
  workload := attrs.workload
  state := .queued
  attempt := 1
  idempotencyKey := attrs.idempotencyKey
  submittedAt := ts
  updatedAt := ts
  expiresAt := attrs.expiresAt
  nodeId := none
  capacityRetries := 0

/-- The store with a submitted task over the op-log `db`. -/
def insertSubmitted (db : Db) (attrs : SubmitAttrs) (taskId : String) (ts : Int) : TaskStore where
  db := db
  tasks := s.tasks.insert taskId (submitTask attrs ts)
  idem :=
    match attrs.idempotencyKey with
    | some key => s.idem.insert (attrs.workload, key) taskId
    | none => s.idem

/-- Source: `do_submit/4` -/
def doSubmit (io : SubmitIo) : Except TaskError TaskReply × TaskStore :=
  match s.db.appendTask (submitOp attrs io.taskId io.append.ts) io.append.fault with
  | .error (e, db) => (.error (.opLog e), { s with db := db })
  | .ok db => (.ok (.created io.taskId), s.insertSubmitted db attrs io.taskId io.append.ts)

/-- The store without a lapsed task and its key, over the op-log `db`. -/
def evict (db : Db) (workload key oldTaskId : String) : TaskStore where
  db := db
  tasks := s.tasks.erase oldTaskId
  idem := s.idem.erase (workload, key)

/-- Source: `fresh_resubmit/5` -/
def freshResubmit (key oldTaskId : String) (io : SubmitIo) :
    Except TaskError TaskReply × TaskStore :=
  match s.db.evictTask oldTaskId io.evictFault with
  | .error (e, db) => (.error (.opLog e), { s with db := db })
  | .ok db => ((s.evict db attrs.workload key oldTaskId).interfere io.afterEvict).doSubmit attrs io

/-- Source: `dedupe_or_resubmit/5` -/
def dedupeOrResubmit (key existing : String)
    (io : SubmitIo) : Except TaskError TaskReply × TaskStore :=
  match s.fetchTask existing with
  | .error _ => s.doSubmit attrs io
  | .ok task =>
    if !task.state.terminal then (.ok (.existing existing), s)
    else
      match s.liveResult existing io.readTs io.readFault with
      | .ok (some _) => (.ok (.existing existing), s)
      | _ => (s.interfere io.afterRead).freshResubmit attrs key existing io

/-- Source: the `:submit` handler -/
def submit (io : SubmitIo) : Except TaskError TaskReply × TaskStore :=
  match attrs.idempotencyKey with
  | none => s.doSubmit attrs io
  | some key =>
    match s.idem.lookup (attrs.workload, key) with
    | none => s.doSubmit attrs io
    | some existing => s.dedupeOrResubmit attrs key existing io

/-! ## Transitions -/

/-- Source: the `:assign` handler -/
def assign (s : TaskStore) (taskId : String) (vmId nodeId : Option String) (io : AppendIo) :
    Except TaskError TaskReply × TaskStore :=
  s.withTransition taskId (fun _ => .assign) fun task next =>
    taskReply <| s.appendAndUpdate taskId (withNode task nodeId)
      (.assigned (some task.attempt) vmId nodeId) next io

/-- Source: the `:start` handler -/
def start (s : TaskStore) (taskId : String) (vmId nodeId : Option String) (io : AppendIo) :
    Except TaskError TaskReply × TaskStore :=
  s.withTransition taskId (fun _ => .start) fun task next =>
    taskReply <| s.appendAndUpdate taskId (withNode task nodeId)
      (.started (some task.attempt) vmId nodeId) next io

/-- Source: the `:succeed` handler -/
def succeed (s : TaskStore) (taskId : String) (result : TaskResult) (io : AppendIo) :
    Except TaskError TaskReply × TaskStore :=
  s.withTransition taskId (fun _ => .succeed) fun task next =>
    taskReply <| s.appendAndUpdate taskId task (.succeeded result) next io

/-- Source: the `:expire` handler -/
def expire (s : TaskStore) (taskId : String) (io : AppendIo) :
    Except TaskError TaskReply × TaskStore :=
  s.withTransition taskId (fun _ => .expire) fun task next =>
    taskReply <| s.appendAndUpdate taskId task (.failed next .expired) next io

/-- Source: the `:retry` handler -/
def retry (s : TaskStore) (taskId : String) (io : AppendIo) :
    Except TaskError TaskReply × TaskStore :=
  s.withTransition taskId (fun _ => .retry) fun task next =>
    taskReply <| s.writeThrough taskId task .retried
      (fun t => { t with state := next, attempt := t.attempt + 1, updatedAt := io.ts }) io

/-- Source: the `:redrive` handler -/
def redrive (s : TaskStore) (taskId : String) (io : AppendIo) :
    Except TaskError TaskReply × TaskStore :=
  s.withTransition taskId (fun _ => .redrive) fun task next =>
    taskReply <| s.writeThrough taskId task .redrive
      (fun t => { t with state := next, attempt := 1, updatedAt := io.ts, capacityRetries := 0 }) io

/-! ## Failure -/

/-- What a failure reads from outside: the catalog, the two appends and the op-log's other work
between them. -/
structure FailIo where
  catalog : Catalog
  failed : AppendIo
  between : List Background
  deadLettered : AppendIo

/-- Source: the permanent clause of `reply_after_fail/5` and the tail of
`reassign_one/3` -/
def deadLetter (s : TaskStore) (taskId : String) (task : Task) (catalog : Catalog) (io : AppendIo) :
    Except TaskError Task × TaskStore :=
  if catalog.deadLetterEnabled task.workload then
    match task.state.transition .deadLetter with
    | .ok next => s.appendAndUpdate taskId task .deadLettered next io
    | .error e => (.error (.illegalTransition e), s)
  else (.ok task, s)

/-- Source: the `:fail` handler -/
def fail (rand : Nat → Nat) (io : FailIo) : Except TaskError TaskReply × TaskStore :=
  let event := fun (task : Task) =>
    Retry.classify reason (budgetAttempt task) (io.catalog.retryConfig task.workload)
  s.withTransition taskId event fun task next =>
    match s.appendAndUpdate taskId task (.failed next reason) next io.failed with
    | (.error e, s) => (.error e, s)
    | (.ok updated, s) =>
      let (updated, s) := s.countCapacityRetry taskId updated reason
      if event task = .failPermanent then
        taskReply <|
          (s.interfere io.between).deadLetter taskId updated io.catalog io.deadLettered
      else
        (.ok (.retryable updated
          (Retry.backoffMs task.attempt (io.catalog.retryConfig task.workload) rand)), s)

/-- Source: `reassign_one/3` -/
def reassignOne (io : FailIo) : TaskStore :=
  let event := Retry.classify reason (budgetAttempt task) (io.catalog.retryConfig task.workload)
  match task.state.transition event with
  | .error _ => s
  | .ok next =>
    match s.appendAndUpdate taskId task (.failed next reason) next io.failed with
    | (.error _, s) => s
    | (.ok updated, s) =>
      if event = .failPermanent then
        ((s.interfere io.between).deadLetter taskId updated io.catalog io.deadLettered).2
      else s

/-- Source: `on_node?/2` -/
def onNode? : Bool :=
  match nodeId, task.nodeId with
  | none, _ => true
  | some _, none => true
  | some n, some n' => n' = n

/-- The tasks a node's down edge reassigns.
Source: the fold of the `:reassign_in_flight` handler -/
def inFlight : List (Sigma fun _ : String => Task) :=
  s.tasks.entries.filter fun e =>
    (e.2.state = .assigned || e.2.state = .running) && onNode? e.2 nodeId

/-- Source: the `:reassign_in_flight` handler -/
def reassignInFlight (bg : String → List Background) (io : String → FailIo) :
    Except TaskError TaskReply × TaskStore :=
  (.ok (.reassigned (s.inFlight nodeId).length),
    (s.inFlight nodeId).foldl
      (fun s e => (s.interfere (bg e.1)).reassignOne e.1 e.2 reason (io e.1)) s)

end TaskStore

/-! ## Runs -/

/-- A message to the store, its restart, or background work of the op-log between messages. -/
inductive TaskCall where
  | submit (attrs : TaskStore.SubmitAttrs) (io : TaskStore.SubmitIo)
  | assign (taskId : String) (vmId nodeId : Option String) (io : AppendIo)
  | start (taskId : String) (vmId nodeId : Option String) (io : AppendIo)
  | succeed (taskId : String) (result : TaskResult) (io : AppendIo)
  | fail (taskId : String) (reason : FailReason) (rand : Nat → Nat) (io : TaskStore.FailIo)
  | retry (taskId : String) (io : AppendIo)
  | redrive (taskId : String) (io : AppendIo)
  | expire (taskId : String) (io : AppendIo)
  | reassignInFlight (reason : FailReason) (nodeId : Option String)
      (bg : String → List Background) (io : String → TaskStore.FailIo)
  | restart
  | background (bg : Background)

namespace TaskStore

/-- A store on a new op-log. -/
def init : TaskStore := rebuild .empty

/-- The store after one call. -/
def step (s : TaskStore) : TaskCall → TaskStore
  | .submit attrs io => (s.submit attrs io).2
  | .assign taskId vmId nodeId io => (s.assign taskId vmId nodeId io).2
  | .start taskId vmId nodeId io => (s.start taskId vmId nodeId io).2
  | .succeed taskId result io => (s.succeed taskId result io).2
  | .fail taskId reason rand io => (s.fail taskId reason rand io).2
  | .retry taskId io => (s.retry taskId io).2
  | .redrive taskId io => (s.redrive taskId io).2
  | .expire taskId io => (s.expire taskId io).2
  | .reassignInFlight reason nodeId bg io => (s.reassignInFlight reason nodeId bg io).2
  | .restart => rebuild s.db
  | .background bg => s.interfere [bg]

end TaskStore

end Homelab.Embervm
