import Homelab.Lib.Table
import Homelab.Embervm.Retry

/-!
# Task ops and their projection

The task side of `Embervm.OpLog.SQLite`: the ops `Embervm.TaskStore` appends, the `tasks` and
`results` tables, and `project/3` for the eight task kinds. The accumulating `usage` table is left
out: its upsert reads nothing of these tables and no reader of them reads it.

* `TaskTables.project` is one clause of `project/3` for each kind. An `UPDATE` addresses a row by
  its id and silently hits nothing when the row is gone; only `submitted` (primary key, unique
  index, `NOT NULL principal`) and `succeeded` (foreign key of `results`) can be refused.
* `advanceTaskState` is the monotone, epoch-fenced update behind `assigned` and `started`.
* `lookup_project_of_isUpdate`: an op of a kind that inserts no row changes the row of its own
  task by `TaskOp.onRow` and touches no other. `project_submitted` inverts an accepted insert.
-/

namespace Homelab.Embervm.OpLog

open Homelab.Lib

/-! ## Ops -/

/-- The result a `succeeded` op carries.
Source: `task_store.ex`, the `:succeed` handler's payload -/
structure TaskResult where
  /-- The status code of the guest's answer. -/
  statusCode : Int
  /-- Its body. -/
  body : Option String
  /-- The size of the body before truncation. -/
  sizeBytes : Nat
  /-- Whether the body was cut. -/
  truncated : Bool
  /-- When the stored result lapses. -/
  expiresAt : Option Int
  /-- Its headers. -/
  headers : List (String × String)
  deriving DecidableEq, Repr

/-- The kind of a task op, with the part of its payload that is read back.
Source: `op_log.ex`, `kinds/0`; `task_store.ex`, the payloads -/
inductive TaskOpKind where
  | submitted (idempotencyKey : Option String) (expiresAt : Option Int) (request : Option String)
  | assigned (epoch : Option Nat) (vmId nodeId : Option String)
  | started (epoch : Option Nat) (vmId nodeId : Option String)
  | succeeded (result : TaskResult)
  | failed (state : TaskState) (reason : FailReason)
  | retried
  | deadLettered
  | redrive
  deriving DecidableEq, Repr

/-- An op of a task.
Source: `op_log.ex`, `Embervm.OpLog.Op` -/
structure TaskOp where
  /-- The kind and its payload. -/
  kind : TaskOpKind
  /-- The tenant. -/
  tenant : String
  /-- The principal, which a caller may leave out. -/
  principal : Option String
  /-- The workload. -/
  workload : String
  /-- The task. -/
  taskId : String
  /-- The clock reading of the append. -/
  ts : Int
  deriving DecidableEq, Repr

/-- Why an append or another op-log call failed. -/
inductive OpLogError where
  /-- The op-log did not answer, or the database refused the transaction. -/
  | unavailable
  /-- A `NOT NULL`, primary key or foreign key constraint. -/
  | constraint
  /-- The `(workload, idempotency_key)` index names another task. -/
  | duplicateIdempotencyKey (taskId : String)
  deriving DecidableEq, Repr

/-- How an op-log call fails in its caller. -/
inductive AppendFault where
  /-- The call is answered with an error and has changed nothing. -/
  | refused (e : OpLogError)
  /-- The caller stops waiting, and the op-log serves the call all the same.
  Source: `op_log.ex`, `safe_server_call/3` -/
  | timedOut
  deriving DecidableEq, Repr

/-- One append: the clock reading and its failure, if any. -/
structure AppendIo where
  ts : Int
  fault : Option AppendFault
  deriving DecidableEq, Repr

section

variable {α : Type} {t t' : α} {r : Except OpLogError α} {fault : Option AppendFault}

/-- The answer to a call whose transaction turns the tables `t` into `r`, with the tables it leaves.
A call that times out keeps its place among the messages to the op-log, so every later call finds
what it wrote. -/
def answered (t : α) (r : Except OpLogError α) : Option AppendFault → Except (OpLogError × α) α
  | none =>
    match r with
    | .ok t' => .ok t'
    | .error e => .error (e, t)
  | some (.refused e) => .error (e, t)
  | some .timedOut =>
    match r with
    | .ok t' => .error (.unavailable, t')
    | .error _ => .error (.unavailable, t)

/-- The tables a call leaves, whatever it answered. -/
def left : Except (OpLogError × α) α → α
  | .ok t | .error (_, t) => t

/-- A call that succeeds has run its transaction. -/
lemma answered_eq_ok (h : answered t r fault = .ok t') : fault = none ∧ r = .ok t' := by
  rcases fault with _ | e | _
  · cases r with
    | ok t' => exact ⟨rfl, congrArg _ (Except.ok.inj h)⟩
    | error e => simp [answered] at h
  · simp [answered] at h
  · cases r <;> simp [answered] at h

/-- A call that fails has changed nothing, or it timed out and has run its transaction. -/
lemma answered_eq_error {e : OpLogError} (h : answered t r fault = .error (e, t')) :
    t' = t ∨ (fault = some .timedOut ∧ r = .ok t') := by
  rcases fault with _ | e' | _
  · cases r with
    | ok t' => simp [answered] at h
    | error e => exact .inl (Prod.mk.inj (Except.error.inj h)).2.symm
  · exact .inl (Prod.mk.inj (Except.error.inj h)).2.symm
  · cases r with
    | ok t' => exact .inr ⟨rfl, congrArg _ (Prod.mk.inj (Except.error.inj h)).2⟩
    | error e => exact .inl (Prod.mk.inj (Except.error.inj h)).2.symm

/-- Whatever a call answered, it has changed nothing or run its transaction. -/
lemma left_answered (t : α) (r : Except OpLogError α) (fault : Option AppendFault) :
    left (answered t r fault) = t ∨ r = .ok (left (answered t r fault)) := by
  rcases h : answered t r fault with ⟨e, t'⟩ | t'
  · exact (answered_eq_error h).imp_right And.right
  · exact .inr (answered_eq_ok h).2

end

/-! ## Tables -/

/-- A row of `tasks`; the task id is its key. -/
structure TaskRow where
  tenant : String
  principal : String
  workload : String
  state : TaskState
  /-- The number of retries, from 0. -/
  attempt : Nat
  idempotencyKey : Option String
  submittedAt : Int
  updatedAt : Int
  expiresAt : Option Int
  deriving DecidableEq, Repr

/-- A row of `results`; the task id is its key. -/
structure ResultRow where
  result : TaskResult
  createdAt : Int
  deriving DecidableEq, Repr

/-- Whether a lifecycle append reaches a row: the row's state ranks strictly below the target, and
when the op carries an epoch the row's retry count is still below it.
Source: `sqlite.ex`, the `WHERE` clause of `advance_task_state/5` -/
def TaskRow.advances (row : TaskRow) (toState : TaskState) (epoch : Option Nat) : Bool :=
  row.state ∈ toState.statesBelow &&
    match epoch with
    | some e => row.attempt < e
    | none => true

/-- The tables the task ops project onto. -/
structure TaskTables where
  tasks : Table String TaskRow
  results : Table String ResultRow

namespace TaskTables

/-- The tables of a new database. -/
def empty : TaskTables := ⟨∅, ∅⟩

variable (t : TaskTables) (taskId : String)

/-- The task that holds an idempotency key of a workload.
Source: `sqlite.ex`, `existing_task_for_idempotency_key/3` -/
def existingTaskForIdempotencyKey (workload : String) (key : Option String) : Option String :=
  match key with
  | none => none
  | some _ =>
    (t.tasks.entries.find? fun e =>
      e.2.workload = workload && e.2.idempotencyKey = key).map Sigma.fst

/-- Source: `sqlite.ex`, `update_task_state/4` -/
def updateTaskState (state : TaskState) (ts : Int) : TaskTables :=
  { t with tasks := t.tasks.update taskId fun row => { row with state := state, updatedAt := ts } }

/-- Source: `sqlite.ex`, `advance_task_state/5` -/
def advanceTaskState (toState : TaskState) (ts : Int) (epoch : Option Nat) : TaskTables :=
  { t with
    tasks := t.tasks.update taskId fun row =>
      if row.advances toState epoch then { row with state := toState, updatedAt := ts } else row }

/-- The write-through projection of one task op.
Source: `sqlite.ex`, `project/3`, the task kinds -/
def project (op : TaskOp) : Except OpLogError TaskTables :=
  match op.kind with
  | .submitted idempotencyKey expiresAt _ =>
    match t.existingTaskForIdempotencyKey op.workload idempotencyKey with
    | some existing => .error (.duplicateIdempotencyKey existing)
    | none =>
      match op.principal, t.tasks.lookup op.taskId with
      | some principal, none =>
        .ok { t with
          tasks := t.tasks.insert op.taskId
            { tenant := op.tenant, principal := principal, workload := op.workload,
              state := .queued, attempt := 0, idempotencyKey := idempotencyKey,
              submittedAt := op.ts, updatedAt := op.ts, expiresAt := expiresAt } }
      | _, _ => .error .constraint
  | .assigned epoch _ _ => .ok (t.advanceTaskState op.taskId .assigned op.ts epoch)
  | .started epoch _ _ => .ok (t.advanceTaskState op.taskId .running op.ts epoch)
  | .succeeded result =>
    let t := t.updateTaskState op.taskId .succeeded op.ts
    -- `results.task_id` references `tasks(task_id)` and foreign keys are on
    match t.tasks.lookup op.taskId with
    | none => .error .constraint
    | some _ => .ok { t with results := t.results.insert op.taskId ⟨result, op.ts⟩ }
  | .failed state _ => .ok (t.updateTaskState op.taskId state op.ts)
  | .retried =>
    .ok { t with
      tasks := t.tasks.update op.taskId fun row =>
        { row with state := .queued, attempt := row.attempt + 1, updatedAt := op.ts } }
  | .deadLettered => .ok (t.updateTaskState op.taskId .deadLettered op.ts)
  | .redrive =>
    .ok { t with
      tasks := t.tasks.update op.taskId fun row =>
        { row with state := .queued, attempt := 0, updatedAt := op.ts } }

/-- The row goes and its result cascades. -/
def evictTask : TaskTables :=
  ⟨t.tasks.erase taskId, t.results.erase taskId⟩

end TaskTables

/-! ## What an op does to a row -/

/-- The effect on its own task's row of an op of a kind that inserts none. -/
def TaskOp.onRow (op : TaskOp) (row : TaskRow) : TaskRow :=
  match op.kind with
  | .submitted _ _ _ => row
  | .assigned epoch _ _ =>
    if row.advances .assigned epoch then { row with state := .assigned, updatedAt := op.ts }
    else row
  | .started epoch _ _ =>
    if row.advances .running epoch then { row with state := .running, updatedAt := op.ts }
    else row
  | .succeeded _ => { row with state := .succeeded, updatedAt := op.ts }
  | .failed state _ => { row with state := state, updatedAt := op.ts }
  | .retried => { row with state := .queued, attempt := row.attempt + 1, updatedAt := op.ts }
  | .deadLettered => { row with state := .deadLettered, updatedAt := op.ts }
  | .redrive => { row with state := .queued, attempt := 0, updatedAt := op.ts }

/-- The kinds that insert no row. -/
def TaskOpKind.isUpdate : TaskOpKind → Bool
  | .submitted _ _ _ => false
  | _ => true

namespace TaskTables

variable {t t' : TaskTables} {op : TaskOp}

/-- **An update op addresses the row of its task and no other**, and changes it by `onRow`. -/
theorem lookup_project_of_isUpdate (h : op.kind.isUpdate = true) (hp : t.project op = .ok t')
    (id : String) : t'.tasks.lookup id =
      if id = op.taskId then (t.tasks.lookup op.taskId).map op.onRow else t.tasks.lookup id := by
  unfold project at hp
  rcases hk : op.kind with _ | _ | _ | result | _ | _ | _ | _
  all_goals rw [hk] at h hp
  case submitted => simp [TaskOpKind.isUpdate] at h
  case succeeded =>
      have hrow : op.onRow = fun row => { row with state := .succeeded, updatedAt := op.ts } := by
        funext row
        simp [TaskOp.onRow, hk]
      simp only at hp
      split at hp
      · simp at hp
      · rw [Except.ok.injEq] at hp
        rw [← hp, hrow]
        exact Table.lookup_update t.tasks op.taskId id _
  all_goals
    rw [Except.ok.injEq] at hp
    rw [← hp]
    refine (Table.lookup_update t.tasks op.taskId id _).trans ?_
    congr 2
    funext row
    simp only [TaskOp.onRow, hk]

/-- **A submission that is accepted** has a principal, a fresh id and a free key, and adds exactly
the queued row of its task. -/
theorem project_submitted {key : Option String} {expiresAt : Option Int} {request : Option String}
    (hk : op.kind = .submitted key expiresAt request) (hp : t.project op = .ok t') :
    ∃ principal, op.principal = some principal ∧ t.tasks.lookup op.taskId = none ∧
      t.existingTaskForIdempotencyKey op.workload key = none ∧ t'.results = t.results ∧
      t'.tasks = t.tasks.insert op.taskId
        { tenant := op.tenant, principal := principal, workload := op.workload, state := .queued,
          attempt := 0, idempotencyKey := key, submittedAt := op.ts, updatedAt := op.ts,
          expiresAt := expiresAt } := by
  unfold project at hp
  rw [hk] at hp
  simp only at hp
  split at hp
  · simp at hp
  next hnone =>
    split at hp
    next principal hpr hl =>
      rw [Except.ok.injEq] at hp
      rw [← hp]
      exact ⟨principal, hpr, hl, hnone, rfl, rfl⟩
    · simp at hp

/-- No row has a free key. -/
lemma key_ne_of_existingTask_eq_none {workload key : String}
    (h : t.existingTaskForIdempotencyKey workload (some key) = none) {id : String} {row : TaskRow}
    (hrow : t.tasks.lookup id = some row) :
    ¬ (row.workload = workload ∧ row.idempotencyKey = some key) := by
  intro hkey
  have hnone := List.find?_eq_none.mp (Option.map_eq_none_iff.mp h) ⟨id, row⟩
    (AList.mem_lookup_iff.mp hrow)
  simp [hkey.1, hkey.2] at hnone

end TaskTables

end Homelab.Embervm.OpLog
