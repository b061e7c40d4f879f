import Homelab.Lib.Journal
import Homelab.Embervm.OpLog.Tasks
import Homelab.Embervm.OpLog.Stateful

/-!
# The SQLite op-log

`Embervm.OpLog.SQLite`: the ops journal and its write-through projections, one database.

* `Op` is a row of `ops`. Task and stateful ops carry their payload; an op of another family
  (sessions, residency intents, serving instances, composite groups, audit) carries the columns
  that compaction reads.
* `Db` is the database. The tables of the other families keep the columns that retention and
  compaction read; what an op of these families does to them is an argument of its append, so
  every statement about appends holds for whatever those projections do.
* An append is one transaction: the op's row and its projection land together or not at all. An
  append that times out in its caller is an error there and can have landed all the same
  (`appendTask`, `appendStateful`, `appendOther`).
Sources without a file name are in `sqlite.ex`.
-/

namespace Homelab.Embervm.OpLog

open Homelab.Lib

/-! ## Rows of the other families -/

/-- Source: `@session_live_states` and `@session_terminal_states` -/
inductive SessionRowState where
  | creating | running | banking | banked | relighting | parking | parked | destroying
  | expired | evicted | destroyed | failed
  deriving DecidableEq, Repr

/-- Source: `@session_terminal_states` -/
def SessionRowState.terminal : SessionRowState → Bool
  | expired | evicted | destroyed | failed => true
  | _ => false

/-- Source: `@serving_live_states` and `@serving_terminal_states` -/
inductive ServingRowState where
  | starting | published | draining | banking | banked | relighting | destroying
  | evicted | destroyed | failed
  deriving DecidableEq, Repr

/-- Source: `@serving_terminal_states` -/
def ServingRowState.terminal : ServingRowState → Bool
  | evicted | destroyed | failed => true
  | _ => false

/-- Source: `@group_live_states` and `@group_terminal_states` -/
inductive GroupRowState where
  | starting | running | degraded | banking | banked | relighting | freshBooting | destroying
  | evicted | destroyed | failed
  deriving DecidableEq, Repr

/-- Source: `@group_terminal_states` -/
def GroupRowState.terminal : GroupRowState → Bool
  | evicted | destroyed | failed => true
  | _ => false

/-- Source: `residency_intent.ex`, `@active` and `@terminal` -/
inductive ResidencyState where
  | queued | admitting | ready | cancelling
  | consumed | cancelled | expired | failed
  deriving DecidableEq, Repr

/-- A row of `sessions`, `serving_instances` or `group_instances`, as retention reads it. -/
structure EntityRow (σ : Type) where
  state : σ
  updatedAt : Int
  deriving DecidableEq, Repr

/-- A row of `residency_intents`, as compaction reads it. -/
structure ResidencyRow where
  sessionId : String
  state : ResidencyState
  /-- `json_type(record_json, '$.restore') = 'object'`. -/
  restore : Bool
  /-- `json_extract(record_json, '$.claim_reconciled') = 1`. -/
  claimReconciled : Bool
  deriving DecidableEq, Repr

/-- The tables of the other families. -/
structure OtherTables where
  sessions : Table String (EntityRow SessionRowState)
  residencyIntents : Table String ResidencyRow
  servingInstances : Table String (EntityRow ServingRowState)
  groupInstances : Table String (EntityRow GroupRowState)

/-! ## Ops -/

/-- An op of another family: its kind, payload and owner columns. -/
structure OtherOp where
  kind : String
  payload : String
  sessionId : Option String
  servingInstanceId : Option String
  groupInstanceId : Option String
  ts : Int
  deriving DecidableEq, Repr

/-- A row of `ops`. -/
inductive Op where
  | task (op : TaskOp)
  | stateful (op : StatefulOp)
  | other (op : OtherOp)
  deriving DecidableEq, Repr

namespace Op

/-- The `ts` column. -/
def ts : Op → Int
  | task op => op.ts
  | stateful op => op.ts
  | other op => op.ts

/-- The `task_id` column. -/
def taskId : Op → Option String
  | task op => some op.taskId
  | _ => none

/-- The `stateful_instance_id` column. -/
def statefulInstanceId : Op → Option String
  | stateful op => op.instanceId
  | _ => none

/-- The `session_id` column. -/
def sessionId : Op → Option String
  | other op => op.sessionId
  | _ => none

/-- The `serving_instance_id` column. -/
def servingInstanceId : Op → Option String
  | other op => op.servingInstanceId
  | _ => none

/-- The `group_instance_id` column. -/
def groupInstanceId : Op → Option String
  | other op => op.groupInstanceId
  | _ => none

/-- The request a `submitted` op of the task carries; `none` for every other op. -/
def submittedRequest (id : String) : Op → Option (Option String)
  | task ⟨.submitted _ _ request, _, _, _, taskId, _⟩ => if taskId = id then some request else none
  | _ => none

end Op

/-! ## The database -/

/-- The op-log database. -/
structure Db where
  task : TaskTables
  stateful : StatefulTables
  other : OtherTables
  journal : Journal Op

namespace Db

/-- A new database. -/
def empty : Db := ⟨.empty, .empty, ⟨∅, ∅, ∅, ∅⟩, .empty⟩

/-- Append a task op.
Source: `do_append/2` -/
def appendTask (db : Db) (op : TaskOp) (fault : Option AppendFault) : Except (OpLogError × Db) Db :=
  answered db ((db.task.project op).map fun t =>
    { db with task := t, journal := db.journal.append (.task op) }) fault

/-- Append a stateful op.
Source: `do_append/2` -/
def appendStateful (db : Db) (op : StatefulOp) (fault : Option AppendFault) :
    Except (OpLogError × Db) Db :=
  answered db ((db.stateful.project op).map fun t =>
    { db with stateful := t, journal := db.journal.append (.stateful op) }) fault

/-- Append an op of another family, whose projection leaves that family's tables as `after`.
Source: `do_append/2` -/
def appendOther (db : Db) (op : OtherOp) (after : OtherTables) : Db :=
  { db with other := after, journal := db.journal.append (.other op) }

/-- The database without the row of a task and its result. -/
def evicting (db : Db) (taskId : String) : Db := { db with task := db.task.evictTask taskId }

/-- Delete the row of a task and its result ahead of retention.
Source: `do_evict_task/2` -/
def evictTask (db : Db) (taskId : String) (fault : Option AppendFault) :
    Except (OpLogError × Db) Db :=
  answered db (.ok (db.evicting taskId)) fault

/-- Source: `do_read_from/2` -/
def readFrom (db : Db) (seq : Nat) : Except Nat (List (Nat × Op)) :=
  db.journal.readFrom seq

/-- The request of the earliest `submitted` op of the task that is still in the journal; `none` when
there is no such op or it carried no request.
Source: `do_load_request/2` -/
def loadRequest (db : Db) (taskId : String) : Option String :=
  (db.journal.rows.findSome? fun r => r.2.submittedRequest taskId).join

/-- An append that is accepted has projected its op and entered it in the journal. -/
lemma appendTask_eq_ok {db db' : Db} {op : TaskOp} {fault : Option AppendFault}
    (h : db.appendTask op fault = .ok db') : fault = none ∧ ∃ t, db.task.project op = .ok t ∧
      db' = { db with task := t, journal := db.journal.append (.task op) } := by
  obtain ⟨hf, hr⟩ := answered_eq_ok h
  obtain ⟨t, hp, rfl⟩ := except_map_eq_ok.mp hr
  exact ⟨hf, t, hp, rfl⟩

/-- An append that fails has changed nothing, or it timed out and is one that was accepted. -/
lemma appendTask_eq_error {db db' : Db} {op : TaskOp} {fault : Option AppendFault} {e : OpLogError}
    (h : db.appendTask op fault = .error (e, db')) :
    db' = db ∨ (fault = some .timedOut ∧ db.appendTask op none = .ok db') := by
  refine (answered_eq_error h).imp_right fun hr => ⟨hr.1, ?_⟩
  rw [appendTask, hr.2]
  rfl

/-- Whatever it answered, a task append has changed nothing or projected its op. -/
lemma left_appendTask (db : Db) (op : TaskOp) (fault : Option AppendFault) :
    left (db.appendTask op fault) = db ∨ ∃ t, db.task.project op = .ok t ∧
      left (db.appendTask op fault) =
        { db with task := t, journal := db.journal.append (.task op) } := by
  refine (left_answered db _ fault).imp_right fun hr => ?_
  obtain ⟨t, hp, ht⟩ := except_map_eq_ok.mp hr
  exact ⟨t, hp, ht.symm⟩

/-- The same for a stateful append. -/
lemma left_appendStateful (db : Db) (op : StatefulOp) (fault : Option AppendFault) :
    left (db.appendStateful op fault) = db ∨ ∃ t, db.stateful.project op = .ok t ∧
      left (db.appendStateful op fault) =
        { db with stateful := t, journal := db.journal.append (.stateful op) } := by
  refine (left_answered db _ fault).imp_right fun hr => ?_
  obtain ⟨t, hp, ht⟩ := except_map_eq_ok.mp hr
  exact ⟨t, hp, ht.symm⟩

end Db

end Homelab.Embervm.OpLog
