import Homelab.Lib.Run
import Homelab.Embervm.OpLog.Sqlite

/-!
# Retention and compaction of the op-log

`do_compact/3` of `Embervm.OpLog.SQLite`: one bounded batch that prunes terminal projection rows
past retention and deletes a prefix of the ops journal behind the durable marker.

* A batch is a sequence of statements, each its own transaction; one that fails ends the batch and
  leaves what the earlier ones did (`CompactArgs.completed`). The rows a `LIMIT` picks are left
  open by SQL, so the scan orders are arguments.
* `blocks` is the `WHERE` clause of `blocker_seq/2`: an op that is newer than the horizon or that
  is owned by a live entity. Pruning keeps every live row (`PrunedFrom.ownedByLive_eq`), so it does
  not matter that a batch prunes before it looks for the blocker.
* The system of this module is the database with the history of all its appends. Every step keeps
  the journal library's `Tracks`; `compaction_above_marker` is the result for all runs.
Sources without a file name are in `sqlite.ex`.
-/

namespace Homelab.Embervm.OpLog

open Homelab.Lib

/-! ## Which ops must stay -/

/-- Source: `@live_states` -/
def taskLive (row : TaskRow) : Bool :=
  match row.state with
  | .queued | .assigned | .running | .failedRetryable => true
  | _ => false

/-- Source: `@stateful_live_states` -/
def statefulLive (row : StatefulRow) : Bool :=
  match row.state with
  | .starting | .serving | .banking | .banked | .relighting | .coldBooting | .destroying => true
  | _ => false

/-- Source: `@session_live_states` -/
def sessionLive (row : EntityRow SessionRowState) : Bool := !row.state.terminal

/-- Source: `@serving_live_states` -/
def servingLive (row : EntityRow ServingRowState) : Bool := !row.state.terminal

/-- Source: `@group_live_states` -/
def groupLive (row : EntityRow GroupRowState) : Bool := !row.state.terminal

/-- An intent that is active, or whose restore claim is not reconciled.
Source: `blocker_seq/2` -/
def residencyLive (row : ResidencyRow) : Bool :=
  (match row.state with
    | .queued | .admitting | .ready | .cancelling => true
    | _ => false) || (row.restore && !row.claimReconciled)

namespace Db

/-- The op is owned by a live entity: one of the six `IN (SELECT ..)` clauses.
Source: `blocker_seq/2` -/
def ownedByLive (db : Db) (op : Op) : Bool :=
  op.taskId.any (fun id => (db.task.tasks.lookup id).any taskLive) ||
  op.sessionId.any (fun id => (db.other.sessions.lookup id).any sessionLive) ||
  op.sessionId.any (fun id =>
    db.other.residencyIntents.exists? fun _ row => row.sessionId = id && residencyLive row) ||
  op.servingInstanceId.any (fun id => (db.other.servingInstances.lookup id).any servingLive) ||
  op.statefulInstanceId.any (fun id => (db.stateful.instances.lookup id).any statefulLive) ||
  op.groupInstanceId.any (fun id => (db.other.groupInstances.lookup id).any groupLive)

/-- The row of `ops` must stay: it is not older than the cutoff, or it is owned by a live entity.
Source: `blocker_seq/2` -/
def blocks (db : Db) (cutoff : Int) (row : Nat × Op) : Bool :=
  cutoff ≤ row.2.ts || db.ownedByLive row.2

end Db

/-! ## One batch -/

/-- What one batch runs with: the clock, the two ages, the batch size, the order in which each
statement scans its table, and how many statements completed. -/
structure CompactArgs where
  nowMs : Int
  retentionMs : Int
  journalHorizonMs : Int
  batch : Nat
  resultScan : List String
  taskScan : List String
  sessionScan : List String
  servingScan : List String
  statefulScan : List String
  groupScan : List String
  opScan : List Nat
  /-- The statements before the first that failed; 8 for a batch that completed. -/
  completed : Nat
  deriving Repr

/-- What a completed batch reports: the rows each statement deleted, the marker, and whether every
table came in under the batch size. -/
structure CompactReply where
  deleted : List Nat
  compactedThrough : Nat
  done : Bool
  deriving DecidableEq, Repr

/-- The retention cutoff. -/
def CompactArgs.retentionCutoff (c : CompactArgs) : Int := c.nowMs - c.retentionMs

/-- The journal cutoff. -/
def CompactArgs.cutoff (c : CompactArgs) : Int := c.nowMs - c.journalHorizonMs

namespace Db

variable (c : CompactArgs) (db : Db)

/-- Source: `delete_expired_results/3` -/
def deleteExpiredResults : Db × Nat :=
  let expired := fun (_ : String) (row : ResultRow) => row.result.expiresAt.any (· < c.nowMs)
  ({ db with
      task := { db.task with
        results := db.task.results.deleteLimit expired c.batch c.resultScan } },
    (db.task.results.victims expired c.batch c.resultScan).length)

/-- The row goes and its result cascades.
Source: `delete_terminal_tasks/4` -/
def deleteTerminalTasks : Db × Nat :=
  let aged := fun (_ : String) (row : TaskRow) =>
    row.state.terminal && row.updatedAt < c.retentionCutoff
  let gone := db.task.tasks.victims aged c.batch c.taskScan
  ({ db with
      task :=
        { tasks := db.task.tasks.deleteLimit aged c.batch c.taskScan
          results := gone.foldl (fun t id => t.erase id) db.task.results } },
    gone.length)

/-- A session with a residency intent stays.
Source: `delete_terminal_sessions/4` -/
def deleteTerminalSessions : Db × Nat :=
  let aged := fun (id : String) (row : EntityRow SessionRowState) =>
    !db.other.residencyIntents.exists? (fun _ ri => ri.sessionId = id) &&
      (row.state.terminal && row.updatedAt < c.retentionCutoff)
  ({ db with
      other := { db.other with
        sessions := db.other.sessions.deleteLimit aged c.batch c.sessionScan } },
    (db.other.sessions.victims aged c.batch c.sessionScan).length)

/-- Source: `delete_terminal_serving_instances/4` -/
def deleteTerminalServingInstances : Db × Nat :=
  let aged := fun (_ : String) (row : EntityRow ServingRowState) =>
    row.state.terminal && row.updatedAt < c.retentionCutoff
  ({ db with
      other := { db.other with
        servingInstances := db.other.servingInstances.deleteLimit aged c.batch c.servingScan } },
    (db.other.servingInstances.victims aged c.batch c.servingScan).length)

/-- Source: `delete_terminal_stateful_instances/4` -/
def deleteTerminalStatefulInstances : Db × Nat :=
  ({ db with stateful := db.stateful.prune c.retentionCutoff c.batch c.statefulScan },
    (db.stateful.instances.victims (fun _ row => StatefulTables.aged c.retentionCutoff row) c.batch
      c.statefulScan).length)

/-- The members of a pruned group go with it; no statement here reads them.
Source: `delete_terminal_group_instances/4` -/
def deleteTerminalGroupInstances : Db × Nat :=
  let aged := fun (_ : String) (row : EntityRow GroupRowState) =>
    row.state.terminal && row.updatedAt < c.retentionCutoff
  ({ db with
      other := { db.other with
        groupInstances := db.other.groupInstances.deleteLimit aged c.batch c.groupScan } },
    (db.other.groupInstances.victims aged c.batch c.groupScan).length)

/-- The retention statements of a batch, in order.
Source: `do_compact/3` -/
def pruneStatements : List (Db → Db × Nat) :=
  [deleteExpiredResults c, deleteTerminalTasks c, deleteTerminalSessions c,
    deleteTerminalServingInstances c, deleteTerminalStatefulInstances c,
    deleteTerminalGroupInstances c]

/-- Run statements in order, with the number of rows each deleted. -/
def runStatements : List (Db → Db × Nat) → Db → Db × List Nat
  | [], db => (db, [])
  | f :: fs, db =>
    let first := f db
    let rest := runStatements fs first.1
    (rest.1, first.2 :: rest.2)

/-- The journal half of a batch, after `write_marker` only or after both statements.
Source: `compact_ops/4` -/
def compactOps : Db × Nat :=
  let marked := db.journal.advance (db.blocks c.cutoff)
  if c.completed < 7 then (db, 0)
  else if c.completed = 7 then ({ db with journal := marked }, 0)
  else
    ({ db with journal := marked.deletePrefix c.batch c.opScan },
      (marked.victims c.batch c.opScan).length)

/-- One batch: its reply, `none` when a statement failed, and the database it leaves.
Source: `do_compact/3` -/
def doCompact (db : Db) (c : CompactArgs) : Option CompactReply × Db :=
  let pruned := runStatements ((pruneStatements c).take c.completed) db
  let compacted := compactOps c pruned.1
  let deleted := pruned.2 ++ [compacted.2]
  (if c.completed < 8 then none
    else some ⟨deleted, compacted.1.journal.marker, deleted.all (· < c.batch)⟩, compacted.1)

/-- `db'` is `db` after some retention pruning: rows in a terminal state may be gone, and nothing
else that compaction or a store's rebuild reads has changed. -/
structure PrunedFrom (db db' : Db) : Prop where
  journal : db'.journal = db.journal
  residency : db'.other.residencyIntents = db.other.residencyIntents
  tasks : Table.Thinned (fun row => row.state.terminal) db.task.tasks db'.task.tasks
  sessions : Table.Thinned (fun row => row.state.terminal) db.other.sessions db'.other.sessions
  serving : Table.Thinned (fun row => row.state.terminal) db.other.servingInstances
    db'.other.servingInstances
  stateful : Table.Thinned (fun row => row.state.terminal) db.stateful.instances
    db'.stateful.instances
  group : Table.Thinned (fun row => row.state.terminal) db.other.groupInstances
    db'.other.groupInstances

lemma PrunedFrom.refl (db : Db) : PrunedFrom db db :=
  ⟨rfl, rfl, .refl _ _, .refl _ _, .refl _ _, .refl _ _, .refl _ _⟩

variable {db : Db}

lemma PrunedFrom.trans {db' db'' : Db} (h : PrunedFrom db db') (h' : PrunedFrom db' db'') :
    PrunedFrom db db'' :=
  ⟨h'.journal.trans h.journal, h'.residency.trans h.residency, h.tasks.trans h'.tasks,
    h.sessions.trans h'.sessions, h.serving.trans h'.serving, h.stateful.trans h'.stateful,
    h.group.trans h'.group⟩

variable {c : CompactArgs}

/-- Every retention statement only prunes. -/
lemma prunedFrom_of_mem_pruneStatements {f : Db → Db × Nat} (hf : f ∈ pruneStatements c) (db : Db) :
    PrunedFrom db (f db).1 := by
  have haged : ∀ {a b : Bool}, (a && b) = true → a = true := fun h => (Bool.and_eq_true_iff.mp h).1
  simp only [pruneStatements, List.mem_cons, List.not_mem_nil, or_false] at hf
  rcases hf with rfl | rfl | rfl | rfl | rfl | rfl
  · exact ⟨rfl, rfl, .refl _ _, .refl _ _, .refl _ _, .refl _ _, .refl _ _⟩
  · exact { PrunedFrom.refl db with
      tasks := Table.thinned_deleteLimit _ (fun _ _ h => haged h) _ _ }
  · exact { PrunedFrom.refl db with
      sessions := Table.thinned_deleteLimit _
        (fun _ _ h => haged (Bool.and_eq_true_iff.mp h).2) _ _ }
  · exact { PrunedFrom.refl db with
      serving := Table.thinned_deleteLimit _ (fun _ _ h => haged h) _ _ }
  · exact { PrunedFrom.refl db with
      stateful := Table.thinned_deleteLimit _ (fun _ _ h => haged h) _ _ }
  · exact { PrunedFrom.refl db with
      group := Table.thinned_deleteLimit _ (fun _ _ h => haged h) _ _ }

/-- Any part of the retention statements only prunes. -/
lemma prunedFrom_runStatements {fs : List (Db → Db × Nat)} (hfs : ∀ f ∈ fs, f ∈ pruneStatements c)
    (db : Db) : PrunedFrom db (runStatements fs db).1 := by
  induction fs generalizing db with
  | nil => exact .refl db
  | cons f fs ih =>
    exact (prunedFrom_of_mem_pruneStatements (hfs f (by simp)) db).trans
      (ih (fun g hg => hfs g (by simp [hg])) _)

/-- Pruning changes nothing about which ops are owned by a live entity. -/
lemma PrunedFrom.ownedByLive_eq {db' : Db} (h : PrunedFrom db db') (op : Op) :
    db'.ownedByLive op = db.ownedByLive op := by
  have htask : ∀ row : TaskRow, row.state.terminal = true → taskLive row = false := by
    intro row hrow
    unfold taskLive
    cases hs : row.state <;> simp_all [TaskState.terminal]
  have hstateful : ∀ row : StatefulRow, row.state.terminal = true → statefulLive row = false := by
    intro row hrow
    unfold statefulLive
    cases hs : row.state <;> simp_all [StatefulState.terminal]
  unfold ownedByLive
  rw [h.residency]
  simp only [h.tasks.any_lookup htask, h.stateful.any_lookup hstateful,
    h.sessions.any_lookup (p := sessionLive) (fun _ hq => by simp [sessionLive, hq]),
    h.serving.any_lookup (p := servingLive) (fun _ hq => by simp [servingLive, hq]),
    h.group.any_lookup (p := groupLive) (fun _ hq => by simp [groupLive, hq])]

/-- The journal after a batch, by the statements that completed. -/
lemma journal_doCompact_eq (db : Db) (c : CompactArgs) : (db.doCompact c).2.journal =
      if c.completed < 7 then db.journal
      else if c.completed = 7 then db.journal.advance (db.blocks c.cutoff)
      else (db.journal.advance (db.blocks c.cutoff)).deletePrefix c.batch c.opScan := by
  have hpruned : PrunedFrom db (runStatements ((pruneStatements c).take c.completed) db).1 :=
    prunedFrom_runStatements (fun f hf => List.mem_of_mem_take hf) db
  have hblocks : (runStatements ((pruneStatements c).take c.completed) db).1.blocks c.cutoff =
      db.blocks c.cutoff := by
    funext row
    simp only [blocks, hpruned.ownedByLive_eq]
  unfold doCompact compactOps
  simp only [hblocks, hpruned.journal]
  split
  · exact hpruned.journal
  · split
    · rfl
    · rfl

/-- **What a batch can do to the journal**: nothing, move the marker below the first op that must
stay, or also delete rows behind it. -/
theorem journal_doCompact (db : Db) (c : CompactArgs) : (db.doCompact c).2.journal = db.journal ∨
      (db.doCompact c).2.journal = db.journal.advance (db.blocks c.cutoff) ∨
      (db.doCompact c).2.journal =
        (db.journal.advance (db.blocks c.cutoff)).deletePrefix c.batch c.opScan := by
  rw [journal_doCompact_eq]
  split
  · exact .inl rfl
  · split
    · exact .inr (.inl rfl)
    · exact .inr (.inr rfl)

variable {r : Nat × Op}

/-- A batch adds nothing to the journal. -/
lemma mem_rows_of_mem_doCompact (hr : r ∈ (db.doCompact c).2.journal.rows) :
    r ∈ db.journal.rows := by
  rcases db.journal_doCompact c with hj | hj | hj
  · exact hj ▸ hr
  · rw [hj] at hr
    exact hr
  · rw [hj] at hr
    exact List.mem_of_mem_filter hr

/-- **An op above the marker that a live entity owns stays there**, whatever batch runs. -/
theorem doCompact_keeps (hr : r ∈ db.journal.rows) (hpos : 0 < r.1) (hm : db.journal.marker < r.1)
    (hlive : db.ownedByLive r.2 = true) (c : CompactArgs) :
    r ∈ (db.doCompact c).2.journal.rows ∧ (db.doCompact c).2.journal.marker < r.1 := by
  have hblocks : db.blocks c.cutoff r = true := by
    rw [blocks, hlive, Bool.or_true]
  have hadv : (db.journal.advance (db.blocks c.cutoff)).marker < r.1 :=
    Journal.marker_advance_lt hr hpos hm hblocks
  rcases db.journal_doCompact c with hj | hj | hj
  · rw [hj]
    exact ⟨hr, hm⟩
  · rw [hj]
    exact ⟨hr, hadv⟩
  · rw [hj]
    exact ⟨Journal.mem_deletePrefix (j := db.journal.advance _) hr hadv _ _, hadv⟩

lemma thinned_doCompact_tasks (db : Db) (c : CompactArgs) :
    Table.Thinned (fun row => row.state.terminal) db.task.tasks (db.doCompact c).2.task.tasks := by
  have hpruned : PrunedFrom db (runStatements ((pruneStatements c).take c.completed) db).1 :=
    prunedFrom_runStatements (fun f hf => List.mem_of_mem_take hf) db
  unfold doCompact compactOps
  simp only
  split
  · exact hpruned.tasks
  · split
    · exact hpruned.tasks
    · exact hpruned.tasks

end Db

/-! ## Runs of appends and batches -/

/-- An event of the op-log: an append of some op, the early eviction of one task row, or a
compaction batch. -/
inductive DbEvent where
  | appendTask (op : TaskOp) (fault : Option AppendFault)
  | appendStateful (op : StatefulOp) (fault : Option AppendFault)
  | appendOther (op : OtherOp) (after : OtherTables)
  | evictTask (taskId : String)
  | compact (c : CompactArgs)

/-- The database with the ops ever appended to it. -/
structure Logged where
  db : Db
  history : List (Nat × Op)

namespace Logged

/-- A new database, to which nothing was appended. -/
def init : Logged := ⟨.empty, []⟩

/-- The state after an append that left `db`: an op that landed, whatever the append answered, is in
the history under its number. -/
def appended (s : Logged) (op : Op) (db : Db) : Logged where
  db := db
  history :=
    if s.db.journal.lastSeq < db.journal.lastSeq then
      s.history ++ [(s.db.journal.lastSeq + 1, op)]
    else s.history

/-- One event. -/
def step (s : Logged) : DbEvent → Logged
  | .appendTask op fault => s.appended (.task op) (left (s.db.appendTask op fault))
  | .appendStateful op fault => s.appended (.stateful op) (left (s.db.appendStateful op fault))
  | .appendOther op after => s.appended (.other op) (s.db.appendOther op after)
  | .evictTask taskId =>
    ⟨{ s.db with task := s.db.task.evictTask taskId }, s.history⟩
  | .compact c => ⟨(s.db.doCompact c).2, s.history⟩

/-- The state a run of events ends in. -/
def after (es : List DbEvent) : Logged := run step init es

variable {s : Logged}

/-- An append leaves the journal as it was or appends the op to journal and history. -/
lemma journal_appended {op : Op} {db : Db} (hdb : db = s.db ∨ db.journal = s.db.journal.append op) :
    ((s.appended op db).db.journal = s.db.journal ∧ (s.appended op db).history = s.history) ∨
      ((s.appended op db).db.journal = s.db.journal.append op ∧
        (s.appended op db).history = s.history ++ [(s.db.journal.lastSeq + 1, op)]) := by
  rcases hdb with rfl | hj
  · exact .inl ⟨rfl, if_neg (Nat.lt_irrefl _)⟩
  · have hlt : s.db.journal.lastSeq < db.journal.lastSeq := by
      rw [hj]
      exact Nat.lt_succ_self _
    exact .inr ⟨hj, if_pos hlt⟩

/-- **What one event can do to journal and history.** -/
theorem step_cases (s : Logged) (e : DbEvent) :
    ((s.step e).db.journal = s.db.journal ∧ (s.step e).history = s.history) ∨
      (∃ op, (s.step e).db.journal = s.db.journal.append op ∧
        (s.step e).history = s.history ++ [(s.db.journal.lastSeq + 1, op)]) ∨
      (∃ p, (s.step e).db.journal = s.db.journal.advance p ∧ (s.step e).history = s.history) ∨
      (∃ p n scan, (s.step e).db.journal = (s.db.journal.advance p).deletePrefix n scan ∧
        (s.step e).history = s.history) := by
  cases e with
  | appendTask op fault =>
    have hdb : left (s.db.appendTask op fault) = s.db ∨
        (left (s.db.appendTask op fault)).journal = s.db.journal.append (.task op) :=
      (s.db.left_appendTask op fault).imp_right fun ⟨_, _, h⟩ => congrArg Db.journal h
    exact (journal_appended hdb).imp_right fun h => .inl ⟨.task op, h⟩
  | appendStateful op fault =>
    have hdb : left (s.db.appendStateful op fault) = s.db ∨
        (left (s.db.appendStateful op fault)).journal = s.db.journal.append (.stateful op) :=
      (s.db.left_appendStateful op fault).imp_right fun ⟨_, _, h⟩ => congrArg Db.journal h
    exact (journal_appended hdb).imp_right fun h => .inl ⟨.stateful op, h⟩
  | appendOther op after =>
    exact (journal_appended (.inr rfl)).imp_right fun h => .inl ⟨.other op, h⟩
  | evictTask taskId => exact .inl ⟨rfl, rfl⟩
  | compact c =>
    rcases s.db.journal_doCompact c with h | h | h
    · exact .inl ⟨h, rfl⟩
    · exact .inr (.inr (.inl ⟨_, h, rfl⟩))
    · exact .inr (.inr (.inr ⟨_, _, _, h, rfl⟩))

/-- Every event keeps the journal a compaction of the history. -/
lemma tracks_step (h : Journal.Tracks s.history s.db.journal) (e : DbEvent) :
    Journal.Tracks (s.step e).history (s.step e).db.journal := by
  rcases s.step_cases e with ⟨hj, hh⟩ | ⟨op, hj, hh⟩ | ⟨p, hj, hh⟩ | ⟨p, n, scan, hj, hh⟩
  · rw [hj, hh]
    exact h
  · rw [hj, hh]
    exact h.append op
  · rw [hj, hh]
    exact h.advance p
  · rw [hj, hh]
    exact (h.advance p).deletePrefix n scan

lemma tracks_after (es : List DbEvent) : Journal.Tracks (after es).history (after es).db.journal :=
  run_invariant (fun s : Logged => Journal.Tracks s.history s.db.journal)
    (fun _ e h => tracks_step h e) Journal.tracks_empty es

lemma marker_le_step (s : Logged) (e : DbEvent) :
    s.db.journal.marker ≤ (s.step e).db.journal.marker := by
  rcases s.step_cases e with ⟨hj, -⟩ | ⟨op, hj, -⟩ | ⟨p, hj, -⟩ | ⟨p, n, scan, hj, -⟩
  · rw [hj]
  · rw [hj]
    exact le_rfl
  · rw [hj]
    exact Journal.marker_le_advance _ p
  · rw [hj]
    exact Journal.marker_le_advance _ p

lemma marker_le_run (s : Logged) (es : List DbEvent) :
    s.db.journal.marker ≤ (run step s es).db.journal.marker :=
  run_invariant (fun s' : Logged => s.db.journal.marker ≤ s'.db.journal.marker)
    (fun s' e h => h.trans (s'.marker_le_step e)) le_rfl es

/-- Which ops a batch deletes: those its marker covered already, and those older than its horizon
that no live entity owns. -/
lemma deleted_by_batch (h : Journal.Tracks s.history s.db.journal) (c : CompactArgs) {r : Nat × Op}
    (hr : r ∈ s.db.journal.rows) (hdel : r ∉ (s.step (.compact c)).db.journal.rows) :
    r.1 ≤ s.db.journal.marker ∨ (r.2.ts < c.cutoff ∧ s.db.ownedByLive r.2 = false) := by
  have hstep : (s.step (.compact c)).db.journal = (s.db.doCompact c).2.journal := rfl
  rw [hstep] at hdel
  rcases s.db.journal_doCompact c with hj | hj | hj
  · rw [hj] at hdel
    exact absurd hr hdel
  · rw [hj] at hdel
    exact absurd hr hdel
  · rw [hj] at hdel
    have hle := Journal.le_marker_of_deleted (j := s.db.journal.advance _) hr hdel
    rcases Journal.le_marker_advance hr (Journal.pos_of_tracks h hr) hle with hm | hb
    · exact .inl hm
    · unfold Db.blocks at hb
      rw [Bool.or_eq_false_iff, decide_eq_false_iff_not, not_le] at hb
      exact .inr hb

/-- **Compaction is invisible at and above the marker.** In every run of appends, evictions and
compaction batches: the marker never decreases; the numbers of the ops ever appended increase; a
reader at or above the marker gets exactly the ops appended after its cursor, one below it is
refused; and every op a batch deletes was at or below the marker before that batch, or is older
than the batch's horizon and owned by no entity that is live when the batch runs.
Source: `compact_ops/4` ("the marker never decreases, so a shrinking horizon or a task
going live again can never un-compact already-projected history") -/
theorem compaction_above_marker (es : List DbEvent) :
    (∀ fs, (after es).db.journal.marker ≤ (after (es ++ fs)).db.journal.marker) ∧
      (after es).history.Pairwise (fun a b => a.1 < b.1) ∧
      (∀ n, (after es).db.journal.marker ≤ n →
        (after es).db.readFrom n = .ok ((after es).history.filter fun r => n < r.1)) ∧
      (∀ n, n < (after es).db.journal.marker →
        (after es).db.readFrom n = .error (after es).db.journal.marker) ∧
      (∀ c, ∀ r ∈ (after es).db.journal.rows,
        r ∉ ((after es).step (.compact c)).db.journal.rows →
          r.1 ≤ (after es).db.journal.marker ∨
            (r.2.ts < c.cutoff ∧ (after es).db.ownedByLive r.2 = false)) := by
  have ht := tracks_after es
  refine ⟨fun fs => ?_, ht.2.1, fun n hn => Journal.readFrom_eq_of_tracks ht hn,
    fun n hn => if_pos hn, fun c r hr hdel => ?_⟩
  · have hrun : after (es ++ fs) = run step (after es) fs := run_append step init es fs
    rw [hrun]
    exact marker_le_run (after es) fs
  · exact deleted_by_batch ht c hr hdel

/-! ## A batch that meets a redriven task -/

/-- One day in milliseconds. -/
def dayMs : Int := 86400000

/-- A task that runs for weeks, fails for good and is dead-lettered: five ops, the first three
forty days old. -/
def longTask : List DbEvent :=
  [(TaskOpKind.submitted none none none, 0), (.assigned (some 1) none none, 0),
    (.started (some 1) none none, 0), (.failed .failedPermanent .timeout, 39 * dayMs),
    (.deadLettered, 39 * dayMs)].map fun (kind, ts) =>
      .appendTask ⟨kind, "homelab", some "p", "w", "t", ts⟩ none

/-- A complete batch of one row at day forty, with the default ages of seven and thirty days. -/
def smallBatch : CompactArgs where
  nowMs := 40 * dayMs
  retentionMs := 7 * dayMs
  journalHorizonMs := 30 * dayMs
  batch := 1
  resultScan := ["t"]
  taskScan := ["t"]
  sessionScan := []
  servingScan := []
  statefulScan := []
  groupScan := []
  opScan := [1, 2, 3, 4, 5, 6]
  completed := 8

/-- The marker passes the first three ops while the task is dead-lettered, the first batch deletes
one of them, and the task is redriven before the second. -/
def redrivenRun : List DbEvent :=
  longTask ++ [.compact smallBatch,
    .appendTask ⟨.redrive, "homelab", some "p", "w", "t", 40 * dayMs⟩ none]

/-- The second batch deletes the `assigned` op of a task that is queued again. -/
theorem batch_deletes_op_of_live_task : ∃ r ∈ (after redrivenRun).db.journal.rows,
      r ∉ ((after redrivenRun).step (.compact smallBatch)).db.journal.rows ∧
        (after redrivenRun).db.ownedByLive r.2 = true := by
  refine ⟨(2, .task ⟨.assigned (some 1) none none, "homelab", some "p", "w", "t", 0⟩), ?_, ?_, ?_⟩
  · decide +kernel
  · decide +kernel
  · decide +kernel

end Logged

end Homelab.Embervm.OpLog
