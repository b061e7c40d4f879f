import Mathlib.Logic.Relation
import Homelab.Embervm.TaskStore

/-!
# What a call can do to the task store

Every handler of `Embervm.TaskStore` is a sequence of a few kinds of changes. They are said once
here, and an invariant of the store is proved change by change.

* `Change s l s'` is one change, labelled by what it is: an accepted write-through on a stored task,
  an accepted submission, the eviction of a lapsed task, a capacity count, background work of the
  op-log, a restart. A write, submission or eviction that timed out and was served all the same is a
  change of the op-log alone, with a label of its own (`wroteLate`, `submittedLate`, `evictedLate`).
* `Task.allows` is when the store writes an op of a kind for a task: the FSM has the edge, and an
  `assigned` or `started` op carries the task's attempt. `TaskOpKind.onTask` is what the write does
  to the task in memory.
* `TaskCall.makes` says which changes a call can make, and `step_path` that it makes no others.
-/

namespace Homelab.Embervm

open Homelab.Lib
open Homelab.Embervm.OpLog

/-! ## Background work -/

/-- Work of the op-log that prunes nothing. -/
def Background.quiet : Background → Prop
  | .compact _ => False
  | _ => True

lemma Background.task_apply_of_quiet {b : Background} (h : b.quiet) (db : Db) :
    (b.apply db).task = db.task := by
  cases b with
  | stateful op fault =>
    show (left (db.appendStateful op fault)).task = db.task
    rcases db.left_appendStateful op fault with h | ⟨t, -, h⟩
    · rw [h]
    · rw [h]
  | other op after => rfl
  | compact c => exact h.elim

/-- Whatever the op-log does for others, a task row goes only when it is terminal. -/
lemma Background.thinned_apply (b : Background) (db : Db) :
    Table.Thinned (fun row : TaskRow => row.state.terminal) db.task.tasks
      (b.apply db).task.tasks := by
  cases b with
  | compact c => exact db.thinned_doCompact_tasks c
  | stateful op fault =>
    rw [Background.task_apply_of_quiet (b := .stateful op fault) trivial]
    exact Table.Thinned.refl _ _
  | other op after => exact Table.Thinned.refl _ _

/-! ## Changes -/

/-- What an accepted op of a kind does to its task in memory. -/
def OpLog.TaskOpKind.onTask (ts : Int) (task : Task) : TaskOpKind → Task
  | .submitted _ _ _ => task
  | .assigned _ _ _ => { task with state := .assigned, updatedAt := ts }
  | .started _ _ _ => { task with state := .running, updatedAt := ts }
  | .succeeded _ => { task with state := .succeeded, updatedAt := ts }
  | .failed state _ => { task with state := state, updatedAt := ts }
  | .retried => { task with state := .queued, attempt := task.attempt + 1, updatedAt := ts }
  | .deadLettered => { task with state := .deadLettered, updatedAt := ts }
  | .redrive =>
    { task with state := .queued, attempt := 1, updatedAt := ts, capacityRetries := 0 }

/-- When the store writes an op of a kind for a task. -/
def Task.allows (task : Task) : TaskOpKind → Prop
  | .submitted _ _ _ => False
  | .assigned epoch _ _ => task.state = .queued ∧ epoch = some task.attempt
  | .started epoch _ _ => task.state = .assigned ∧ epoch = some task.attempt
  | .succeeded _ => task.state = .running
  | .failed next _ => task.state.terminal = false ∧
      (next = .failedRetryable ∨ next = .failedPermanent)
  | .retried => task.state = .failedRetryable
  | .deadLettered => task.state = .failedPermanent
  | .redrive => task.state = .deadLettered

/-- The name of a change. -/
inductive ChangeLabel where
  | wrote (taskId : String) (kind : TaskOpKind)
  | submitted (taskId : String)
  | evicted (taskId : String)
  | wroteLate (taskId : String) (kind : TaskOpKind)
  | submittedLate (taskId : String)
  | evictedLate (taskId : String)
  | counted (taskId : String)
  | background (b : Background)
  | restarted

namespace ChangeLabel

variable (taskId : String) (kind : TaskOpKind) (io : AppendIo) (l : ChangeLabel)

/-- The labels of changes that leave the task `id` in memory alone. -/
def spares (id : String) : ChangeLabel → Prop
  | .wrote taskId _ | .submitted taskId | .evicted taskId | .counted taskId => id ≠ taskId
  | .restarted => False
  | _ => True

/-- The label of a change that its caller was not told of. -/
def late : ChangeLabel → Bool
  | .wroteLate _ _ | .submittedLate _ | .evictedLate _ => true
  | _ => false

/-- The label of a submission, retry or redrive of the task `id` that its caller was not told of. -/
def recounts (id : String) : ChangeLabel → Prop
  | .wroteLate taskId kind => taskId = id ∧ (kind = .retried ∨ kind = .redrive)
  | .submittedLate taskId => taskId = id
  | _ => False

/-- The labels of one append for a task. -/
def ofAppend : Prop :=
  (io.fault = none ∧ l = .wrote taskId kind) ∨
    (io.fault = some .timedOut ∧ l = .wroteLate taskId kind)

/-- The labels of a failure of one task. -/
def ofFail (io : TaskStore.FailIo) : Prop :=
  (∃ next reason, l.ofAppend taskId (.failed next reason) io.failed) ∨ l = .counted taskId ∨
    l.ofAppend taskId .deadLettered io.deadLettered ∨ ∃ b ∈ io.between, l = .background b

/-- The labels of what a submission does before it appends. -/
def beforeSubmit (io : TaskStore.SubmitIo) : Prop :=
  (io.evictFault = none ∧ ∃ id, l = .evicted id) ∨
    (io.evictFault = some .timedOut ∧ ∃ id, l = .evictedLate id) ∨
    ∃ b, (b ∈ io.afterRead ∨ b ∈ io.afterEvict) ∧ l = .background b

end ChangeLabel

namespace TaskStore

/-- One change of the store. -/
inductive Change (s : TaskStore) : ChangeLabel → TaskStore → Prop where
  /-- A write-through the op-log accepted; the task may have been given its brick before. -/
  | wrote {taskId : String} {task : Task} {kind : TaskOpKind} {ts : Int} {db : Db}
      (nodeId : Option String) (ht : s.tasks.lookup taskId = some task) (hallows : task.allows kind)
      (happ : s.db.appendTask (opOf taskId (withNode task nodeId) kind ts) none = .ok db) :
      Change s (.wrote taskId kind)
        { s with db := db, tasks := s.tasks.insert taskId (kind.onTask ts (withNode task nodeId)) }
  | submitted {attrs : SubmitAttrs} {taskId : String} {ts : Int} {db : Db}
      (happ : s.db.appendTask (submitOp attrs taskId ts) none = .ok db) :
      Change s (.submitted taskId) (s.insertSubmitted db attrs taskId ts)
  | evicted {taskId : String} {task : Task} (workload key : String)
      (ht : s.tasks.lookup taskId = some task) (hterm : task.state.terminal = true)
      (hidem : s.idem.lookup (workload, key) = some taskId) :
      Change s (.evicted taskId) (s.evict (s.db.evicting taskId) workload key taskId)
  /-- A write-through that timed out and was accepted. -/
  | wroteLate {taskId : String} {task : Task} {kind : TaskOpKind} {ts : Int} {db : Db}
      (nodeId : Option String) (ht : s.tasks.lookup taskId = some task) (hallows : task.allows kind)
      (happ : s.db.appendTask (opOf taskId (withNode task nodeId) kind ts) none = .ok db) :
      Change s (.wroteLate taskId kind) { s with db := db }
  | submittedLate {attrs : SubmitAttrs} {taskId : String} {ts : Int} {db : Db}
      (happ : s.db.appendTask (submitOp attrs taskId ts) none = .ok db) :
      Change s (.submittedLate taskId) { s with db := db }
  | evictedLate {taskId : String} {task : Task} (ht : s.tasks.lookup taskId = some task)
      (hterm : task.state.terminal = true) :
      Change s (.evictedLate taskId) { s with db := s.db.evicting taskId }
  | counted {taskId : String} {task : Task} (ht : s.tasks.lookup taskId = some task) :
      Change s (.counted taskId) { s with
        tasks := s.tasks.insert taskId { task with capacityRetries := task.capacityRetries + 1 } }
  | background (b : Background) : Change s (.background b) (s.interfere [b])
  | restarted : Change s .restarted (rebuild s.db)

/-- A sequence of changes with labels in `A`. -/
def Path (A : ChangeLabel → Prop) : TaskStore → TaskStore → Prop :=
  Relation.ReflTransGen fun s s' => ∃ l, A l ∧ Change s l s'

variable {A : ChangeLabel → Prop} {s s' s'' : TaskStore} {taskId : String} {task : Task}

lemma Path.refl (s : TaskStore) : Path A s s := Relation.ReflTransGen.refl

lemma Path.trans (h : Path A s s') (h' : Path A s' s'') : Path A s s'' :=
  Relation.ReflTransGen.trans h h'

lemma Change.path {l : ChangeLabel} (h : Change s l s') (hl : A l) : Path A s s' :=
  Relation.ReflTransGen.single ⟨l, hl, h⟩

/-- **Invariant rule for paths.** -/
theorem Path.induction (I : TaskStore → Prop)
    (hstep : ∀ {s l s'}, I s → A l → Change s l s' → I s') (h : Path A s s') (h0 : I s) : I s' := by
  induction h with
  | refl => exact h0
  | tail _ hlast ih =>
    obtain ⟨l, hl, hc⟩ := hlast
    exact hstep ih hl hc

variable {nodeId : Option String} {kind : TaskOpKind}

/-- The rows after an accepted write: `onRow` on the row of the task, the others as they were. -/
lemma lookup_project_of_allows (hallows : task.allows kind) {ts : Int} {t t' : TaskTables}
    (hp : t.project (opOf taskId (withNode task nodeId) kind ts) = .ok t') (id : String) :
    t'.tasks.lookup id = if id = taskId then
      (t.tasks.lookup taskId).map (opOf taskId (withNode task nodeId) kind ts).onRow
      else t.tasks.lookup id := by
  refine TaskTables.lookup_project_of_isUpdate ?_ hp id
  show kind.isUpdate = true
  cases kind with
  | submitted key expiresAt request => exact hallows.elim
  | _ => rfl

/-! ## The building blocks of the handlers -/

lemma path_interfere {bg : List Background} (hA : ∀ b ∈ bg, A (.background b)) :
    Path A s (s.interfere bg) := by
  induction bg generalizing s with
  | nil => exact Path.refl s
  | cons b bg ih =>
    have hb : Path A s (s.interfere [b]) := (Change.background b).path (hA b List.mem_cons_self)
    exact hb.trans (ih fun b hb => hA b (List.mem_cons_of_mem _ hb))

/-- A write that is answered with an error has changed nothing, or the op-log alone. -/
def Withheld (s : TaskStore) (taskId : String) (kind : TaskOpKind) (io : AppendIo)
    (s' : TaskStore) : Prop :=
  s' = s ∨ (io.fault = some .timedOut ∧ Change s (.wroteLate taskId kind) s')

lemma Withheld.path {io : AppendIo} (h : Withheld s taskId kind io s')
    (hA : ∀ l, ChangeLabel.ofAppend taskId kind io l → A l) : Path A s s' := by
  rcases h with rfl | ⟨hf, hc⟩
  · exact Path.refl _
  · exact hc.path (hA _ (.inr ⟨hf, rfl⟩))

/-- A write-through is the change its kind stands for, or an error. -/
lemma writeThrough_cases (ht : s.tasks.lookup taskId = some task) (hallows : task.allows kind)
    {t : Task} (hnode : t = withNode task nodeId) (update : Task → Task) (io : AppendIo)
    (hup : update t = kind.onTask io.ts t) :
    (∃ e s', s.writeThrough taskId t kind update io = (.error e, s') ∧
        Withheld s taskId kind io s') ∨
      ∃ s', s.writeThrough taskId t kind update io = (.ok (update t), s') ∧ io.fault = none ∧
        Change s (.wrote taskId kind) s' ∧ s'.tasks.lookup taskId = some (update t) := by
  subst hnode
  unfold writeThrough
  rcases happ : s.db.appendTask (opOf taskId (withNode task nodeId) kind io.ts) io.fault with
    ⟨e, db⟩ | db
  · refine .inl ⟨_, _, rfl, ?_⟩
    rcases Db.appendTask_eq_error happ with rfl | ⟨hf, hok⟩
    · exact .inl rfl
    · exact .inr ⟨hf, Change.wroteLate nodeId ht hallows hok⟩
  · obtain ⟨hf, -⟩ := Db.appendTask_eq_ok happ
    rw [hf] at happ
    have hc := Change.wrote nodeId ht hallows happ
    rw [← hup] at hc
    exact .inr ⟨_, rfl, hf, hc, AList.lookup_insert _⟩

lemma path_writeThrough (ht : s.tasks.lookup taskId = some task) (hallows : task.allows kind)
    {t : Task} (hnode : t = withNode task nodeId) {update : Task → Task} {io : AppendIo}
    (hup : update t = kind.onTask io.ts t)
    (hA : ∀ l, ChangeLabel.ofAppend taskId kind io l → A l) :
    Path A s (s.writeThrough taskId t kind update io).2 := by
  rcases writeThrough_cases ht hallows hnode update io hup with
    ⟨e, s', he, hw⟩ | ⟨s', hok, hf, hc, -⟩
  · rw [he]
    exact hw.path hA
  · rw [hok]
    exact hc.path (hA _ (.inl ⟨hf, rfl⟩))

/-- **Frame.** A path that spares a task leaves it as it was. -/
theorem Path.lookup_eq (h : Path A s s') {id : String} (hA : ∀ l, A l → l.spares id) :
    s'.tasks.lookup id = s.tasks.lookup id := by
  refine h.induction (fun s' => s'.tasks.lookup id = s.tasks.lookup id) ?_ rfl
  intro s1 l s2 ih hl hc
  have hid := hA l hl
  rw [← ih]
  cases hc with
  | wrote nodeId ht hallows happ | submitted happ | counted ht => exact AList.lookup_insert_ne hid
  | evicted workload key ht hterm hidem => exact AList.lookup_erase_ne hid
  | restarted => exact hid.elim
  | _ => rfl

lemma Path.mono {B : ChangeLabel → Prop} (h : Path A s s') (hAB : ∀ l, A l → B l) : Path B s s' :=
  h.induction (Path B s) (fun hp hl hc => hp.trans (hc.path (hAB _ hl))) (Path.refl s)

/-- What holds before a call and after the action the FSM allows holds after the call. -/
lemma withTransition_induction (P : TaskStore → Prop) {event : Task → TaskEvent}
    {act : Task → TaskState → Except TaskError TaskReply × TaskStore} (hs : P s)
    (hact : ∀ task next, s.tasks.lookup taskId = some task →
      task.state.transition (event task) = .ok next → P (act task next).2) :
    P (s.withTransition taskId event act).2 := by
  unfold withTransition fetchTask
  rcases ht : s.tasks.lookup taskId with _ | task
  · exact hs
  · rcases hn : task.state.transition (event task) with e | next
    · simp only [hn]
      exact hs
    · simp only [hn]
      exact hact task next ht hn

/-! ## The handlers -/

variable (s) (taskId) (event : TaskEvent)

/-- The outcome of a handler that follows one edge and writes one op: an error and no change, that
one write, or an error and the write in the op-log alone. -/
def Writes (kind : Task → TaskState → TaskOpKind) (io : AppendIo)
    (r : Except TaskError TaskReply × TaskStore) : Prop :=
  (r.2 = s ∧ ∃ e, r.1 = .error e) ∨
    ∃ task next, s.tasks.lookup taskId = some task ∧ task.state.transition event = .ok next ∧
      ((io.fault = none ∧ (∃ t, r.1 = .ok (.task t)) ∧
          Change s (.wrote taskId (kind task next)) r.2) ∨
        (io.fault = some .timedOut ∧ (∃ e, r.1 = .error e) ∧
          Change s (.wroteLate taskId (kind task next)) r.2))

theorem write_cases (kind : Task → TaskState → TaskOpKind) (nodeId : Option String)
    (update : TaskState → Task → Task) (io : AppendIo)
    (hedge : ∀ task next, task.state.transition event = .ok next →
      task.allows (kind task next) ∧ ∀ t, update next t = (kind task next).onTask io.ts t)
    {r : Except TaskError TaskReply × TaskStore}
    (hr : r = s.withTransition taskId (fun _ => event) fun task next => taskReply <|
      s.writeThrough taskId (withNode task nodeId) (kind task next) (update next) io) :
    Writes s taskId event kind io r := by
  subst hr
  unfold withTransition fetchTask
  rcases ht : s.tasks.lookup taskId with _ | task
  · exact .inl ⟨rfl, _, rfl⟩
  rcases hn : task.state.transition event with e | next
  · simp only [hn]
    exact .inl ⟨rfl, _, rfl⟩
  obtain ⟨hallows, hup⟩ := hedge task next hn
  rcases writeThrough_cases ht hallows rfl (update next) io (hup (withNode task nodeId))
    with ⟨e, s', he, rfl | ⟨hf, hc⟩⟩ | ⟨s', hok, hf, hc, -⟩
  · simp only [hn, taskReply, he]
    exact .inl ⟨rfl, e, rfl⟩
  · simp only [hn, taskReply, he]
    exact .inr ⟨task, next, ht, hn, .inr ⟨hf, ⟨e, rfl⟩, hc⟩⟩
  · simp only [hn, taskReply, hok]
    exact .inr ⟨task, next, ht, hn, .inl ⟨hf, ⟨_, rfl⟩, hc⟩⟩

lemma Writes.path {kind : Task → TaskState → TaskOpKind} {io : AppendIo}
    {r : Except TaskError TaskReply × TaskStore} (h : Writes s taskId event kind io r)
    (hA : ∀ task next, task.state.transition event = .ok next →
      ∀ l, ChangeLabel.ofAppend taskId (kind task next) io l → A l) : Path A s r.2 := by
  rcases h with ⟨he, -⟩ | ⟨task, next, -, hn, ⟨hf, -, hc⟩ | ⟨hf, -, hc⟩⟩
  · rw [he]
    exact Path.refl s
  · exact hc.path (hA task next hn _ (.inl ⟨hf, rfl⟩))
  · exact hc.path (hA task next hn _ (.inr ⟨hf, rfl⟩))

lemma retry_cases (io : AppendIo) :
    Writes s taskId .retry (fun _ _ => .retried) io (s.retry taskId io) := by
  refine write_cases s taskId .retry (fun _ _ => .retried) none
    (fun next t => { t with state := next, attempt := t.attempt + 1, updatedAt := io.ts }) io ?_ rfl
  intro task next hn
  unfold Task.allows
  revert hn
  cases task.state <;> simp +contextual [TaskState.transition, TaskOpKind.onTask, eq_comm]

lemma redrive_cases (io : AppendIo) :
    Writes s taskId .redrive (fun _ _ => .redrive) io (s.redrive taskId io) := by
  refine write_cases s taskId .redrive (fun _ _ => .redrive) none (fun next t =>
    { t with state := next, attempt := 1, updatedAt := io.ts, capacityRetries := 0 }) io ?_ rfl
  intro task next hn
  unfold Task.allows
  revert hn
  cases task.state <;> simp +contextual [TaskState.transition, TaskOpKind.onTask, eq_comm]

variable {taskId} {s}

/-- The same as a path. -/
lemma path_write (kind : Task → TaskState → TaskOpKind)
    (nodeId : Option String) (io : AppendIo)
    (hedge : ∀ task next, task.state.transition event = .ok next → task.allows (kind task next) ∧
      (∀ l, ChangeLabel.ofAppend taskId (kind task next) io l → A l) ∧ ∀ t : Task,
        { t with state := next, updatedAt := io.ts } = (kind task next).onTask io.ts t) :
    Path A s (s.withTransition taskId (fun _ => event) fun task next => taskReply <|
      s.appendAndUpdate taskId (withNode task nodeId) (kind task next) next io).2 :=
  (write_cases s taskId event kind nodeId
    (fun next t => { t with state := next, updatedAt := io.ts }) io
    (fun task next hn => ⟨(hedge task next hn).1, (hedge task next hn).2.2⟩) rfl).path
    s taskId event
    fun task next hn => (hedge task next hn).2.1

variable {cfg : RetryConfig} {reason : FailReason} {next : TaskState} {attempt : Nat}

/-- A failure leaves a live state for one of the two failed ones. -/
lemma allows_failed (h : task.state.transition (Retry.classify reason attempt cfg) = .ok next) :
    task.allows (.failed next reason) := by
  unfold Task.allows
  rcases Retry.classify_eq reason attempt cfg with he | he
  all_goals
    rw [he] at h
    revert h
    cases task.state <;> simp +contextual [TaskState.transition, TaskState.terminal, eq_comm]

section

variable (ht : s.tasks.lookup taskId = some task)
include ht

/-- The first append of a failure: its error ends the call, or the task is in memory as written. -/
lemma failed_cases (hn : task.state.transition (Retry.classify reason attempt cfg) = .ok next)
    (io : FailIo) : ∃ answer s1,
      s.appendAndUpdate taskId task (.failed next reason) next io.failed = (answer, s1) ∧
        Path (ChangeLabel.ofFail taskId · io) s s1 ∧
        ∀ t, answer = .ok t → s1.tasks.lookup taskId = some t := by
  have hnode : task = withNode task none := rfl
  rcases writeThrough_cases ht (allows_failed hn) hnode
    (fun t => { t with state := next, updatedAt := io.failed.ts }) io.failed rfl
    with ⟨e, s1, he, hw⟩ | ⟨s1, hok, hf, hc, ht1⟩
  · exact ⟨_, s1, he, hw.path fun l hl => .inl ⟨next, reason, hl⟩, nofun⟩
  · refine ⟨_, s1, hok, hc.path (.inl ⟨next, reason, .inl ⟨hf, rfl⟩⟩), ?_⟩
    rintro t ⟨⟩
    exact ht1

lemma path_deadLetter (catalog : Catalog) (io : AppendIo)
    (hA : ∀ l, ChangeLabel.ofAppend taskId .deadLettered io l → A l) :
    Path A s (s.deadLetter taskId task catalog io).2 := by
  have hnode : task = withNode task none := rfl
  unfold deadLetter
  split
  · rcases hn : task.state.transition .deadLetter with e | next
    · exact Path.refl s
    · obtain ⟨hst, rfl⟩ : task.allows .deadLettered ∧ next = .deadLettered := by
        unfold Task.allows
        revert hn
        cases task.state <;> simp [TaskState.transition, eq_comm]
      exact path_writeThrough ht hst hnode rfl hA
  · exact Path.refl s

/-- The tail of a failure: background work, then the dead-letter append. -/
lemma path_fail_tail (io : FailIo) : Path (ChangeLabel.ofFail taskId · io) s
      ((s.interfere io.between).deadLetter taskId task io.catalog io.deadLettered).2 := by
  have hbg : Path (ChangeLabel.ofFail taskId · io) s (s.interfere io.between) :=
    path_interfere fun b hb => .inr (.inr (.inr ⟨b, hb, rfl⟩))
  exact hbg.trans (path_deadLetter (s := s.interfere io.between) ht io.catalog io.deadLettered
    fun l hl => .inr (.inr (.inl hl)))

lemma path_countCapacityRetry (reason : FailReason)
    (hA : A (.counted taskId)) : Path A s (s.countCapacityRetry taskId task reason).2 ∧
      (s.countCapacityRetry taskId task reason).2.tasks.lookup taskId =
        some (s.countCapacityRetry taskId task reason).1 := by
  unfold countCapacityRetry
  split
  · exact ⟨(Change.counted ht).path hA, AList.lookup_insert _⟩
  · exact ⟨Path.refl s, ht⟩

omit ht in
lemma path_fail (reason : FailReason) (rand : Nat → Nat) (io : FailIo) :
    Path (ChangeLabel.ofFail taskId · io) s (s.fail taskId reason rand io).2 := by
  refine withTransition_induction (Path _ s) (Path.refl s) fun task next ht hn => ?_
  obtain ⟨e | t, s1, heq, hp1, ht1⟩ := failed_cases ht hn io
  · rw [heq]
    exact hp1
  · have hp2 : Path (ChangeLabel.ofFail taskId · io) s1
        (s1.countCapacityRetry taskId t reason).2 ∧ _ :=
      path_countCapacityRetry (ht1 t rfl) reason (.inr (.inl rfl))
    rw [heq]
    simp only
    split
    · exact (hp1.trans hp2.1).trans (path_fail_tail hp2.2 io)
    · exact hp1.trans hp2.1

lemma path_reassignOne (reason : FailReason) (io : FailIo) :
    Path (ChangeLabel.ofFail taskId · io) s (s.reassignOne taskId task reason io) := by
  unfold reassignOne
  simp only
  split
  · exact Path.refl s
  next next hn =>
    obtain ⟨e | t, s1, heq, hp1, ht1⟩ := failed_cases ht hn io
    · rw [heq]
      exact hp1
    · rw [heq]
      simp only
      split
      · exact hp1.trans (path_fail_tail (ht1 t rfl) io)
      · exact hp1

end

/-- The fold of a node's down edge: the tasks still to come are as the fold captured them. -/
lemma path_reassign_foldl (reason : FailReason) (bg : String → List Background)
    (io : String → FailIo) (hA : ∀ id b, b ∈ bg id → A (.background b))
    (hA' : ∀ id l, ChangeLabel.ofFail id l (io id) → A l)
    {es : List (Sigma fun _ : String => Task)} (hnd : es.NodupKeys)
    (hes : ∀ e ∈ es, s.tasks.lookup e.1 = some e.2) : Path A s (es.foldl
      (fun s e => (s.interfere (bg e.1)).reassignOne e.1 e.2 reason (io e.1)) s) := by
  induction es generalizing s with
  | nil => exact Path.refl s
  | cons e es ih =>
    rw [List.nodupKeys_cons] at hnd
    have hbg : Path A s (s.interfere (bg e.1)) := path_interfere (hA e.1)
    have hone : Path (ChangeLabel.ofFail e.1 · (io e.1)) (s.interfere (bg e.1))
        ((s.interfere (bg e.1)).reassignOne e.1 e.2 reason (io e.1)) :=
      path_reassignOne (s := s.interfere (bg e.1)) (hes e List.mem_cons_self) reason (io e.1)
    refine (hbg.trans (hone.mono (hA' e.1))).trans (ih hnd.2 ?_)
    intro e' he'
    have hne : e'.1 ≠ e.1 := fun heq => hnd.1 (heq ▸ List.mem_keys_of_mem he')
    rw [hone.lookup_eq]
    · exact hes e' (List.mem_cons_of_mem _ he')
    · rintro l (⟨_, _, ⟨-, rfl⟩ | ⟨-, rfl⟩⟩ | rfl | (⟨-, rfl⟩ | ⟨-, rfl⟩) | ⟨b, -, rfl⟩) <;>
        first | exact hne | trivial

/-! ## Submission -/

variable (s) (attrs : SubmitAttrs) (io : SubmitIo)

/-- The store on which a submission that is no duplicate appends: a lapsed task under its key has
been evicted, and the op-log has done other work meanwhile. -/
def appendsOn : TaskStore :=
  match attrs.idempotencyKey with
  | none => s
  | some key =>
    match s.idem.lookup (attrs.workload, key) with
    | none => s
    | some existing =>
      match s.tasks.lookup existing with
      | none => s
      | some _ =>
        let s := s.interfere io.afterRead
        (s.evict (s.db.evicting existing) attrs.workload key existing).interfere io.afterEvict

/-- **A submission** is decided before its append, with a terminal task evicted at most; or it is
the append on the store it has reached by then. -/
theorem submit_eq :
    (∃ r, (∀ append, s.submit attrs { io with append := append } = r) ∧
      Path (ChangeLabel.beforeSubmit · io) s r.2 ∧ ∀ id, r.1 ≠ .ok (.created id)) ∨
    (Path (ChangeLabel.beforeSubmit · io) s (s.appendsOn attrs io) ∧
      ∀ append, s.submit attrs { io with append := append } =
        (s.appendsOn attrs io).doSubmit attrs { io with append := append }) := by
  unfold submit appendsOn
  rcases hkey : attrs.idempotencyKey with _ | key
  · exact .inr ⟨Path.refl s, fun _ => rfl⟩
  rcases hidem : s.idem.lookup (attrs.workload, key) with _ | existing
  · simp only [hidem]
    exact .inr ⟨Path.refl s, fun _ => trivial⟩
  rcases ht : s.tasks.lookup existing with _ | task
  · simp only [hidem, dedupeOrResubmit, fetchTask, ht]
    exact .inr ⟨Path.refl s, fun _ => trivial⟩
  simp only [hidem, dedupeOrResubmit, fetchTask, ht]
  split
  · exact .inl ⟨_, fun _ => rfl, Path.refl s, by simp⟩
  next hlive =>
  split
  · exact .inl ⟨_, fun _ => rfl, Path.refl s, by simp⟩
  unfold freshResubmit
  have hterm : task.state.terminal = true := by simpa using hlive
  have hread : Path (ChangeLabel.beforeSubmit · io) s (s.interfere io.afterRead) :=
    path_interfere fun b hb => .inr (.inr ⟨b, .inl hb, rfl⟩)
  rcases hev : (s.interfere io.afterRead).db.evictTask existing io.evictFault with ⟨e, db⟩ | db
  · simp only [hev]
    refine .inl ⟨_, fun _ => rfl, hread.trans ?_, by simp⟩
    rcases answered_eq_error hev with rfl | ⟨hf, hr⟩
    · exact Path.refl _
    · rw [← Except.ok.inj hr]
      exact (Change.evictedLate (s := s.interfere io.afterRead) ht hterm).path
        (.inr (.inl ⟨hf, existing, rfl⟩))
  · obtain ⟨hf, hr⟩ := answered_eq_ok hev
    simp only [hev, ← Except.ok.inj hr]
    have hpath : Path (ChangeLabel.beforeSubmit · io) (s.interfere io.afterRead) _ :=
      (Change.evicted attrs.workload key (s := s.interfere io.afterRead) ht hterm hidem).path
        (.inl ⟨hf, existing, rfl⟩)
    exact .inr ⟨(hread.trans hpath).trans
      (path_interfere fun b hb => .inr (.inr ⟨b, .inr hb, rfl⟩)), fun _ => trivial⟩

/-- The append on a store that a submission has reached. -/
lemma doSubmit_cases :
    (s.doSubmit attrs io).1 = .ok (.created io.taskId) ∧ io.append.fault = none ∧
        Change s (.submitted io.taskId) (s.doSubmit attrs io).2 ∨
      (∀ id, (s.doSubmit attrs io).1 ≠ .ok (.created id)) ∧
        ((s.doSubmit attrs io).2 = s ∨ io.append.fault = some .timedOut ∧
          Change s (.submittedLate io.taskId) (s.doSubmit attrs io).2) := by
  unfold doSubmit
  rcases happ : s.db.appendTask (submitOp attrs io.taskId io.append.ts) io.append.fault with
    ⟨e, db⟩ | db
  · refine .inr ⟨by simp, ?_⟩
    rcases Db.appendTask_eq_error happ with rfl | ⟨hf, hok⟩
    · exact .inl rfl
    · exact .inr ⟨hf, Change.submittedLate hok⟩
  · obtain ⟨hf, -⟩ := Db.appendTask_eq_ok happ
    rw [hf] at happ
    exact .inl ⟨rfl, hf, Change.submitted happ⟩

end TaskStore

/-! ## Calls -/

/-- The changes a call can make. -/
def TaskCall.makes : TaskCall → ChangeLabel → Prop
  | .submit _ io, l => (io.append.fault = none ∧ l = .submitted io.taskId) ∨
      (io.append.fault = some .timedOut ∧ l = .submittedLate io.taskId) ∨ l.beforeSubmit io
  | .assign taskId vmId nodeId io, l => ∃ epoch, l.ofAppend taskId (.assigned epoch vmId nodeId) io
  | .start taskId vmId nodeId io, l => ∃ epoch, l.ofAppend taskId (.started epoch vmId nodeId) io
  | .succeed taskId result io, l => l.ofAppend taskId (.succeeded result) io
  | .fail taskId _ _ io, l => l.ofFail taskId io
  | .retry taskId io, l => l.ofAppend taskId .retried io
  | .redrive taskId io, l => l.ofAppend taskId .redrive io
  | .expire taskId io, l => l.ofAppend taskId (.failed .failedPermanent .expired) io
  | .reassignInFlight _ _ bg io, l =>
    (∃ id, ∃ b ∈ bg id, l = .background b) ∨ ∃ id, l.ofFail id (io id)
  | .restart, l => l = .restarted
  | .background b, l => l = .background b

namespace TaskStore

/-- **A call makes the changes it is for and no others.** -/
theorem step_path (s : TaskStore) (call : TaskCall) : Path call.makes s (s.step call) := by
  cases call with
  | submit attrs io =>
    show Path _ s (s.submit attrs io).2
    rcases submit_eq s attrs io with ⟨r, hr, hpath, -⟩ | ⟨hpath, hr⟩
    · rw [show s.submit attrs io = r from hr io.append]
      exact hpath.mono fun l hl => .inr (.inr hl)
    · rw [show s.submit attrs io = _ from hr io.append]
      refine (hpath.mono fun l hl => .inr (.inr hl)).trans ?_
      rcases doSubmit_cases (s.appendsOn attrs io) attrs io with
        ⟨-, hf, hc⟩ | ⟨-, he | ⟨hf, hc⟩⟩
      · exact hc.path (.inl ⟨hf, rfl⟩)
      · rw [he]
        exact Path.refl _
      · exact hc.path (.inr (.inl ⟨hf, rfl⟩))
  | assign taskId vmId nodeId io =>
    refine path_write .assign (fun task _ => .assigned (some task.attempt) vmId nodeId) nodeId io
      fun task next hn => ⟨?_, fun l hl => ⟨_, hl⟩, ?_⟩
    all_goals
      simp only [Task.allows, TaskOpKind.onTask]
      revert hn
      cases task.state <;> simp +contextual [TaskState.transition, eq_comm]
  | start taskId vmId nodeId io =>
    refine path_write .start (fun task _ => .started (some task.attempt) vmId nodeId) nodeId io
      fun task next hn => ⟨?_, fun l hl => ⟨_, hl⟩, ?_⟩
    all_goals
      simp only [Task.allows, TaskOpKind.onTask]
      revert hn
      cases task.state <;> simp +contextual [TaskState.transition, eq_comm]
  | succeed taskId result io =>
    refine path_write .succeed (fun _ _ => .succeeded result) none io
      fun task next hn => ⟨?_, fun l hl => hl, ?_⟩
    all_goals
      simp only [Task.allows, TaskOpKind.onTask]
      revert hn
      cases task.state <;> simp +contextual [TaskState.transition, eq_comm]
  | expire taskId io =>
    refine path_write .expire (fun _ next => .failed next .expired) none io fun task next hn => ?_
    obtain ⟨hallows, rfl⟩ : task.allows (.failed next .expired) ∧ next = .failedPermanent := by
      unfold Task.allows
      revert hn
      cases task.state <;> simp +contextual [TaskState.transition, TaskState.terminal, eq_comm]
    exact ⟨hallows, fun l hl => hl, fun _ => rfl⟩
  | fail taskId reason rand io => exact path_fail reason rand io
  | retry taskId io => exact (retry_cases s taskId io).path s taskId .retry fun _ _ _ l hl => hl
  | redrive taskId io =>
    exact (redrive_cases s taskId io).path s taskId .redrive fun _ _ _ l hl => hl
  | reassignInFlight reason nodeId bg io =>
    refine path_reassign_foldl reason bg io (fun id b hb => .inl ⟨id, b, hb, rfl⟩)
      (fun id l hl => .inr ⟨id, hl⟩) ?_ ?_
    · exact List.NodupKeys.sublist List.filter_sublist s.tasks.nodupKeys
    · intro e he
      exact AList.mem_lookup_iff.mpr (List.mem_of_mem_filter he)
  | restart => exact Change.restarted.path rfl
  | background b => exact (Change.background b).path rfl

end TaskStore

end Homelab.Embervm
