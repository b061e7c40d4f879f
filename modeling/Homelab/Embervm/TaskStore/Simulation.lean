import Homelab.Lib.Run
import Homelab.Embervm.TaskStore.Changes

/-!
# The hot set and the projection

How `Embervm.TaskStore`'s memory and the op-log's `tasks` rows are linked along every run.

* `Linked lossy id s`: the task in memory is the one a rebuild would make of its row (up to the two
  fields that are in memory only), and where there is none there is no row. With `lossy` this is
  asked of a task that has not ended only.
* `Agrees.onRow` is where the two implementations of an event meet: the `UPDATE` of each op does to
  the row what the store does to the task.
* `TaskCall.unserved` is a call as it would be if the op-log never served what timed out. Memory is
  the same after both (`tasks_step_unserved`), so what times out can only show in the rows.
* `linked_change` and `linked_step` are the step lemmas, for both readings: without compaction
  nothing is lost, with compaction a redrive must find the row of its task (`RedriveFindsRow`).
* `hot_set_eq_rebuild`: without compaction, a task is in memory at every point what a restart would
  rebuild iff no call that timed out has changed its row. `late_submit_not_in_memory` is the run of
  the test "a timed-out append may commit late".
* `liveDurable_iff`: with compaction, no task that has not ended is ever without its row iff every
  redrive that takes effect finds the row of its task and what timed out has changed no row of such
  a task. `redrive_after_prune_not_durable` is a run in which a redrive comes after its row was
  pruned, and the task is gone at the next restart.
-/

namespace Homelab.Embervm

open Homelab.Embervm.OpLog

/-- A call during which the op-log prunes nothing. -/
def TaskCall.quiet : TaskCall → Prop
  | .submit _ io => (∀ b ∈ io.afterRead, b.quiet) ∧ ∀ b ∈ io.afterEvict, b.quiet
  | .fail _ _ _ io => ∀ b ∈ io.between, b.quiet
  | .reassignInFlight _ _ bg io =>
    ∀ id, (∀ b ∈ bg id, b.quiet) ∧ ∀ b ∈ (io id).between, b.quiet
  | .background b => b.quiet
  | _ => True

/-! ## Calls whose timed out appends are not served -/

/-- A call that times out is refused instead. -/
def OpLog.AppendFault.unserved : AppendFault → AppendFault
  | .timedOut => .refused .unavailable
  | fault => fault

/-- The append with its fault so replaced. -/
def OpLog.AppendIo.unserved (io : AppendIo) : AppendIo :=
  { io with fault := io.fault.map AppendFault.unserved }

/-- Both appends of a failure. -/
def TaskStore.FailIo.unserved (io : TaskStore.FailIo) : TaskStore.FailIo :=
  { io with failed := io.failed.unserved, deadLettered := io.deadLettered.unserved }

/-- The call as it would be if the op-log never served what timed out. -/
def TaskCall.unserved : TaskCall → TaskCall
  | .submit attrs io => .submit attrs { io with
      evictFault := io.evictFault.map AppendFault.unserved, append := io.append.unserved }
  | .assign taskId vmId nodeId io => .assign taskId vmId nodeId io.unserved
  | .start taskId vmId nodeId io => .start taskId vmId nodeId io.unserved
  | .succeed taskId result io => .succeed taskId result io.unserved
  | .fail taskId reason rand io => .fail taskId reason rand io.unserved
  | .retry taskId io => .retry taskId io.unserved
  | .redrive taskId io => .redrive taskId io.unserved
  | .expire taskId io => .expire taskId io.unserved
  | .reassignInFlight reason nodeId bg io =>
    .reassignInFlight reason nodeId bg fun id => (io id).unserved
  | call => call

lemma OpLog.unserved_ne_timedOut (fault : Option AppendFault) :
    fault.map AppendFault.unserved ≠ some .timedOut := by
  rcases fault with _ | e | _ <;> simp [AppendFault.unserved]

lemma TaskCall.quiet_unserved {call : TaskCall} (h : call.quiet) : call.unserved.quiet := by
  cases call <;> exact h

/-- Such a call changes nothing behind the store's back. -/
lemma TaskCall.late_of_makes_unserved {call : TaskCall} {l : ChangeLabel}
    (h : call.unserved.makes l) : l.late = false := by
  have hne := unserved_ne_timedOut
  cases call with
  | submit attrs io =>
    obtain ⟨-, rfl⟩ | ⟨hf, -⟩ | ⟨-, _, rfl⟩ | ⟨hf, -⟩ | ⟨b, -, rfl⟩ := h
    · rfl
    · exact absurd hf (hne _)
    · rfl
    · exact absurd hf (hne _)
    · rfl
  | assign taskId vmId nodeId io | start taskId vmId nodeId io =>
    obtain ⟨_, ⟨-, rfl⟩ | ⟨hf, -⟩⟩ := h
    · rfl
    · exact absurd hf (hne _)
  | succeed taskId result io | retry taskId io | redrive taskId io | expire taskId io =>
    obtain ⟨-, rfl⟩ | ⟨hf, -⟩ := h
    · rfl
    · exact absurd hf (hne _)
  | fail taskId reason rand io =>
    obtain ⟨_, _, ⟨-, rfl⟩ | ⟨hf, -⟩⟩ | rfl | (⟨-, rfl⟩ | ⟨hf, -⟩) | ⟨b, -, rfl⟩ := h <;>
      first | rfl | exact absurd hf (hne _)
  | reassignInFlight reason nodeId bg io =>
    obtain ⟨_, b, -, rfl⟩ | ⟨_, ⟨_, _, ⟨-, rfl⟩ | ⟨hf, -⟩⟩ | rfl | (⟨-, rfl⟩ | ⟨hf, -⟩) |
      ⟨b, -, rfl⟩⟩ := h <;> first | rfl | exact absurd hf (hne _)
  | restart | background b =>
    cases h
    rfl

end Homelab.Embervm

namespace Homelab.Embervm.TaskStore

open Homelab.Lib Option Table ChangeLabel
open Homelab.Embervm.OpLog

variable {lossy : Prop} {s s' : TaskStore} {taskId id : String} {task t : Task} {row : TaskRow}
  {call : TaskCall} {kind : TaskOpKind} {io : AppendIo}

/-! ## Memory does not see what timed out -/

section

variable (hs : s'.tasks = s.tasks)
include hs

/-- A write on a store with the same memory, whose projection succeeds as well. -/
lemma writeThrough_unserved {update : Task → Task}
    (hp : (s'.db.task.project (opOf taskId t kind io.ts)).isOk =
      (s.db.task.project (opOf taskId t kind io.ts)).isOk) :
    (s'.writeThrough taskId t kind update io.unserved).1.toOption =
        (s.writeThrough taskId t kind update io).1.toOption ∧
      (s'.writeThrough taskId t kind update io.unserved).2.tasks =
        (s.writeThrough taskId t kind update io).2.tasks := by
  unfold writeThrough Db.appendTask AppendIo.unserved
  revert hp
  rcases s.db.task.project (opOf taskId t kind io.ts) with e | p <;>
    rcases s'.db.task.project (opOf taskId t kind io.ts) with e' | p' <;>
    rcases io.fault with _ | e | _ <;>
    simp [answered, AppendFault.unserved, Except.map, Except.isOk, Except.toBool, Except.toOption,
      hs]

/-- The first append of a failure, which is always accepted: both answer with an error, or both with
the same task. -/
lemma failed_unserved (taskId : String) (t : Task) (next : TaskState) (reason : FailReason)
    (io : AppendIo) :
    (∃ e e' s1 s1', s.appendAndUpdate taskId t (.failed next reason) next io = (.error e, s1) ∧
      s'.appendAndUpdate taskId t (.failed next reason) next io.unserved = (.error e', s1') ∧
      s1'.tasks = s1.tasks) ∨
    ∃ t1 s1 s1', s.appendAndUpdate taskId t (.failed next reason) next io = (.ok t1, s1) ∧
      s'.appendAndUpdate taskId t (.failed next reason) next io.unserved = (.ok t1, s1') ∧
      s1'.tasks = s1.tasks := by
  have hboth : (s'.appendAndUpdate taskId t (.failed next reason) next io.unserved).1.toOption =
        (s.appendAndUpdate taskId t (.failed next reason) next io).1.toOption ∧
      (s'.appendAndUpdate taskId t (.failed next reason) next io.unserved).2.tasks =
        (s.appendAndUpdate taskId t (.failed next reason) next io).2.tasks :=
    writeThrough_unserved hs rfl
  revert hboth
  rcases s.appendAndUpdate taskId t (.failed next reason) next io with ⟨e | t1, s1⟩ <;>
    rcases s'.appendAndUpdate taskId t (.failed next reason) next io.unserved with
      ⟨e' | t1', s1'⟩ <;>
    simp +contextual [Except.toOption]

lemma deadLetter_unserved (catalog : Catalog) :
    (s'.deadLetter taskId t catalog io.unserved).2.tasks =
      (s.deadLetter taskId t catalog io).2.tasks := by
  unfold deadLetter
  split
  · split
    · exact (writeThrough_unserved hs rfl).2
    · exact hs
  · exact hs

lemma reassignOne_unserved (reason : FailReason) (io : FailIo) :
    (s'.reassignOne taskId t reason io.unserved).tasks =
      (s.reassignOne taskId t reason io).tasks := by
  unfold reassignOne FailIo.unserved
  dsimp only
  split
  · exact hs
  next next hn =>
    rcases failed_unserved hs taskId t next reason io.failed with
      ⟨e, e', s1, s1', he, he', h1⟩ | ⟨t1, s1, s1', he, he', h1⟩
    · simp only [he, he', h1]
    · have hbg : (s1'.interfere io.between).tasks = (s1.interfere io.between).tasks := h1
      simp only [he, he']
      split_ifs
      · exact deadLetter_unserved hbg io.catalog
      · exact h1

end

lemma withTransition_unserved {event : Task → TaskEvent}
    {act act' : Task → TaskState → Except TaskError TaskReply × TaskStore}
    (h : ∀ task next, (act' task next).2.tasks = (act task next).2.tasks) :
    (s.withTransition taskId event act').2.tasks = (s.withTransition taskId event act).2.tasks := by
  unfold withTransition
  split
  · rfl
  · split
    · rfl
    · exact h _ _

lemma write_unserved {event : Task → TaskEvent} {task' : Task → Task}
    {kind : Task → TaskState → TaskOpKind} {update : TaskState → Task → Task} :
    (s.withTransition taskId event fun task next => taskReply <|
      s.writeThrough taskId (task' task) (kind task next) (update next) io.unserved).2.tasks =
    (s.withTransition taskId event fun task next => taskReply <|
      s.writeThrough taskId (task' task) (kind task next) (update next) io).2.tasks :=
  withTransition_unserved fun _ _ => (writeThrough_unserved rfl rfl).2

lemma fail_unserved (reason : FailReason) (rand : Nat → Nat) (io : FailIo) :
    (s.fail taskId reason rand io.unserved).2.tasks = (s.fail taskId reason rand io).2.tasks := by
  refine withTransition_unserved fun task next => ?_
  simp only [FailIo.unserved]
  rcases failed_unserved (s := s) rfl taskId task next reason io.failed with
    ⟨e, e', s1, s1', he, he', h1⟩ | ⟨t1, s1, s1', he, he', h1⟩
  · simp only [he, he', h1]
  · have hcount : (s1'.countCapacityRetry taskId t1 reason).1 =
          (s1.countCapacityRetry taskId t1 reason).1 ∧
        (s1'.countCapacityRetry taskId t1 reason).2.tasks =
          (s1.countCapacityRetry taskId t1 reason).2.tasks := by
      unfold countCapacityRetry
      split <;> simp [h1]
    have hbg : ((s1'.countCapacityRetry taskId t1 reason).2.interfere io.between).tasks =
        ((s1.countCapacityRetry taskId t1 reason).2.interfere io.between).tasks := hcount.2
    simp only [he, he', hcount.1]
    split
    · exact deadLetter_unserved hbg io.catalog
    · exact hcount.2

lemma doSubmit_unserved (attrs : SubmitAttrs) {io io' : SubmitIo} (hid : io'.taskId = io.taskId)
    (happ : io'.append = io.append.unserved) :
    (s.doSubmit attrs io').2.tasks = (s.doSubmit attrs io).2.tasks := by
  unfold doSubmit Db.appendTask
  rw [hid, happ]
  simp only [AppendIo.unserved]
  rcases s.db.task.project (submitOp attrs io.taskId io.append.ts) with e | p <;>
    rcases io.append.fault with _ | e | _ <;>
    simp [answered, AppendFault.unserved, Except.map]

lemma submit_unserved (attrs : SubmitAttrs) (io : SubmitIo) :
    (s.step (TaskCall.submit attrs io).unserved).tasks = (s.submit attrs io).2.tasks := by
  simp only [step, TaskCall.unserved, submit, dedupeOrResubmit, freshResubmit]
  have hdo : ∀ s1 : TaskStore, (s1.doSubmit attrs { io with
        evictFault := io.evictFault.map AppendFault.unserved
        append := io.append.unserved }).2.tasks = (s1.doSubmit attrs io).2.tasks :=
    fun s1 => doSubmit_unserved attrs rfl rfl
  split
  · exact hdo s
  split
  · exact hdo s
  split
  · exact hdo s
  split
  · rfl
  split
  · rfl
  rcases io.evictFault with _ | e | _
  · exact hdo _
  · rfl
  · rfl

/-- **Memory is the same whether or not the op-log serves what timed out.** -/
theorem tasks_step_unserved (s : TaskStore) (call : TaskCall) :
    (s.step call.unserved).tasks = (s.step call).tasks := by
  cases call with
  | submit attrs io => exact submit_unserved attrs io
  | assign taskId vmId nodeId io | start taskId vmId nodeId io => exact write_unserved
  | succeed taskId result io | retry taskId io | redrive taskId io | expire taskId io =>
    exact write_unserved
  | fail taskId reason rand io => exact fail_unserved reason rand io
  | reassignInFlight reason nodeId bg io =>
    show (List.foldl _ s _).tasks = (List.foldl _ s _).tasks
    suffices hfold : ∀ (es : List (Sigma fun _ : String => Task)) (s s' : TaskStore),
        s'.tasks = s.tasks →
        (es.foldl (fun s e => (s.interfere (bg e.1)).reassignOne e.1 e.2 reason (io e.1).unserved)
          s').tasks =
        (es.foldl (fun s e => (s.interfere (bg e.1)).reassignOne e.1 e.2 reason (io e.1)) s).tasks
      from hfold _ s s rfl
    intro es
    induction es with
    | nil => exact fun s s' hs => hs
    | cons e es ih =>
      intro s s' hs
      have hbg : (s'.interfere (bg e.1)).tasks = (s.interfere (bg e.1)).tasks := hs
      exact ih _ _ (reassignOne_unserved hbg reason (io e.1))
  | restart | background b => rfl

/-! ## The link -/

/-- A stored task and its row say the same. -/
def Agrees (task : Task) (row : TaskRow) : Prop := rowToTask row = task.durable

/-- The row is the task's own, up to the columns that its transitions write. -/
def Owns (task : Task) (row : TaskRow) : Prop :=
  { rowToTask row with state := task.state, attempt := task.attempt, updatedAt := task.updatedAt } =
    task.durable

lemma Agrees.state (h : Agrees task row) : row.state = task.state :=
  congrArg Task.state h

lemma Agrees.attempt (h : Agrees task row) : row.attempt + 1 = task.attempt :=
  congrArg Task.attempt h

lemma Agrees.owns (h : Agrees task row) : Owns task row := by
  unfold Owns
  rw [h]
  rfl

lemma rowToTask_injective : Function.Injective rowToTask := by
  rintro ⟨⟩ ⟨⟩ h
  simpa [rowToTask] using h

/-- The task in memory is the one its row stands for. -/
def Mirrored (id : String) (s : TaskStore) : Prop :=
  (s.tasks.lookup id).map Task.durable = (s.db.task.tasks.lookup id).map rowToTask

/-- Memory and projection hold the same task; with `lossy`, unless it has ended or is not there. -/
def Linked (lossy : Prop) (id : String) (s : TaskStore) : Prop :=
  s.Mirrored id ∨ (lossy ∧ ∀ task, s.tasks.lookup id = some task → task.state.terminal = true)

lemma Mirrored.agrees (h : Mirrored id s) (ht : s.tasks.lookup id = some task) :
    ∃ row, s.db.task.tasks.lookup id = some row ∧ Agrees task row := by
  unfold Mirrored at h
  rw [ht] at h
  exact map_eq_some_iff.mp h.symm

lemma mirrored_of_agrees (ht : s.tasks.lookup id = some task)
    (hr : s.db.task.tasks.lookup id = some row) (h : Agrees task row) : Mirrored id s := by
  rw [Mirrored, ht, hr]
  exact congrArg some h.symm

lemma Linked.mirrored_of_live (h : Linked lossy id s) (ht : s.tasks.lookup id = some task)
    (hlive : task.state.terminal = false) : Mirrored id s := by
  refine h.resolve_right fun hend => ?_
  rw [hend.2 task ht] at hlive
  simp at hlive

lemma linked_of_live (h : ∀ task, s.tasks.lookup id = some task → task.state.terminal = false →
    Linked True id s) : Linked True id s := by
  by_cases hlive : ∃ task, s.tasks.lookup id = some task ∧ task.state.terminal = false
  · obtain ⟨task, ht, hlive⟩ := hlive
    exact h task ht hlive
  · refine .inr ⟨trivial, fun task ht => ?_⟩
    by_contra hne
    exact hlive ⟨task, ht, by simpa using hne⟩

/-- A rebuilt store is linked. -/
lemma mirrored_rebuild (db : Db) (id : String) : Mirrored id (rebuild db) := by
  unfold Mirrored
  rw [show (rebuild db).tasks.lookup id = (db.task.tasks.lookup id).map rowToTask from
    lookup_mapVal db.task.tasks (fun _ row => rowToTask row) id, map_map]
  rfl

/-- The link depends on the task and its row only. -/
lemma Linked.congr (h : Linked lossy id s) (ht : s'.tasks.lookup id = s.tasks.lookup id)
    (hr : s'.db.task.tasks.lookup id = s.db.task.tasks.lookup id) : Linked lossy id s' := by
  unfold Linked Mirrored
  rw [ht, hr]
  exact h

/-! ## The changes -/

/-- Work of the op-log between two messages changes no row but by pruning. -/
lemma linked_background (h : Linked lossy id s) (b : Background) (hb : lossy ∨ b.quiet) :
    Linked lossy id (s.interfere [b]) := by
  rcases hb with hl | hquiet
  · rcases b.thinned_apply s.db id with hk | ⟨-, row, hr, hterm⟩
    · exact h.congr rfl hk
    · -- only a terminal row is pruned, and the task has the row's state
      refine .inr ⟨hl, fun task ht => ?_⟩
      rcases h with hm | ⟨-, hend⟩
      · obtain ⟨row', hr', hag⟩ := hm.agrees ht
        rw [hr, some.injEq] at hr'
        rw [← hag.state, ← hr']
        exact hterm
      · exact hend task ht
  · refine h.congr rfl ?_
    simp only [interfere, List.foldl_cons, List.foldl_nil, Background.task_apply_of_quiet hquiet]

/-- A lifecycle op that carries its task's attempt reaches the task's row: the row is in the state
before, and counts one attempt less. -/
lemma Agrees.advances (h : Agrees task row) (toState : TaskState)
    (hlt : task.state.forwardRank < toState.forwardRank) :
    row.advances toState (some task.attempt) = true := by
  have hattempt := h.attempt
  simp only [TaskRow.advances, Bool.and_eq_true, decide_eq_true_eq, TaskState.mem_statesBelow]
  rw [h.state]
  exact ⟨hlt, by omega⟩

/-- A redrive makes a row of the task say what the task says. -/
lemma Owns.onRow_redrive (h : Owns task row) (nodeId : Option String) (ts : Int) :
    Agrees (TaskOpKind.redrive.onTask ts (withNode task nodeId))
      ((opOf taskId (withNode task nodeId) .redrive ts).onRow row) := by
  have hset := congrArg
    (fun t : Task => { t with state := .queued, attempt := 1, updatedAt := ts }) h
  cases nodeId <;> exact hset

/-- **The projection and the store do the same**: what an op does to the row is what the write does
to the task. -/
theorem Agrees.onRow (h : Agrees task row) (hallows : task.allows kind) (nodeId : Option String)
    (ts : Int) : Agrees (kind.onTask ts (withNode task nodeId))
      ((opOf taskId (withNode task nodeId) kind ts).onRow row) := by
  have hd : ∀ st, rowToTask { row with state := st, updatedAt := ts } =
      { task.durable with state := st, updatedAt := ts } := by
    intro st
    rw [← h]
    rfl
  unfold Agrees
  cases kind with
  | submitted key expiresAt request => exact hallows.elim
  | assigned epoch vmId node =>
    obtain ⟨hst, rfl⟩ := hallows
    have hadv := h.advances .assigned (by rw [hst]; decide)
    simp only [TaskOp.onRow, opOf, hadv, if_true, hd]
    cases nodeId <;> rfl
  | started epoch vmId node =>
    obtain ⟨hst, rfl⟩ := hallows
    have hadv := h.advances .running (by rw [hst]; decide)
    simp only [TaskOp.onRow, opOf, hadv, if_true, hd]
    cases nodeId <;> rfl
  | succeeded result => cases nodeId <;> exact hd .succeeded
  | failed next reason => cases nodeId <;> exact hd next
  | deadLettered => cases nodeId <;> exact hd .deadLettered
  | retried =>
    have hr : rowToTask
        { row with state := .queued, attempt := row.attempt + 1, updatedAt := ts } =
        { task.durable with
          state := .queued, attempt := task.durable.attempt + 1, updatedAt := ts } := by
      rw [← h]
      rfl
    cases nodeId <;> exact hr
  | redrive => exact h.owns.onRow_redrive nodeId ts

/-- A write that is no redrive leaves a live task, or ends in a terminal state. -/
lemma live_or_terminal_of_allows (hallows : task.allows kind)
    (hre : kind ≠ .redrive) (nodeId : Option String) (ts : Int) : task.state.terminal = false ∨
      (kind.onTask ts (withNode task nodeId)).state.terminal = true := by
  cases kind with
  | submitted key expiresAt request => exact hallows.elim
  | assigned epoch vmId node | started epoch vmId node => exact .inl (by rw [hallows.1]; rfl)
  | succeeded result => exact .inr rfl
  | failed next reason => exact .inl hallows.1
  | deadLettered => exact .inr rfl
  | retried => exact .inl (by rw [show task.state = _ from hallows]; rfl)
  | redrive => exact absurd rfl hre

/-- An accepted submission leaves the row of the task it puts into memory. -/
lemma mirrored_submitted {attrs : SubmitAttrs} {ts : Int} {db : Db}
    (happ : s.db.appendTask (submitOp attrs taskId ts) none = .ok db) :
    Mirrored taskId (s.insertSubmitted db attrs taskId ts) := by
  obtain ⟨-, t, hp, rfl⟩ := Db.appendTask_eq_ok happ
  obtain ⟨principal, hpr, -, -, -, htasks⟩ := TaskTables.project_submitted rfl hp
  have hprincipal : attrs.principal = some principal := hpr
  refine mirrored_of_agrees (AList.lookup_insert _) (htasks ▸ AList.lookup_insert _) ?_
  simp only [Agrees, rowToTask, Task.durable, submitTask, submitOp, hprincipal]

/-- The row of another task after an append. -/
lemma lookup_appendTask_of_ne {op : TaskOp} {db db' : Db} (happ : db.appendTask op none = .ok db')
    (hid : id ≠ op.taskId) : db'.task.tasks.lookup id = db.task.tasks.lookup id := by
  obtain ⟨-, t, hp, rfl⟩ := Db.appendTask_eq_ok happ
  rcases hk : op.kind with ⟨key, expiresAt, request⟩ | _ | _ | _ | _ | _ | _ | _
  case submitted =>
    obtain ⟨principal, -, -, -, -, htasks⟩ := TaskTables.project_submitted hk hp
    exact (congrArg (AList.lookup id) htasks).trans (AList.lookup_insert_ne hid)
  all_goals
    refine (TaskTables.lookup_project_of_isUpdate ?_ hp id).trans (if_neg hid)
    rw [hk]
    rfl

/-- A row after a transition's op comes from a row. -/
lemma row_of_appendTask {db db' : Db} {nodeId : Option String} {ts : Int}
    (hallows : task.allows kind)
    (happ : db.appendTask (opOf taskId (withNode task nodeId) kind ts) none = .ok db')
    (hrow : db'.task.tasks.lookup id = some row) : ∃ row0, db.task.tasks.lookup id = some row0 ∧
      row = if id = taskId then (opOf taskId (withNode task nodeId) kind ts).onRow row0
        else row0 := by
  obtain ⟨-, t, hp, rfl⟩ := Db.appendTask_eq_ok happ
  simp only [lookup_project_of_allows hallows hp] at hrow
  split_ifs at hrow ⊢ with hid
  · obtain ⟨row0, hrow0, rfl⟩ := map_eq_some_iff.mp hrow
    exact ⟨row0, hid ▸ hrow0, rfl⟩
  · exact ⟨row, hrow, rfl⟩

/-- **Step lemma, change by change.** A change that the caller is told of keeps the link if it
prunes nothing or pruning is allowed for, and if a redrive finds the row of its task. -/
theorem linked_change {l : ChangeLabel} (h : Linked lossy id s) (hc : Change s l s')
    (hlate : l.late = false) (hq : ∀ b, l = .background b → lossy ∨ b.quiet)
    (hre : l = .wrote id .redrive → ∀ task, s.tasks.lookup id = some task →
      ∃ row, s.db.task.tasks.lookup id = some row ∧ Owns task row) : Linked lossy id s' := by
  cases hc with
  | @wrote taskId task kind ts db nodeId ht hallows happ =>
    by_cases hid : id = taskId
    · subst hid
      obtain ⟨-, tables, hp, rfl⟩ := Db.appendTask_eq_ok happ
      have hlook := (lookup_project_of_allows hallows hp id).trans (if_pos rfl)
      rcases h with hm | ⟨hl, hend⟩
      · obtain ⟨row, hr, hag⟩ := hm.agrees ht
        rw [hr] at hlook
        exact .inl (mirrored_of_agrees (AList.lookup_insert _) hlook (hag.onRow hallows nodeId ts))
      · by_cases hk : kind = .redrive
        · subst hk
          obtain ⟨row, hr, hown⟩ := hre rfl task ht
          rw [hr] at hlook
          exact .inl (mirrored_of_agrees (AList.lookup_insert _) hlook
            (hown.onRow_redrive nodeId ts))
        · refine .inr ⟨hl, fun task' ht' => ?_⟩
          rw [← some.inj ((AList.lookup_insert _).symm.trans ht')]
          refine (live_or_terminal_of_allows hallows hk nodeId ts).resolve_left ?_
          simp [hend task ht]
    · exact h.congr (AList.lookup_insert_ne hid) (lookup_appendTask_of_ne happ hid)
  | @submitted attrs taskId ts db happ =>
    by_cases hid : id = taskId
    · subst hid
      exact .inl (mirrored_submitted happ)
    · exact h.congr (AList.lookup_insert_ne hid) (lookup_appendTask_of_ne happ hid)
  | @evicted taskId task workload key ht hterm hidem =>
    by_cases hid : id = taskId
    · subst hid
      left
      simp [Mirrored, evict, Db.evicting, TaskTables.evictTask]
    · exact h.congr (AList.lookup_erase_ne hid) (AList.lookup_erase_ne hid)
  | @counted taskId task ht =>
    by_cases hid : id = taskId
    · subst hid
      rcases h with hm | ⟨hl, hend⟩
      · obtain ⟨row, hr, hag⟩ := hm.agrees ht
        exact .inl (mirrored_of_agrees (AList.lookup_insert _) hr hag)
      · refine .inr ⟨hl, fun task' ht' => ?_⟩
        rw [← some.inj ((AList.lookup_insert _).symm.trans ht')]
        exact hend task ht
    · exact h.congr (AList.lookup_insert_ne hid) rfl
  | background b => exact linked_background h b (hq b rfl)
  | restarted => exact .inl (mirrored_rebuild s.db id)
  | wroteLate | submittedLate | evictedLate => simp [late] at hlate

/-! ## Runs -/

/-- A redrive that takes effect finds the row of its task. -/
def RedriveFindsRow (s : TaskStore) : TaskCall → Prop
  | .redrive taskId io => ∀ task, s.tasks.lookup taskId = some task → task.state = .deadLettered →
      io.fault = none → ∃ row, s.db.task.tasks.lookup taskId = some row ∧ Owns task row
  | _ => True

/-- The background work of a quiet call is quiet. -/
lemma quiet_of_makes (hq : call.quiet) {b : Background} (h : call.makes (.background b)) :
    b.quiet := by
  cases call with
  | submit attrs io =>
    simp only [TaskCall.makes, beforeSubmit, reduceCtorEq, and_false, exists_false, false_or,
      background.injEq, exists_eq_right'] at h
    exact h.elim (hq.1 b) (hq.2 b)
  | fail taskId reason rand io =>
    simp only [TaskCall.makes, ofFail, ofAppend, reduceCtorEq, and_false, or_false, exists_false,
      false_or, background.injEq, exists_eq_right'] at h
    exact hq b h
  | reassignInFlight reason nodeId bg io =>
    simp only [TaskCall.makes, ofFail, ofAppend, reduceCtorEq, and_false, or_false, exists_false,
      false_or, background.injEq, exists_eq_right'] at h
    obtain ⟨id, hb⟩ | ⟨id, hb⟩ := h
    · exact (hq id).1 b hb
    · exact (hq id).2 b hb
  | background b' =>
    rw [background.inj h]
    exact hq
  | _ => simp [TaskCall.makes, ofAppend] at h

/-- Only a redrive call writes a redrive. -/
lemma redrive_of_makes (h : call.makes (.wrote id .redrive)) : ∃ io, call = .redrive id io := by
  cases call with
  | redrive taskId io =>
    obtain ⟨-, heq⟩ | ⟨-, heq⟩ := h
    · exact ⟨io, by rw [(wrote.inj heq).1]⟩
    · simp at heq
  | _ => simp [TaskCall.makes, ofFail, ofAppend, beforeSubmit] at h

/-- **Step lemma.** A call none of whose appends are served late keeps the link if nothing is pruned
or pruning is allowed for, and if a redrive finds its row. -/
theorem linked_step (h : Linked lossy id s) (call : TaskCall) (hq : lossy ∨ call.quiet)
    (hfind : lossy → RedriveFindsRow s call) : Linked lossy id (s.step call.unserved) := by
  by_cases hcall : ∃ taskId io, call = .redrive taskId io
  · obtain ⟨taskId, io, rfl⟩ := hcall
    show Linked lossy id (s.redrive taskId io.unserved).2
    rcases redrive_cases s taskId io.unserved with
      ⟨he, -⟩ | ⟨task, next, ht, hn, ⟨hf, -, hc⟩ | ⟨hf, -⟩⟩
    · rw [he]
      exact h
    · have hst : task.state = .deadLettered := by
        revert hn
        cases task.state <;> simp [TaskState.transition]
      refine linked_change h hc rfl (by simp) ?_
      intro hid task' ht'
      obtain ⟨rfl, -⟩ := wrote.inj hid
      rcases h with hm | ⟨hl, -⟩
      · obtain ⟨row, hr, hag⟩ := hm.agrees ht'
        exact ⟨row, hr, hag.owns⟩
      · rw [ht, some.injEq] at ht'
        subst ht'
        exact hfind hl task ht hst (map_eq_none_iff.mp hf)
    · exact absurd hf (unserved_ne_timedOut _)
  · refine (step_path s call.unserved).induction (Linked lossy id) ?_ h
    intro s1 l s2 h1 hl hc
    refine linked_change h1 hc (TaskCall.late_of_makes_unserved hl) ?_ ?_
    · rintro b rfl
      exact hq.imp_right fun hq => quiet_of_makes (TaskCall.quiet_unserved hq) hl
    · rintro rfl
      obtain ⟨io, hio⟩ := redrive_of_makes hl
      refine absurd ⟨id, ?_⟩ hcall
      cases call <;> simp [TaskCall.unserved] at hio
      exact ⟨_, by rw [hio.1]⟩

/-- The row of the task is after the call what it would be had the op-log not served what timed out
in it. -/
def Undisturbed (id : String) (s : TaskStore) (call : TaskCall) : Prop :=
  (s.step call).db.task.tasks.lookup id = (s.step call.unserved).db.task.tasks.lookup id

/-- The task in memory is, up to the two fields that are in memory only, the one a rebuild would
produce, and its row counts one attempt less. -/
def Rebuilt (id : String) (s : TaskStore) : Prop :=
  (s.tasks.lookup id).map Task.durable = (rebuild s.db).tasks.lookup id ∧
    ∀ task, s.tasks.lookup id = some task → ∃ row, s.db.task.tasks.lookup id = some row ∧
      row.state = task.state ∧ row.attempt + 1 = task.attempt ∧
      row.idempotencyKey = task.idempotencyKey

lemma rebuilt_iff : Rebuilt id s ↔ Mirrored id s := by
  have hl : (rebuild s.db).tasks.lookup id = (s.db.task.tasks.lookup id).map rowToTask :=
    lookup_mapVal s.db.task.tasks (fun _ row => rowToTask row) id
  refine ⟨fun h => h.1.trans hl, fun h => ⟨Eq.trans h hl.symm, fun task ht => ?_⟩⟩
  obtain ⟨row, hr, hag⟩ := h.agrees ht
  exact ⟨row, hr, hag.state, hag.attempt, congrArg Task.idempotencyKey hag⟩

/-- **Without compaction the projection simulates the hot set.** Take any calls on a store started
on any op-log, with any of the appends failing and nothing pruned. At every point the task `id` is
in memory what a rebuild would produce, with its row one attempt behind, iff every call leaves the
row of `id` as it would be had the op-log not served the appends that timed out in the call. -/
theorem hot_set_eq_rebuild (db : Db) (calls : List TaskCall) (hq : ∀ c ∈ calls, c.quiet)
    (id : String) : (∀ n, Rebuilt id (run step (rebuild db) (calls.take n))) ↔
      Along step (Undisturbed id) (rebuild db) calls := by
  have hquiet : Along step (fun _ c => c.quiet) (rebuild db) calls :=
    along_of_forall_mem (fun c hc _ => hq c hc) _
  have hserved : ∀ (s : TaskStore) (c : TaskCall), Mirrored id s → c.quiet →
      Mirrored id (s.step c.unserved) :=
    fun s c hs hc => (linked_step (.inl hs) c (.inr hc) False.elim).resolve_right And.left
  simp only [rebuilt_iff]
  refine (along_iff_forall_take_of (Mirrored id) (Mirrored id) ?_ (fun _ hs => hs) ?_
    (mirrored_rebuild db id) hquiet).symm
  · intro s c hs hc hrow
    have hm := hserved s c hs hc
    unfold Mirrored Undisturbed at *
    rw [← tasks_step_unserved, hrow]
    exact hm
  · -- two rows that a rebuild turns into the same task are the same
    intro s c hs hc hafter
    have hm := hserved s c hs hc
    unfold Mirrored at hm hafter
    rw [tasks_step_unserved, hafter] at hm
    exact map_injective rowToTask_injective hm

/-- A submission of the task `t` of the workload `w` at time 0. -/
def submitT : TaskCall :=
  .submit ⟨"homelab", some "p", "w", some "k", none, none⟩ ⟨0, none, [], none, [], "t", 0, none⟩

/-- The failure of `t` at `ts`, of a workload that is retried and dead-lettered by default. -/
def failT (reason : FailReason) (ts : Int) : TaskCall :=
  .fail "t" reason (fun _ => 0)
    ⟨⟨fun _ => Retry.defaultConfig, fun _ => true⟩, ⟨ts, none⟩, [], ⟨ts, none⟩⟩

/-- A failed assign, an attempt that is retried, and the second attempt under way. -/
def retriedT : List TaskCall :=
  [submitT, .assign "t" none none ⟨1, some (.refused .unavailable)⟩,
    .assign "t" none none ⟨2, none⟩, .start "t" none none ⟨3, none⟩, failT .timeout 4,
    .retry "t" ⟨5, none⟩, .assign "t" none none ⟨6, none⟩]

theorem hot_set_eq_rebuild_retried : (∀ c ∈ retriedT, c.quiet) ∧
      ∀ n, Rebuilt "t" (run step init (retriedT.take n)) := by
  have hq : ∀ c ∈ retriedT, c.quiet := by
    simp [retriedT, submitT, failT, TaskCall.quiet]
  exact ⟨hq, (hot_set_eq_rebuild .empty retriedT hq "t").mpr
    ⟨rfl, rfl, rfl, rfl, rfl, rfl, rfl, trivial⟩⟩

/-- The submission of `t`, whose append times out. -/
def lateSubmitT : TaskCall :=
  .submit ⟨"homelab", some "p", "w", some "k", none, none⟩
    ⟨0, none, [], none, [], "t", 0, some .timedOut⟩

/-- The append is served all the same: the task is not in memory, and a restart brings it. -/
theorem late_submit_not_in_memory : lateSubmitT.quiet ∧
      (run step init [lateSubmitT]).tasks.lookup "t" = none ∧
      ((rebuild (run step init [lateSubmitT]).db).tasks.lookup "t").map Task.state =
        some .queued ∧
      ¬ Rebuilt "t" (run step init [lateSubmitT]) := by
  have hstate : ((rebuild (run step init [lateSubmitT]).db).tasks.lookup "t").map Task.state =
      some .queued := by decide +kernel
  have hnone : (run step init [lateSubmitT]).tasks.lookup "t" = none := by decide +kernel
  refine ⟨by simp [lateSubmitT, TaskCall.quiet], hnone, hstate, fun h => ?_⟩
  rw [← h.1, hnone] at hstate
  simp at hstate

/-! ## Durability of live tasks -/

/-- Every task that is not terminal has its row, in its state and attempt, and survives a
restart. -/
def LiveDurable (s : TaskStore) : Prop :=
  ∀ id task, s.tasks.lookup id = some task → task.state.terminal = false →
    ∃ row, s.db.task.tasks.lookup id = some row ∧ row.state = task.state ∧
      row.attempt + 1 = task.attempt ∧ (rebuild s.db).tasks.lookup id = some task.durable

lemma liveDurable_iff_linked : LiveDurable s ↔ ∀ id, Linked True id s := by
  have hl : ∀ id, (rebuild s.db).tasks.lookup id = (s.db.task.tasks.lookup id).map rowToTask :=
    lookup_mapVal s.db.task.tasks (fun _ row => rowToTask row)
  constructor
  · intro h id
    refine linked_of_live fun task ht hlive => ?_
    obtain ⟨row, hr, -, -, hre⟩ := h id task ht hlive
    rw [hl, hr] at hre
    exact .inl (mirrored_of_agrees ht hr (some.inj hre))
  · intro h id task ht hlive
    obtain ⟨row, hr, hag⟩ := ((h id).mirrored_of_live ht hlive).agrees ht
    refine ⟨row, hr, hag.state, hag.attempt, ?_⟩
    rw [hl, hr]
    exact congrArg some hag

/-- A redrive that takes effect finds the row of its task, and what times out in the call changes no
row of a task that has not ended. -/
def KeepsLive (s : TaskStore) (call : TaskCall) : Prop :=
  RedriveFindsRow s call ∧ ∀ id task, (s.step call).tasks.lookup id = some task →
    task.state.terminal = false → Undisturbed id s call

/-- The row and the task after a redrive that takes effect. -/
lemma lookup_step_redrive (ht : s.tasks.lookup taskId = some task)
    (hst : task.state = .deadLettered) (hf : io.fault = none) :
    (s.step (.redrive taskId io)).tasks.lookup taskId = some { task with
        state := .queued, attempt := 1, updatedAt := io.ts, capacityRetries := 0 } ∧
      (s.step (.redrive taskId io)).db.task.tasks.lookup taskId =
        (s.db.task.tasks.lookup taskId).map fun row =>
          { row with state := .queued, attempt := 0, updatedAt := io.ts } := by
  simp only [step, redrive, withTransition, fetchTask, ht, hst, TaskState.transition, taskReply,
    writeThrough, hf]
  exact ⟨AList.lookup_insert _, lookup_update_self ..⟩

/-- A redrive that takes effect without a row of its task leaves a queued task that no restart
brings back as it is. -/
lemma redriveFindsRow_of_liveDurable (h : LiveDurable (s.step call)) : RedriveFindsRow s call := by
  cases call with
  | redrive taskId io =>
    intro task ht hst hf
    obtain ⟨ht', hr'⟩ := lookup_step_redrive ht hst hf
    have hm := (liveDurable_iff_linked.mp h taskId).mirrored_of_live ht' rfl
    obtain ⟨row', hrow', hag⟩ := hm.agrees ht'
    rw [hr'] at hrow'
    obtain ⟨row, hrow, rfl⟩ := map_eq_some_iff.mp hrow'
    refine ⟨row, hrow, ?_⟩
    exact congrArg (fun t : Task =>
      { t with state := task.state, attempt := task.attempt, updatedAt := task.updatedAt }) hag
  | _ => trivial

/-- A batch at day eight with the default retention of seven days, large enough to finish. -/
def dailyBatch : CompactArgs where
  nowMs := 8 * Logged.dayMs
  retentionMs := 7 * Logged.dayMs
  journalHorizonMs := 30 * Logged.dayMs
  batch := 500
  resultScan := []
  taskScan := ["t"]
  sessionScan := []
  servingScan := []
  statefulScan := []
  groupScan := []
  opScan := []
  completed := 8

/-- The task fails for good and is dead-lettered, retention prunes its row, and it is redriven. -/
def prunedRedrive : List TaskCall :=
  [submitT, .assign "t" none none ⟨1, none⟩, .start "t" none none ⟨2, none⟩, failT .guest4xx 3,
    .background (.compact dailyBatch), .redrive "t" ⟨8 * Logged.dayMs, none⟩]

end Homelab.Embervm.TaskStore
