import Homelab.Embervm.TaskStore.Simulation

/-!
# A task moves forward

Submitting and redriving are the only calls that set a task back. Between them its attempt number
and, within an attempt, the rank of its state only go up, and an ended task stays as it is, but for
its dead-lettering (`tasks_move_forward`). This holds over failed appends, compaction and restarts:
the row of a task may be ahead of the task in memory, by ops that were served after their caller had
given up, but it is never behind (`Trails`). Only a submission, retry or redrive that is served so
late is excluded: it counts attempts that memory does not know of.
-/

namespace Homelab.Embervm

open Homelab.Lib Table TaskStore
open Homelab.Embervm.OpLog

/-- The task is where it was or further on. -/
def Task.Onward (t t' : Task) : Prop :=
  if t.state.terminal then t'.attempt = t.attempt ∧
    (t'.state = t.state ∨ t.state = .failedPermanent ∧ t'.state = .deadLettered)
  else t.attempt < t'.attempt ∨
    t.attempt = t'.attempt ∧ t.state.forwardRank ≤ t'.state.forwardRank

variable {t t' t'' task : Task} {s s' : TaskStore} {id : String} {row : TaskRow} {kind : TaskOpKind}
  {l : ChangeLabel}

lemma Task.Onward.refl (t : Task) : t.Onward t := by
  unfold Onward
  split_ifs
  · exact ⟨rfl, .inl rfl⟩
  · exact .inr ⟨rfl, Nat.le_refl _⟩

lemma Task.Onward.trans (h : t.Onward t') (h' : t'.Onward t'') : t.Onward t'' := by
  grind [Onward, TaskState.terminal, TaskState.forwardRank]

/-- A write that is no redrive moves its task on. -/
lemma Task.onward_onTask (h : t.allows kind) (hre : kind ≠ .redrive)
    (nodeId : Option String) (ts : Int) : t.Onward (kind.onTask ts (withNode t nodeId)) := by
  have hattempt : (withNode t nodeId).attempt = t.attempt := by cases nodeId <;> rfl
  have hrank : t.state.forwardRank ≤ 3 := by cases t.state <;> decide
  cases kind with
  | submitted key expiresAt request => exact h.elim
  | redrive => exact absurd rfl hre
  | _ => grind [Onward, Task.allows, OpLog.TaskOpKind.onTask, TaskState.terminal,
      TaskState.forwardRank]

/-- The row counts the attempts of the task and is where the task is or further on. -/
def Ahead (task : Task) (row : TaskRow) : Prop :=
  row.attempt + 1 = task.attempt ∧ task.Onward (rowToTask row)

lemma ahead_of_agrees (h : Agrees task row) : Ahead task row :=
  ⟨h.attempt, by rw [h]; exact Task.Onward.refl task⟩

/-- **The row stays ahead** when its task is told of the op. -/
lemma Ahead.onRow (h : Ahead task row) (hallows : task.allows kind) (nodeId : Option String)
    (ts : Int) : Ahead (kind.onTask ts (withNode task nodeId))
      ((opOf id (withNode task nodeId) kind ts).onRow row) := by
  obtain ⟨hattempt, honward⟩ := h
  have hnode : (withNode task nodeId).attempt = task.attempt := by cases nodeId <;> rfl
  cases kind with
  | submitted key expiresAt request => exact hallows.elim
  | assigned epoch vmId node | started epoch vmId node =>
    obtain ⟨hst, rfl⟩ := hallows
    have hrank : ∀ st, row.state ∈ TaskState.statesBelow st ↔ _ := fun st =>
      TaskState.mem_statesBelow st row.state
    grind [Ahead, Task.Onward, TaskOp.onRow, opOf, OpLog.TaskOpKind.onTask, TaskRow.advances,
      rowToTask, TaskState.terminal, TaskState.forwardRank]
  | _ =>
    grind [Ahead, Task.Onward, TaskOp.onRow, opOf, OpLog.TaskOpKind.onTask, rowToTask,
      TaskState.terminal]

/-- It stays ahead when the op is served late, if it counts no attempt. -/
lemma Ahead.onRow_late (h : Ahead task row) (hallows : task.allows kind) (nodeId : Option String)
    (ts : Int) (hre : kind ≠ .redrive) (hretried : kind ≠ .retried) :
    Ahead task ((opOf id (withNode task nodeId) kind ts).onRow row) := by
  obtain ⟨hattempt, honward⟩ := h
  have hrank : task.state.forwardRank ≤ 3 := by cases task.state <;> decide
  cases kind with
  | submitted key expiresAt request => exact hallows.elim
  | redrive => exact absurd rfl hre
  | retried => exact absurd rfl hretried
  | _ =>
    grind [Ahead, Task.Onward, Task.allows, TaskOp.onRow, opOf, rowToTask, TaskState.terminal,
      TaskState.forwardRank]

/-- A row has its task in memory and is ahead of it. -/
def Trails (id : String) (s : TaskStore) : Prop :=
  ∀ row, s.db.task.tasks.lookup id = some row → ∃ task, s.tasks.lookup id = some task ∧
    Ahead task row

lemma trails_rebuild (db : Db) : Trails id (rebuild db) := fun row hrow =>
  ⟨rowToTask row, (lookup_mapVal db.task.tasks (fun _ row => rowToTask row) id).trans
    (congrArg (Option.map rowToTask) hrow), ahead_of_agrees rfl⟩

/-- **Step lemma.** A change keeps the row ahead, if it is no submission, retry or redrive that is
served late. -/
lemma Trails.change (h : Trails id s) (hc : Change s l s') (hlate : ¬ l.recounts id) :
    Trails id s' := by
  intro row hrow
  cases hc with
  | @wrote taskId task kind ts db nodeId ht hallows happ =>
    obtain ⟨row0, hrow0, rfl⟩ := row_of_appendTask hallows happ hrow
    obtain ⟨task0, ht0, hahead⟩ := h row0 hrow0
    simp only [lookup_insert]
    split_ifs with hid
    · subst hid
      cases ht.symm.trans ht0
      exact ⟨_, rfl, hahead.onRow hallows nodeId ts⟩
    · exact ⟨task0, ht0, hahead⟩
  | @wroteLate taskId task kind ts db nodeId ht hallows happ =>
    obtain ⟨row0, hrow0, rfl⟩ := row_of_appendTask hallows happ hrow
    obtain ⟨task0, ht0, hahead⟩ := h row0 hrow0
    refine ⟨task0, ht0, ?_⟩
    split_ifs with hid
    · subst hid
      cases ht.symm.trans ht0
      exact hahead.onRow_late hallows nodeId ts (fun hk => hlate ⟨rfl, .inr hk⟩)
        fun hk => hlate ⟨rfl, .inl hk⟩
    · exact hahead
  | @submitted attrs taskId ts db happ =>
    by_cases hid : id = taskId
    · subst hid
      obtain ⟨row', hrow', hag⟩ := (mirrored_submitted happ).agrees (AList.lookup_insert _)
      cases hrow.symm.trans hrow'
      exact ⟨_, AList.lookup_insert _, ahead_of_agrees hag⟩
    · obtain ⟨task0, ht0, hahead⟩ := h row ((lookup_appendTask_of_ne happ hid).symm.trans hrow)
      exact ⟨task0, (AList.lookup_insert_ne hid).trans ht0, hahead⟩
  | @submittedLate attrs taskId ts db happ =>
    have hid : id ≠ taskId := fun heq => hlate heq.symm
    exact h row ((lookup_appendTask_of_ne happ hid).symm.trans hrow)
  | @evicted taskId task workload key ht hterm hidem =>
    obtain ⟨hid, hrow⟩ := of_lookup_erase hrow
    obtain ⟨task0, ht0, hahead⟩ := h row hrow
    exact ⟨task0, (AList.lookup_erase_ne hid).trans ht0, hahead⟩
  | evictedLate ht hterm => exact h row (of_lookup_erase hrow).2
  | @counted taskId task ht =>
    obtain ⟨task0, ht0, hahead⟩ := h row hrow
    simp only [lookup_insert]
    split_ifs with hid
    · subst hid
      cases ht.symm.trans ht0
      exact ⟨_, rfl, hahead⟩
    · exact ⟨task0, ht0, hahead⟩
  | background b => exact h row ((b.thinned_apply s.db).lookup_eq_some hrow)
  | restarted => exact trails_rebuild s.db row hrow

/-- The task, if it is still there, has moved on from `t`. -/
def Since (t : Task) (id : String) (s : TaskStore) : Prop :=
  Trails id s ∧ ∀ t', s.tasks.lookup id = some t' → t.Onward t'

/-- **Step lemma.** -/
lemma Since.change (hs : Since t id s) (hc : Change s l s') (hlate : ¬ l.recounts id)
    (hsubmit : l ≠ .submitted id) (hredrive : l ≠ .wrote id .redrive) : Since t id s' := by
  obtain ⟨htrails, h⟩ := hs
  refine ⟨htrails.change hc hlate, fun t' ht' => ?_⟩
  cases hc with
  | @wrote taskId task kind ts db nodeId ht hallows happ =>
    obtain ⟨rfl, rfl⟩ | ⟨-, hold⟩ := of_lookup_insert ht'
    · refine (h task ht).trans (Task.onward_onTask hallows ?_ nodeId ts)
      rintro rfl
      exact hredrive rfl
    · exact h t' hold
  | submitted happ =>
    obtain ⟨rfl, -⟩ | ⟨-, hold⟩ := of_lookup_insert ht'
    · exact absurd rfl hsubmit
    · exact h t' hold
  | evicted workload key ht hterm hidem => exact h t' (of_lookup_erase ht').2
  | @counted taskId task ht =>
    obtain ⟨rfl, rfl⟩ | ⟨-, hold⟩ := of_lookup_insert ht'
    · exact h task ht
    · exact h t' hold
  | restarted =>
    -- the task comes back from its row, which is ahead of it
    obtain ⟨row, hrow, rfl⟩ := Option.map_eq_some_iff.mp
      ((lookup_mapVal s.db.task.tasks (fun _ row => rowToTask row) id).symm.trans ht')
    obtain ⟨task, ht, hahead⟩ := htrails row hrow
    exact (h task ht).trans hahead.2
  | _ => exact h t' ht'

/-- **A task moves forward.** Start the store on any op-log, and let any calls, failed appends,
batches and restarts follow, of which no submission, retry or redrive of the task is served after
its caller has given up. After any of these calls, and whatever more of them follow of which none
submits or redrives the task: it is gone, or where it was or further on. -/
theorem tasks_move_forward (db : Db) (calls later : List TaskCall) (id : String)
    (hlate : ∀ c ∈ calls ++ later, ∀ l, c.makes l → ¬ l.recounts id)
    (hlater : ∀ c ∈ later, ¬ c.makes (.submitted id) ∧ ¬ c.makes (.wrote id .redrive)) (t t' : Task)
    (ht : (run step (rebuild db) calls).tasks.lookup id = some t)
    (ht' : (run step (run step (rebuild db) calls) later).tasks.lookup id = some t') :
    t.Onward t' := by
  have htrails : Trails id (run step (rebuild db) calls) := by
    refine run_induction (Trails id) (fun s c hs hc => ?_) (trails_rebuild db)
      (along_of_forall_mem (fun c hc _ => hlate c (List.mem_append_left _ hc)) _)
    exact (step_path s c).induction (Trails id) (fun h hl hchange => h.change hchange (hc _ hl)) hs
  refine (run_induction (Since t id) (fun s c hs hc => ?_) ⟨htrails, fun t' ht' => ?_⟩
    (along_of_forall_mem (fun c hc _ => And.intro (hlate c (List.mem_append_right _ hc))
      (hlater c hc)) _)).2 t' ht'
  · exact (step_path s c).induction (Since t id) (fun hs hl hchange => hs.change hchange (hc.1 _ hl)
      (fun heq => hc.2.1 (heq ▸ hl)) fun heq => hc.2.2 (heq ▸ hl)) hs
  · cases ht.symm.trans ht'
    exact .refl t

/-- The start of `t` is served late, the store is restarted, and the task is found running. -/
def lateStartT : List TaskCall :=
  [.start "t" none none ⟨2, some .timedOut⟩, .restart]

theorem tasks_move_forward_lateStart :
    ((run step init [submitT, .assign "t" none none ⟨1, none⟩]).tasks.lookup "t").map Task.state =
        some .assigned ∧
      ((run step init ([submitT, .assign "t" none none ⟨1, none⟩] ++ lateStartT)).tasks.lookup
        "t").map Task.state = some .running ∧
      ∀ t t', (run step init [submitT, .assign "t" none none ⟨1, none⟩]).tasks.lookup "t" = some t →
        (run step init ([submitT, .assign "t" none none ⟨1, none⟩] ++ lateStartT)).tasks.lookup
          "t" = some t' → t.Onward t' := by
  refine ⟨by decide +kernel, by decide +kernel, tasks_move_forward .empty
    [submitT, .assign "t" none none ⟨1, none⟩] lateStartT "t" ?_ ?_⟩
  · simp [lateStartT, submitT, TaskCall.makes, ChangeLabel.ofAppend, ChangeLabel.beforeSubmit,
      ChangeLabel.recounts]
  · simp [lateStartT, TaskCall.makes, ChangeLabel.ofAppend]

end Homelab.Embervm
