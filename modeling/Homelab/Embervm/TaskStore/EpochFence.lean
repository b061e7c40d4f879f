import Homelab.Embervm.TaskStore.Simulation

/-!
# The attempt epoch as a fence

An `assigned` or `started` op carries the attempt it was issued for, and `advance_task_state`
compares it with the retry count of the row. This module follows the ops a run issues and lets
those two kinds reach the projection late.

* `retriesSince` is the number of retries of a task since its last submission or redrive, read off
  the ops issued so far. An op that was served after its caller had given up counts.
* `Fenced` is the store with the ops it has issued. Besides the calls, an `assign` or `start` may be
  acknowledged with its op held back (`held`), and any op of these kinds that was issued, also one
  whose append was answered by an error, may reach the projection at any later time, any number of
  times (`late`).
* `Epochs` is the invariant: a row counts the retries since the last redrive. Memory counts them too
  as long as no submission, retry or redrive of the task is served late, and then an op's epoch is
  one more than the retries before it; a live task is never ahead of its row, as long as no
  submission under its id is served late.
* `stale_op_unchanged_iff` says exactly when a stale op leaves the row alone. A redrive sets the
  count back, so ops of the attempts before it pass the fence again
  (`stale_assigned_op_advances_redriven_row`).
-/

namespace Homelab.Embervm

open Homelab.Lib Option Table
open Homelab.Embervm.OpLog

/-- The state an `assigned` or `started` op advances its row to, and its epoch. -/
def OpLog.TaskOpKind.advance : TaskOpKind → Option (TaskState × Option Nat)
  | .assigned epoch _ _ => some (.assigned, epoch)
  | .started epoch _ _ => some (.running, epoch)
  | _ => none

/-- What an op of a kind does to the retry count of its task. -/
def OpLog.TaskOpKind.count (n : Nat) : TaskOpKind → Nat
  | .submitted _ _ _ | .redrive => 0
  | .retried => n + 1
  | _ => n

/-- The kinds that set the retry count back. -/
def OpLog.TaskOpKind.resets : TaskOpKind → Bool
  | .submitted _ _ _ | .redrive => true
  | _ => false

/-- What a change does to the retry count of the task `id`. -/
def ChangeLabel.count (id : String) (n : Nat) : ChangeLabel → Nat
  | .wrote taskId kind | .wroteLate taskId kind => if taskId = id then kind.count n else n
  | .submitted taskId | .submittedLate taskId => if taskId = id then 0 else n
  | _ => n

namespace TaskStore

/-! ## Counting retries -/

/-- The retry count of the task `id` after one more op. -/
def bump (id : String) (n : Nat) (op : TaskOp) : Nat :=
  if op.taskId = id then op.kind.count n else n

/-- The retries of the task `id` since its last submission or redrive. -/
def retriesSince (id : String) (ops : List TaskOp) : Nat := ops.foldl (bump id) 0

lemma retriesSince_append (id : String) (ops ops' : List TaskOp) :
    retriesSince id (ops ++ ops') = ops'.foldl (bump id) (retriesSince id ops) :=
  List.foldl_append

variable {op : TaskOp}

lemma bump_of_advance {a : TaskState × Option Nat} (h : op.kind.advance = some a) (id : String)
    (n : Nat) : bump id n op = n := by
  unfold bump
  revert h
  cases op.kind <;> simp [TaskOpKind.advance, TaskOpKind.count]

variable {ops : List TaskOp} {id : String}

/-- Without a submission or redrive the count only grows, by at least one if there is a retry. -/
lemma le_foldl_bump (hreset : ∀ o ∈ ops, o.taskId = id → o.kind.resets = false) (n : Nat) :
    n ≤ ops.foldl (bump id) n ∧
      ((∃ o ∈ ops, o.taskId = id ∧ o.kind = .retried) → n < ops.foldl (bump id) n) := by
  induction ops generalizing n with
  | nil => simp
  | cons op ops ih =>
    have hrest := ih fun o ho => hreset o (List.mem_cons_of_mem _ ho)
    have hle : n ≤ bump id n op ∧ (op.taskId = id → op.kind = .retried → n < bump id n op) := by
      unfold bump
      split
      next hid =>
        have hno := hreset op List.mem_cons_self hid
        revert hno
        cases op.kind <;> simp [TaskOpKind.count, TaskOpKind.resets]
      next hid => exact ⟨le_rfl, fun h => absurd h hid⟩
    have hgrow := (hrest (bump id n op)).1
    refine ⟨hle.1.trans hgrow, ?_⟩
    rintro ⟨o, ho, hid, hk⟩
    rcases List.mem_cons.mp ho with rfl | ho
    · exact (hle.2 hid hk).trans_le hgrow
    · exact hle.1.trans_lt ((hrest (bump id n op)).2 ⟨o, ho, hid, hk⟩)

/-! ## The ops a call issues -/

/-- The op a transition hands to the op-log, if the FSM has the edge. -/
def issuedOp (s : TaskStore) (taskId : String) (event : TaskEvent) (kind : Task → TaskOpKind)
    (nodeId : Option String) (ts : Int) : List TaskOp :=
  match s.tasks.lookup taskId with
  | none => []
  | some task =>
    match task.state.transition event with
    | .error _ => []
    | .ok _ => [opOf taskId (withNode task nodeId) (kind task) ts]

variable {s s' : TaskStore} {kind : Task → TaskOpKind} {event : TaskEvent} {taskId : String}
  {l : ChangeLabel} {n : Nat} {fresh exact : Prop}

lemma mem_issuedOp {nodeId : Option String} {ts : Int}
    (h : op ∈ s.issuedOp taskId event kind nodeId ts) :
    ∃ task, s.tasks.lookup taskId = some task ∧
      (∃ next, task.state.transition event = .ok next) ∧
      s.issuedOp taskId event kind nodeId ts = [op] ∧
      op = opOf taskId (withNode task nodeId) (kind task) ts := by
  unfold issuedOp at h ⊢
  rcases ht : s.tasks.lookup taskId with _ | task
  · simp only [ht] at h
    exact absurd h List.not_mem_nil
  rcases hn : task.state.transition event with e | next
  · simp only [ht, hn] at h
    exact absurd h List.not_mem_nil
  · simp only [ht, hn, List.mem_singleton] at h
    subst h
    exact ⟨task, rfl, ⟨next, hn⟩, by simp only [hn], rfl⟩

/-- The ops of a call that bear on the fence: an `assigned` or `started` op is issued as soon as it
is handed to the op-log, the others when they reach the journal, whatever the caller is told. -/
def issues (s : TaskStore) : TaskCall → List TaskOp
  | .submit attrs io =>
    match io.append.fault with
    | some (.refused _) => []
    | _ =>
      -- the append is accepted when it would be on time
      match (s.submit attrs { io with append := ⟨io.append.ts, none⟩ }).1 with
      | .ok (.created taskId) => [submitOp attrs taskId io.append.ts]
      | _ => []
  | .assign taskId vmId nodeId io =>
    s.issuedOp taskId .assign (fun t => .assigned (some t.attempt) vmId nodeId) nodeId io.ts
  | .start taskId vmId nodeId io =>
    s.issuedOp taskId .start (fun t => .started (some t.attempt) vmId nodeId) nodeId io.ts
  | .retry taskId io =>
    if (s.retry taskId io).2.db.journal.lastSeq = s.db.journal.lastSeq then []
    else s.issuedOp taskId .retry (fun _ => .retried) none io.ts
  | .redrive taskId io =>
    if (s.redrive taskId io).2.db.journal.lastSeq = s.db.journal.lastSeq then []
    else s.issuedOp taskId .redrive (fun _ => .redrive) none io.ts
  | .succeed _ _ _ | .fail _ _ _ _ | .expire _ _ | .reassignInFlight _ _ _ _ | .restart
  | .background _ => []

/-! ## Counts -/

/-- The row of the task carries the retry count `n`. Its task in memory is not ahead while it is
live, if `fresh`, and carries the same count, if `exact`. -/
structure Counts (fresh exact : Prop) (id : String) (n : Nat) (s : TaskStore) : Prop where
  row : ∀ {row}, s.db.task.tasks.lookup id = some row → row.attempt = n
  live : fresh → ∀ {task}, s.tasks.lookup id = some task → task.state.terminal = false →
    task.attempt ≤ n + 1
  exact : exact → ∀ {task}, s.tasks.lookup id = some task → task.attempt = n + 1

lemma attempt_onTask {task : Task} {kind : TaskOpKind} (hallows : task.allows kind)
    (nodeId : Option String) (ts : Int) :
    (task.attempt = n + 1 → (kind.onTask ts (withNode task nodeId)).attempt = kind.count n + 1) ∧
      (task.attempt ≤ n + 1 →
        (kind.onTask ts (withNode task nodeId)).attempt ≤ kind.count n + 1) := by
  cases kind <;> cases nodeId <;>
    first | exact hallows.elim | simp +contextual [TaskOpKind.onTask, TaskOpKind.count, withNode]

lemma attempt_onRow (hk : op.kind.isUpdate = true) (row : TaskRow) :
    (op.onRow row).attempt = op.kind.count row.attempt := by
  unfold TaskOp.onRow
  rcases hkind : op.kind with _ | _ | _ | _ | _ | _ | _ | _
  case submitted =>
      rw [hkind] at hk
      simp [TaskOpKind.isUpdate] at hk
  case assigned | started =>
      simp only
      split <;> rfl
  all_goals rfl

/-- The row of a task after an op of one of its transitions. -/
lemma attempt_of_appendTask {task : Task} {kind : TaskOpKind} {nodeId : Option String} {ts : Int}
    {db db' : Db} {row : TaskRow} (hallows : task.allows kind)
    (hrow : ∀ {row}, db.task.tasks.lookup id = some row → row.attempt = n)
    (happ : db.appendTask (opOf taskId (withNode task nodeId) kind ts) none = .ok db')
    (hr : db'.task.tasks.lookup id = some row) :
    row.attempt = if taskId = id then kind.count n else n := by
  have hkind : kind.isUpdate = true := by
    cases kind with
    | submitted key expiresAt request => exact hallows.elim
    | _ => rfl
  obtain ⟨row0, hr0, rfl⟩ := row_of_appendTask hallows happ hr
  by_cases hid : id = taskId
  · rw [if_pos hid, if_pos hid.symm, attempt_onRow hkind, hrow hr0]
    rfl
  · rw [if_neg hid, if_neg (Ne.symm hid)]
    exact hrow hr0

/-- The row of a task after an accepted submission. -/
lemma attempt_of_submitted {attrs : SubmitAttrs} {ts : Int} {db db' : Db} {row : TaskRow}
    (hrow : ∀ {row}, db.task.tasks.lookup id = some row → row.attempt = n)
    (happ : db.appendTask (submitOp attrs taskId ts) none = .ok db')
    (hr : db'.task.tasks.lookup id = some row) : row.attempt = if taskId = id then 0 else n := by
  by_cases hid : id = taskId
  · subst hid
    obtain ⟨-, t, hp, rfl⟩ := Db.appendTask_eq_ok happ
    obtain ⟨principal, -, -, -, -, htasks⟩ := TaskTables.project_submitted rfl hp
    rw [if_pos rfl, ← some.inj ((htasks ▸ AList.lookup_insert _ :
      t.tasks.lookup id = _).symm.trans hr)]
  · rw [if_neg (Ne.symm hid)]
    exact hrow ((lookup_appendTask_of_ne happ hid).symm.trans hr)

/-- **Step lemma, change by change.** -/
theorem counts_change (h : Counts fresh exact id n s) (hc : Change s l s')
    (hfresh : fresh → l ≠ .submittedLate id) (hexact : exact → ¬ l.recounts id) :
    Counts fresh exact id (l.count id n) s' := by
  cases hc with
  | @wrote taskId task kind ts db nodeId ht hallows happ =>
    refine ⟨fun hr => attempt_of_appendTask hallows h.row happ hr, fun hf task' ht' hlive => ?_,
      fun he task' ht' => ?_⟩
    · obtain ⟨rfl, rfl⟩ | ⟨hid, ht'⟩ := of_lookup_insert ht'
      · rw [ChangeLabel.count, if_pos rfl]
        by_cases hk : kind = .redrive
        · subst hk
          exact Nat.le_refl 1
        · have hbefore := (live_or_terminal_of_allows hallows hk nodeId ts).resolve_right
            (by simp [hlive])
          exact (attempt_onTask hallows nodeId ts).2 (h.live hf ht hbefore)
      · rw [ChangeLabel.count, if_neg (Ne.symm hid)]
        exact h.live hf ht' hlive
    · obtain ⟨rfl, rfl⟩ | ⟨hid, ht'⟩ := of_lookup_insert ht'
      · rw [ChangeLabel.count, if_pos rfl]
        exact (attempt_onTask hallows nodeId ts).1 (h.exact he ht)
      · rw [ChangeLabel.count, if_neg (Ne.symm hid)]
        exact h.exact he ht'
  | @wroteLate taskId task kind ts db nodeId ht hallows happ =>
    refine ⟨fun hr => attempt_of_appendTask hallows h.row happ hr, fun hf task' ht' hlive => ?_,
      fun he task' ht' => ?_⟩
    · have hle := h.live hf ht' hlive
      rw [ChangeLabel.count]
      split_ifs with hid
      · subst hid
        cases ht.symm.trans ht'
        -- a live task is not redriven
        cases kind <;> simp_all [Task.allows, TaskOpKind.count, TaskState.terminal]
        omega
      · exact hle
    · have heq := h.exact he ht'
      have hno := hexact he
      rw [ChangeLabel.count]
      split_ifs with hid
      · subst hid
        cases kind <;> simp_all [Task.allows, TaskOpKind.count, ChangeLabel.recounts]
      · exact heq
  | @submitted attrs taskId ts db happ =>
    refine ⟨fun hr => attempt_of_submitted h.row happ hr, fun hf task' ht' hlive => ?_,
      fun he task' ht' => ?_⟩
    · obtain ⟨rfl, rfl⟩ | ⟨hid, ht'⟩ := of_lookup_insert ht'
      · rw [ChangeLabel.count, if_pos rfl]
        exact Nat.le_refl 1
      · rw [ChangeLabel.count, if_neg (Ne.symm hid)]
        exact h.live hf ht' hlive
    · obtain ⟨rfl, rfl⟩ | ⟨hid, ht'⟩ := of_lookup_insert ht'
      · rw [ChangeLabel.count, if_pos rfl]
        rfl
      · rw [ChangeLabel.count, if_neg (Ne.symm hid)]
        exact h.exact he ht'
  | @submittedLate attrs taskId ts db happ =>
    refine ⟨fun hr => attempt_of_submitted h.row happ hr, fun hf task' ht' hlive => ?_,
      fun he task' ht' => ?_⟩
    · have hid : taskId ≠ id := fun heq => hfresh hf (by rw [heq])
      rw [ChangeLabel.count, if_neg hid]
      exact h.live hf ht' hlive
    · have hid : taskId ≠ id := fun heq => hexact he heq
      rw [ChangeLabel.count, if_neg hid]
      exact h.exact he ht'
  | evicted workload key ht hterm hidem =>
    exact ⟨fun hr => h.row (of_lookup_erase hr).2,
      fun hf _ ht' => h.live hf (of_lookup_erase ht').2,
      fun he _ ht' => h.exact he (of_lookup_erase ht').2⟩
  | evictedLate ht hterm => exact ⟨fun hr => h.row (of_lookup_erase hr).2, h.live, h.exact⟩
  | @counted taskId task ht =>
    refine ⟨h.row, fun hf task' ht' => ?_, fun he task' ht' => ?_⟩
    · obtain ⟨rfl, rfl⟩ | ⟨-, ht'⟩ := of_lookup_insert ht'
      · have hle := h.live hf ht
        exact hle
      · exact h.live hf ht'
    · obtain ⟨rfl, rfl⟩ | ⟨-, ht'⟩ := of_lookup_insert ht'
      · have heq := h.exact he ht
        exact heq
      · exact h.exact he ht'
  | background b =>
    exact ⟨fun hr => h.row ((b.thinned_apply s.db).lookup_eq_some hr), h.live, h.exact⟩
  | restarted =>
    have hattempt : ∀ {task}, (rebuild s.db).tasks.lookup id = some task →
        task.attempt = n + 1 := by
      intro task ht
      rw [show (rebuild s.db).tasks.lookup id = _ from
        lookup_mapVal s.db.task.tasks (fun _ row => rowToTask row) id] at ht
      obtain ⟨row, hrow, rfl⟩ := map_eq_some_iff.mp ht
      exact congrArg (· + 1) (h.row hrow)
    exact ⟨h.row, fun _ _ ht _ => (hattempt ht).le, fun _ _ ht => hattempt ht⟩

/-- A path of changes that count nothing. -/
lemma counts_path {A : ChangeLabel → Prop} (h : Counts fresh exact id n s) (hp : Path A s s')
    (hA : ∀ l, A l → l.count id n = n ∧ ¬ l.recounts id) : Counts fresh exact id n s' := by
  refine hp.induction (Counts fresh exact id n) ?_ h
  intro s1 l s2 h1 hl hc
  have h2 := counts_change h1 hc
    (fun _ heq => (hA l hl).2 (by rw [heq]; exact rfl)) fun _ => (hA l hl).2
  rwa [(hA l hl).1] at h2

lemma count_of_ofAppend {io : AppendIo} {kind : TaskOpKind} (h : ∀ m, kind.count m = m)
    (hl : l.ofAppend taskId kind io) : l.count id n = n ∧ ¬ l.recounts id := by
  have hretried : kind ≠ .retried := fun hk => by
    have := h 0
    simp [hk, TaskOpKind.count] at this
  have hredrive : kind ≠ .redrive := fun hk => by
    have := h 1
    simp [hk, TaskOpKind.count] at this
  obtain ⟨-, rfl⟩ | ⟨-, rfl⟩ := hl
  · exact ⟨by simp [ChangeLabel.count, h], fun h => h.elim⟩
  · exact ⟨by simp [ChangeLabel.count, h], by simp [ChangeLabel.recounts, hretried, hredrive]⟩

lemma count_of_ofFail {io : FailIo} (h : l.ofFail taskId io) :
    l.count id n = n ∧ ¬ l.recounts id := by
  obtain ⟨next, reason, hl⟩ | rfl | hl | ⟨b, -, rfl⟩ := h
  · exact count_of_ofAppend (fun _ => rfl) hl
  · exact ⟨rfl, fun h => h.elim⟩
  · exact count_of_ofAppend (fun _ => rfl) hl
  · exact ⟨rfl, fun h => h.elim⟩

lemma retriesSince_concat (id : String) (ops : List TaskOp) (op : TaskOp) :
    retriesSince id (ops ++ [op]) =
      if op.taskId = id then op.kind.count (retriesSince id ops) else retriesSince id ops :=
  retriesSince_append id ops [op]

/-- An `assigned` or `started` op counts nothing. -/
lemma retriesSince_issuedOp (hk : ∀ t, (kind t).advance ≠ none) (nodeId : Option String) (ts : Int)
    (id : String) (ops : List TaskOp) :
    retriesSince id (ops ++ s.issuedOp taskId event kind nodeId ts) = retriesSince id ops := by
  unfold issuedOp
  split
  · rw [List.append_nil]
  split
  · rw [List.append_nil]
  next task _ _ _ _ =>
    obtain ⟨a, ha⟩ := ne_none_iff_exists'.mp (hk task)
    rw [retriesSince_append]
    exact bump_of_advance ha id _

lemma retriesSince_assign (vmId nodeId : Option String) (io : AppendIo) (id : String)
    (ops : List TaskOp) :
    retriesSince id (ops ++ s.issues (.assign taskId vmId nodeId io)) = retriesSince id ops :=
  retriesSince_issuedOp (by simp [TaskOpKind.advance]) ..

lemma retriesSince_start (vmId nodeId : Option String) (io : AppendIo) (id : String)
    (ops : List TaskOp) :
    retriesSince id (ops ++ s.issues (.start taskId vmId nodeId io)) = retriesSince id ops :=
  retriesSince_issuedOp (by simp [TaskOpKind.advance]) ..

/-- A write takes a number in the journal. -/
lemma lastSeq_of_wrote {kind : TaskOpKind} (hc : Change s l s')
    (hl : l = .wrote taskId kind ∨ l = .wroteLate taskId kind) :
    s'.db.journal.lastSeq ≠ s.db.journal.lastSeq := by
  cases hc with
  | wrote nodeId ht hallows happ | wroteLate nodeId ht hallows happ =>
    obtain ⟨-, t, hp, rfl⟩ := Db.appendTask_eq_ok happ
    exact Nat.succ_ne_self _
  | _ => simp at hl

/-- A retry or redrive moves memory, row and the count of the issued ops together. -/
lemma counts_write {kind : TaskOpKind} {io : AppendIo} {r : Except TaskError TaskReply × TaskStore}
    (h : Counts fresh exact id (retriesSince id ops) s)
    (hw : Writes s taskId event (fun _ _ => kind) io r)
    (hexact : exact → ∀ l : ChangeLabel, l.ofAppend taskId kind io → ¬ l.recounts id) :
    Counts fresh exact id (retriesSince id (ops ++
      if r.2.db.journal.lastSeq = s.db.journal.lastSeq then []
      else s.issuedOp taskId event (fun _ => kind) none io.ts)) r.2 := by
  rcases hw with ⟨hs, -⟩ | ⟨task, next, ht, hn, hcases⟩
  · rw [hs, if_pos rfl, List.append_nil]
    exact h
  obtain ⟨l, hl, hlate, hcount, hc⟩ : ∃ l, l.ofAppend taskId kind io ∧ l ≠ .submittedLate id ∧
      (∀ m, l.count id m = if taskId = id then kind.count m else m) ∧ Change s l r.2 := by
    rcases hcases with ⟨hf, -, hc⟩ | ⟨hf, -, hc⟩
    · exact ⟨_, .inl ⟨hf, rfl⟩, by simp, fun _ => rfl, hc⟩
    · exact ⟨_, .inr ⟨hf, rfl⟩, by simp, fun _ => rfl, hc⟩
  have hseq : r.2.db.journal.lastSeq ≠ s.db.journal.lastSeq :=
    lastSeq_of_wrote hc (hl.imp And.right And.right)
  have hissued : s.issuedOp taskId event (fun _ => kind) none io.ts =
      [opOf taskId task kind io.ts] := by
    simp only [issuedOp, ht, hn]
    rfl
  have hstep := counts_change h hc (fun _ => hlate) fun he => hexact he l hl
  rw [hcount] at hstep
  rw [if_neg hseq, hissued, retriesSince_concat]
  exact hstep

/-- The append of a submission, and whether it reaches the journal. -/
lemma counts_doSubmit (attrs : SubmitAttrs) (io : SubmitIo)
    (h : Counts fresh exact id (retriesSince id ops) s)
    (hlate : fresh ∨ exact → io.append.fault = some .timedOut → io.taskId ≠ id) :
    Counts fresh exact id (retriesSince id (ops ++ match io.append.fault with
      | some (.refused _) => []
      | _ =>
        match (s.doSubmit attrs { io with append := ⟨io.append.ts, none⟩ }).1 with
        | .ok (.created taskId) => [submitOp attrs taskId io.append.ts]
        | _ => [])) (s.doSubmit attrs io).2 := by
  rcases hp : s.db.task.project (submitOp attrs io.taskId io.append.ts) with e | t
  · -- the projection refuses, and nothing is issued or changed
    rcases hf : io.append.fault with _ | e' | _ <;>
      simpa [doSubmit, Db.appendTask, hp, hf, Except.map, answered] using h
  have happ : s.db.appendTask (submitOp attrs io.taskId io.append.ts) none = .ok { s.db with
      task := t
      journal := s.db.journal.append (.task (submitOp attrs io.taskId io.append.ts)) } := by
    simp only [Db.appendTask, hp, Except.map, answered]
  rcases hf : io.append.fault with _ | e | _
  · have hstep := counts_change h (Change.submitted happ) (by simp) fun _ h => h.elim
    simp only [doSubmit, hf, happ, retriesSince_concat]
    exact hstep
  · simpa [doSubmit, Db.appendTask, hf, answered] using h
  · have hstep := counts_change h (Change.submittedLate happ)
      (fun hfresh heq => hlate (.inl hfresh) hf (ChangeLabel.submittedLate.inj heq))
      (fun hexact heq => hlate (.inr hexact) hf heq)
    have htimed : s.db.appendTask (submitOp attrs io.taskId io.append.ts) (some .timedOut) =
        .error (.unavailable, { s.db with
          task := t
          journal := s.db.journal.append (.task (submitOp attrs io.taskId io.append.ts)) }) := by
      simp only [Db.appendTask, hp, Except.map, answered]
    simp only [doSubmit, hf, happ, htimed, retriesSince_concat]
    exact hstep

/-- **Step lemma.** A call moves memory, row and the count of the issued ops together. -/
theorem counts_step (h : Counts fresh exact id (retriesSince id ops) s) (call : TaskCall)
    (hfresh : fresh → ¬ call.makes (.submittedLate id))
    (hexact : exact → ∀ l, call.makes l → ¬ l.recounts id) :
    Counts fresh exact id (retriesSince id (ops ++ s.issues call)) (s.step call) := by
  cases call with
  | submit attrs io =>
    have hbefore : ∀ l : ChangeLabel, l.beforeSubmit io →
        l.count id (retriesSince id ops) = retriesSince id ops ∧ ¬ l.recounts id := by
      rintro l (⟨-, _, rfl⟩ | ⟨-, _, rfl⟩ | ⟨b, -, rfl⟩) <;> exact ⟨rfl, fun h => h.elim⟩
    show Counts _ _ _ _ (s.submit attrs io).2
    rcases submit_eq s attrs io with ⟨r, hr, hpath, hno⟩ | ⟨hpath, hr⟩
    · rw [show s.submit attrs io = r from hr io.append]
      have hissues : s.issues (.submit attrs io) = [] := by
        unfold issues
        simp only [hr]
        split <;> rfl
      rw [hissues, List.append_nil]
      exact counts_path h hpath hbefore
    · rw [show s.submit attrs io = _ from hr io.append]
      have hstep := counts_doSubmit attrs io (counts_path h hpath hbefore) ?_
      · unfold issues
        simp only [hr]
        exact hstep
      · rintro (hf | he) htimed heq
        · exact hfresh hf (.inr (.inl ⟨htimed, by rw [heq]⟩))
        · exact hexact he _ (.inr (.inl ⟨htimed, rfl⟩)) heq
  | retry taskId io => exact counts_write h (retry_cases s taskId io) hexact
  | redrive taskId io => exact counts_write h (redrive_cases s taskId io) hexact
  | assign taskId vmId nodeId io | start taskId vmId nodeId io =>
    simp only [retriesSince_assign, retriesSince_start]
    refine counts_path h (step_path s _) ?_
    rintro l ⟨epoch, hl⟩
    exact count_of_ofAppend (fun _ => rfl) hl
  | succeed taskId result io | expire taskId io =>
    simp only [issues, List.append_nil]
    exact counts_path h (step_path s _) fun l hl => count_of_ofAppend (fun _ => rfl) hl
  | fail taskId reason rand io =>
    simp only [issues, List.append_nil]
    exact counts_path h (step_path s _) fun l hl => count_of_ofFail hl
  | reassignInFlight reason nodeId bg io =>
    simp only [issues, List.append_nil]
    refine counts_path h (step_path s _) ?_
    rintro l (⟨id, b, -, rfl⟩ | ⟨id, hl⟩)
    · exact ⟨rfl, fun h => h.elim⟩
    · exact count_of_ofFail hl
  | restart =>
    simp only [issues, List.append_nil]
    exact counts_change h Change.restarted (by simp) fun _ h => h.elim
  | background b =>
    simp only [issues, List.append_nil]
    exact counts_change h (Change.background b) (by simp) fun _ h => h.elim

end TaskStore

/-! ## Late delivery -/

/-- The store and the ops it has issued, oldest first. -/
structure Fenced where
  store : TaskStore
  issued : List TaskOp

/-- A call; an `assign` or `start` acknowledged with its op held back; or an issued `assigned` or
`started` op, named by its position, that reaches the projection now. -/
inductive FenceEvent where
  | call (c : TaskCall)
  | held (c : TaskCall)
  | late (i : Nat)

namespace Fenced

open TaskStore

/-- The op-log after an op reaches it late. -/
def deliver (db : Db) (op : TaskOp) : Db :=
  match op.kind.advance with
  | none => db
  | some _ =>
    match db.appendTask op none with
    | .ok db => db
    | .error _ => db

def init : Fenced := ⟨.init, []⟩

def step (f : Fenced) : FenceEvent → Fenced
  | .call c => ⟨f.store.step c, f.issued ++ f.store.issues c⟩
  | .held (.assign taskId vmId nodeId io) =>
    let c := TaskCall.assign taskId vmId nodeId io
    ⟨{ f.store.step c with db := f.store.db }, f.issued ++ f.store.issues c⟩
  | .held (.start taskId vmId nodeId io) =>
    let c := TaskCall.start taskId vmId nodeId io
    ⟨{ f.store.step c with db := f.store.db }, f.issued ++ f.store.issues c⟩
  | .held _ => f
  | .late i =>
    match f.issued[i]? with
    | some op => { f with store := { f.store with db := deliver f.store.db op } }
    | none => f

/-- The row of a task. -/
def row (f : Fenced) (id : String) : Option TaskRow := f.store.db.task.tasks.lookup id

/-- The row counts the retries since the last submission or redrive. The epoch of an issued op is at
most one more than the retries that were counted when it was issued, if `fresh`, and just that, if
`exact`. -/
structure Epochs (fresh exact : Prop) (id : String) (f : Fenced) : Prop where
  counts : Counts fresh exact id (retriesSince id f.issued) f.store
  epoch : ∀ {i op a}, f.issued[i]? = some op → op.taskId = id → op.kind.advance = some a →
    ∃ e, a.2 = some e ∧ (fresh → e ≤ retriesSince id (f.issued.take i) + 1) ∧
      (exact → e = retriesSince id (f.issued.take i) + 1)

variable {f : Fenced} {a : TaskState × Option Nat} {op : TaskOp} {fresh exact : Prop} {id : String}
  {i : Nat}

/-- An op of the two kinds carries the attempt of its task in memory. -/
lemma epoch_of_mem_issues (h : Epochs fresh exact id f) (c : TaskCall) (hop : op ∈ f.store.issues c)
    (hid : op.taskId = id) (ha : op.kind.advance = some a) : f.store.issues c = [op] ∧
      ∃ e, a.2 = some e ∧ (fresh → e ≤ retriesSince id f.issued + 1) ∧
        (exact → e = retriesSince id f.issued + 1) := by
  cases c with
  | submit attrs io =>
    simp only [issues] at hop
    split at hop
    · exact absurd hop List.not_mem_nil
    split at hop
    · rw [List.mem_singleton.mp hop] at ha
      simp [submitOp, TaskOpKind.advance] at ha
    · exact absurd hop List.not_mem_nil
  | assign taskId vmId nodeId io | start taskId vmId nodeId io =>
    obtain ⟨task, ht, ⟨next, hn⟩, hone, rfl⟩ := mem_issuedOp hop
    have hlive : task.state.terminal = false := by
      revert hn
      cases task.state <;> simp [TaskState.transition, TaskState.terminal]
    change taskId = id at hid
    subst hid
    refine ⟨hone, task.attempt, ?_, fun hf => h.counts.live hf ht hlive, fun he =>
      h.counts.exact he ht⟩
    rw [← some.inj ha]
  | retry taskId io | redrive taskId io =>
    simp only [issues] at hop
    split at hop
    · exact absurd hop List.not_mem_nil
    · obtain ⟨task, -, -, -, rfl⟩ := mem_issuedOp hop
      simp [opOf, TaskOpKind.advance] at ha
  | _ => exact absurd hop List.not_mem_nil

lemma epoch_append (h : Epochs fresh exact id f) (c : TaskCall)
    (hop : (f.issued ++ f.store.issues c)[i]? = some op) (hid : op.taskId = id)
    (ha : op.kind.advance = some a) : ∃ e, a.2 = some e ∧
      (fresh → e ≤ retriesSince id ((f.issued ++ f.store.issues c).take i) + 1) ∧
      (exact → e = retriesSince id ((f.issued ++ f.store.issues c).take i) + 1) := by
  rcases Nat.lt_or_ge i f.issued.length with hi | hi
  · rw [List.getElem?_append_left hi] at hop
    rw [List.take_append_of_le_length hi.le]
    exact h.epoch hop hid ha
  · rw [List.getElem?_append_right hi] at hop
    obtain ⟨hone, hepoch⟩ := epoch_of_mem_issues h c (List.mem_of_getElem? hop) hid ha
    have hi' : i = f.issued.length := by
      have hlt := (List.getElem?_eq_some_iff.mp hop).1
      rw [hone, List.length_singleton] at hlt
      omega
    rw [hi', List.take_left']
    · exact hepoch
    · rfl

/-- The two kinds move a row they reach to their state and leave the others alone. -/
lemma onRow_of_advance (ha : op.kind.advance = some a) (row : TaskRow) : op.onRow row =
      if row.advances a.1 a.2 then { row with state := a.1, updatedAt := op.ts } else row := by
  unfold TaskOp.onRow
  rcases hk : op.kind with _ | _ | _ | _ | _ | _ | _ | _
  case assigned | started =>
      rw [hk] at ha
      rw [← some.inj ha]
  all_goals
    rw [hk] at ha
    simp [TaskOpKind.advance] at ha

/-- The fence: a row keeps still exactly when its state is not below the op's, or when it has been
retried as often as the op's epoch. -/
lemma onRow_eq_self_iff {e : Nat} (ha : op.kind.advance = some a) (he : a.2 = some e)
    (row : TaskRow) : op.onRow row = row ↔ (row.state ∈ a.1.statesBelow → e ≤ row.attempt) := by
  rw [onRow_of_advance ha]
  constructor
  · intro heq hbelow
    by_contra hlt
    have hadv : row.advances a.1 a.2 = true := by
      simp only [TaskRow.advances, he, hbelow, Bool.and_eq_true, decide_eq_true_eq]
      exact ⟨trivial, by omega⟩
    rw [if_pos hadv] at heq
    have hst : a.1 = row.state := congrArg TaskRow.state heq
    rw [TaskState.mem_statesBelow, hst] at hbelow
    exact lt_irrefl _ hbelow
  · intro hfence
    rw [if_neg]
    intro hadv
    simp only [TaskRow.advances, he, Bool.and_eq_true, decide_eq_true_eq] at hadv
    have := hfence hadv.1
    omega

/-- A late op addresses the row of its task, as an op on time does. -/
lemma lookup_deliver (db : Db) (ha : op.kind.advance = some a) (id : String) :
    (deliver db op).task.tasks.lookup id =
      if id = op.taskId then (db.task.tasks.lookup op.taskId).map op.onRow
      else db.task.tasks.lookup id := by
  have hkind : op.kind.isUpdate = true := by
    revert ha
    cases op.kind <;> simp [TaskOpKind.advance, TaskOpKind.isUpdate]
  obtain ⟨t, hp⟩ : ∃ t, db.task.project op = .ok t := by
    unfold TaskTables.project
    revert ha
    cases op.kind <;> simp [TaskOpKind.advance]
  simp only [deliver, ha, Db.appendTask, hp, Except.map]
  exact TaskTables.lookup_project_of_isUpdate hkind hp id

lemma counts_deliver {n : Nat} {s : TaskStore} (h : Counts fresh exact id n s) (op : TaskOp) :
    Counts fresh exact id n { s with db := deliver s.db op } := by
  rcases ha : op.kind.advance with _ | a
  · have hsame : deliver s.db op = s.db := by simp only [deliver, ha]
    rw [hsame]
    exact h
  · refine ⟨?_, h.live, h.exact⟩
    intro row hr
    rw [lookup_deliver s.db ha] at hr
    split at hr
    next hid =>
      obtain ⟨row', hr', rfl⟩ := map_eq_some_iff.mp hr
      rw [← h.row (hid ▸ hr'), onRow_of_advance ha]
      split <;> rfl
    next => exact h.row hr

/-- The event has no submission under the id that is served late, if `fresh`, and no submission,
retry or redrive of the task, if `exact`. -/
def Timely (fresh exact : Prop) (id : String) (e : FenceEvent) : Prop :=
  ∀ c, e = .call c → (fresh → ¬ c.makes (.submittedLate id)) ∧
    (exact → ∀ l, c.makes l → ¬ l.recounts id)

/-- **Step lemma.** -/
theorem epochs_step (h : Epochs fresh exact id f) (e : FenceEvent)
    (ht : Timely fresh exact id e) : Epochs fresh exact id (f.step e) := by
  cases e with
  | call c =>
    obtain ⟨hfresh, hexact⟩ := ht c rfl
    exact ⟨counts_step h.counts c hfresh hexact, epoch_append h c⟩
  | held c =>
    have hheld : ∀ c : TaskCall,
        (∀ ops, retriesSince id (ops ++ f.store.issues c) = retriesSince id ops) →
        (∀ l, c.makes l → l.count id (retriesSince id f.issued) = retriesSince id f.issued ∧
          ¬ l.recounts id) →
        Epochs fresh exact id
          ⟨{ f.store.step c with db := f.store.db }, f.issued ++ f.store.issues c⟩ := by
      intro c hops hl
      refine ⟨?_, epoch_append h c⟩
      have hstep := counts_path h.counts (step_path f.store c) hl
      rw [hops]
      exact ⟨h.counts.row, hstep.live, hstep.exact⟩
    cases c with
    | assign taskId vmId nodeId io =>
      exact hheld _ (fun _ => retriesSince_assign ..) fun l ⟨_, hl⟩ =>
        count_of_ofAppend (fun _ => rfl) hl
    | start taskId vmId nodeId io =>
      exact hheld _ (fun _ => retriesSince_start ..) fun l ⟨_, hl⟩ =>
        count_of_ofAppend (fun _ => rfl) hl
    | _ => exact h
  | late i =>
    simp only [step]
    split
    next op hop => exact ⟨counts_deliver h.counts op, h.epoch⟩
    next => exact h

lemma epochs_init : Epochs fresh exact id init where
  counts := by
    have hrow : ∀ id, init.store.db.task.tasks.lookup id = none := fun _ => rfl
    have htask : ∀ id, init.store.tasks.lookup id = none := fun _ => rfl
    exact ⟨fun hr => by simp [hrow] at hr, fun _ _ ht => by simp [htask] at ht,
      fun _ _ ht => by simp [htask] at ht⟩
  epoch hop := by simp [init] at hop

/-- **Run lemma.** -/
lemma epochs_run (es : List FenceEvent) (ht : ∀ e ∈ es, Timely fresh exact id e) :
    Epochs fresh exact id (run step init es) :=
  run_induction (Epochs fresh exact id) (fun _ e h he => epochs_step h e he) epochs_init
    (along_of_forall_mem (fun e he _ => ht e he) _)

lemma late_unchanged_iff (h : Epochs fresh exact op.taskId f) (hop : f.issued[i]? = some op)
    (ha : op.kind.advance = some a) : (f.step (.late i)).row op.taskId = f.row op.taskId ↔
      ∀ row, f.row op.taskId = some row → row.state ∈ a.1.statesBelow →
        ∀ e, a.2 = some e → e ≤ retriesSince op.taskId f.issued := by
  have hrow : (f.step (.late i)).row op.taskId = (f.row op.taskId).map op.onRow := by
    simp only [step, hop, row]
    rw [lookup_deliver f.store.db ha, if_pos rfl]
  rw [hrow]
  rcases hr : f.row op.taskId with _ | r
  · simp
  · have hattempt : r.attempt = retriesSince op.taskId f.issued := h.counts.row hr
    obtain ⟨e, he, -⟩ := h.epoch hop rfl ha
    rw [map_some, some.injEq, onRow_eq_self_iff ha he, hattempt]
    constructor
    · rintro hfence row hrow hbelow e' he'
      rw [← some.inj hrow] at hbelow
      rw [he, some.injEq] at he'
      exact he' ▸ hfence hbelow
    · intro hfence hbelow
      exact hfence r rfl hbelow e he

/-- A retry after an op is counted, unless the count is set back. -/
lemma retries_lt_of_retried (hop : f.issued[i]? = some op) (ha : op.kind.advance = some a)
    (hreset : ∀ o ∈ f.issued.drop (i + 1), o.taskId = op.taskId → o.kind.resets = false)
    (hretried : ∃ o ∈ f.issued.drop (i + 1), o.taskId = op.taskId ∧ o.kind = .retried) :
    retriesSince op.taskId (f.issued.take i) < retriesSince op.taskId f.issued := by
  have hsplit : f.issued = f.issued.take i ++ op :: f.issued.drop (i + 1) := by
    obtain ⟨hi, hget⟩ := List.getElem?_eq_some_iff.mp hop
    rw [← hget, ← List.drop_eq_getElem_cons hi, List.take_append_drop]
  have hcount : retriesSince op.taskId f.issued = (f.issued.drop (i + 1)).foldl (bump op.taskId)
      (retriesSince op.taskId (f.issued.take i)) := by
    conv_lhs => rw [hsplit, retriesSince_append, List.foldl_cons, bump_of_advance ha]
  rw [hcount]
  exact (le_foldl_bump hreset _).2 hretried

/-- **When the epoch fences a stale op.** Take any run of calls and late deliveries, an `assigned`
or `started` op it has issued, and a retry or redrive of the same task after it. Applying the op
leaves the row as it is iff the row is gone, or its state is not below the op's, or the task has
been retried at least as often since its last submission or redrive as the op's epoch says. Where no
submission, retry or redrive of the task was served after its caller had given up, the last is: more
often than it had been when the op was issued. The row stays as it is whenever there is no
submission or redrive after the op and no submission under the id was served late. -/
theorem stale_op_unchanged_iff (es : List FenceEvent) {i : Nat} {op : TaskOp}
    {a : TaskState × Option Nat} (hop : (run step init es).issued[i]? = some op)
    (ha : op.kind.advance = some a)
    (hstale : ∃ o ∈ (run step init es).issued.drop (i + 1), o.taskId = op.taskId ∧
      (o.kind = .retried ∨ o.kind = .redrive)) :
    let f := run step init es
    ((f.step (.late i)).row op.taskId = f.row op.taskId ↔
      ∀ row, f.row op.taskId = some row → row.state ∈ a.1.statesBelow →
        ∀ e, a.2 = some e → e ≤ retriesSince op.taskId f.issued) ∧
    ((∀ c, .call c ∈ es → ∀ l, c.makes l → ¬ l.recounts op.taskId) →
      ((f.step (.late i)).row op.taskId = f.row op.taskId ↔
        ∀ row, f.row op.taskId = some row → row.state ∈ a.1.statesBelow →
          retriesSince op.taskId (f.issued.take i) < retriesSince op.taskId f.issued)) ∧
    ((∀ c, .call c ∈ es → ¬ c.makes (.submittedLate op.taskId)) →
      (∀ o ∈ f.issued.drop (i + 1), o.taskId = op.taskId → o.kind.resets = false) →
      (f.step (.late i)).row op.taskId = f.row op.taskId) := by
  have hinv : Epochs False False op.taskId (run step init es) :=
    epochs_run es fun _ _ _ _ => ⟨False.elim, False.elim⟩
  intro f
  have hiff := late_unchanged_iff hinv hop ha
  refine ⟨hiff, fun htimely => ?_, fun hfresh hreset => ?_⟩
  · have hexact : Epochs False True op.taskId f :=
      epochs_run es fun e he c hc => ⟨False.elim, fun _ => htimely c (hc ▸ he)⟩
    obtain ⟨e, he, -, heq⟩ := hexact.epoch hop rfl ha
    rw [hiff, he]
    simp only [some.injEq, forall_eq', heq trivial]
    exact Iff.rfl
  · have hlive : Epochs True False op.taskId f :=
      epochs_run es fun e he c hc => ⟨fun _ => hfresh c (hc ▸ he), False.elim⟩
    obtain ⟨e, he, hle, -⟩ := hlive.epoch hop rfl ha
    refine hiff.mpr fun row _ _ e' he' => ?_
    rw [he, some.injEq] at he'
    show e' ≤ retriesSince op.taskId f.issued
    -- with no redrive after the op, what makes it stale is a retry, and that one is counted
    obtain ⟨o, ho, hid, hk | hk⟩ := hstale
    · have hlt : retriesSince op.taskId (f.issued.take i) < retriesSince op.taskId f.issued :=
        retries_lt_of_retried hop ha hreset ⟨o, ho, hid, hk⟩
      have hepoch := hle trivial
      omega
    · have hno := hreset o ho hid
      rw [hk] at hno
      exact absurd hno (by decide)

/-- The first attempt of `t`, which fails for `reason`. -/
def firstAttempt (reason : FailReason) : List FenceEvent :=
  [submitT, .assign "t" none none ⟨1, none⟩, .start "t" none none ⟨2, none⟩, failT reason 3].map
    .call

/-- The `assigned` op of the first attempt. -/
def firstAssigned : TaskOp := ⟨.assigned (some 1) none none, "homelab", some "p", "w", "t", 1⟩

/-- After a retry the first attempt's `assigned` op does nothing. -/
theorem stale_op_unchanged_after_retry :
    let f := run step init (firstAttempt .timeout ++ [.call (.retry "t" ⟨4, none⟩)])
    f.issued[1]? = some firstAssigned ∧ (f.step (.late 1)).row "t" = f.row "t" := by
  have hop : (run step init (firstAttempt .timeout ++ [.call (.retry "t" ⟨4, none⟩)])).issued[1]? =
      some firstAssigned := by decide +kernel
  refine ⟨hop, (stale_op_unchanged_iff _ hop rfl ?_).2.2 ?_ ?_⟩
  · decide +kernel
  · simp +contextual [firstAttempt, submitT, failT, TaskCall.makes, ChangeLabel.ofFail,
      ChangeLabel.ofAppend, ChangeLabel.beforeSubmit]
  · decide +kernel

/-- A redriven task is queued again, and the `assigned` op of its first attempt, issued before the
redrive, moves its row to `assigned`. -/
theorem stale_assigned_op_advances_redriven_row :
    let f := run step init (firstAttempt .guest4xx ++ [.call (.redrive "t" ⟨4, none⟩)])
    f.issued[1]? = some firstAssigned ∧
      (∃ o ∈ f.issued.drop 2, o.taskId = "t" ∧ o.kind = .redrive) ∧
      (f.row "t").map TaskRow.state = some .queued ∧
      ((f.step (.late 1)).row "t").map TaskRow.state = some .assigned := by
  decide +kernel

end Fenced

end Homelab.Embervm
