import Homelab.Embervm.TaskStore.Simulation

/-!
# The request of a live task

The request of a task is kept nowhere but in its `submitted` op, and the dispatcher reads it back
from the journal (`load_request`) each time it assigns the task. This module follows the `submitted`
ops of live tasks through compaction, over runs of the op-log. An op counts when it lands, whatever
its caller is told.

* `PinnedIn`: the journal has a `submitted` op of the task above the marker. While the task has a
  live row no batch deletes it (`Db.doCompact_keeps`). At or below the marker it is fair game, also
  for a task that has become live again.
* `Secured`: every live row is pinned, and all `submitted` ops of a task that are left carry the
  request of its last submission. `secured_step` is the step lemma.
* `dispatchable_iff_retains`: in all states a run passes through, and whatever batches follow, the
  request of every live task can be loaded, iff every op that makes an ended task live again finds
  it pinned and no id is given a second time with another request. The op-log of every run of the
  task store is one of these (`exists_events_run`).
* `redrive_after_compaction_loses_request`: the batch comes before the redrive, and the task is
  queued without its request.
-/

namespace Homelab.Embervm.OpLog

open Homelab.Lib List Option

variable {recorded : String → Option (Option String)} {j j' : Journal Op} {id : String}
  {r : Nat × Op} {db : Db} {s : Logged} {e : DbEvent}

/-! ## Submitted ops in the journal -/

/-- The `submitted` ops in the journal carry the requests of their tasks. -/
structure Carries (recorded : String → Option (Option String)) (j : Journal Op) : Prop where
  pos : ∀ r ∈ j.rows, 0 < r.1
  agree : ∀ r ∈ j.rows, ∀ id body, r.2.submittedRequest id = some body → recorded id = some body

/-- A `submitted` op of the task stands above the marker. -/
def PinnedIn (j : Journal Op) (id : String) : Prop :=
  ∃ r ∈ j.rows, j.marker < r.1 ∧ (r.2.submittedRequest id).isSome = true

lemma Carries.append (h : Carries recorded j) {op : Op}
    (hop : ∀ id body, op.submittedRequest id = some body → recorded id = some body) :
    Carries recorded (j.append op) := by
  refine ⟨?_, ?_⟩
  · intro r hr
    rcases mem_append.mp hr with hr | hr
    · exact h.pos r hr
    · rw [mem_singleton.mp hr]
      exact Nat.succ_pos _
  · intro r hr id body hreq
    rcases mem_append.mp hr with hr | hr
    · exact h.agree r hr id body hreq
    · rw [mem_singleton.mp hr] at hreq
      exact hop id body hreq

lemma Carries.mono (h : Carries recorded j) (hsub : ∀ r ∈ j'.rows, r ∈ j.rows) :
    Carries recorded j' :=
  ⟨fun r hr => h.pos r (hsub r hr), fun r hr => h.agree r (hsub r hr)⟩

lemma PinnedIn.append (h : PinnedIn j id) (op : Op) : PinnedIn (j.append op) id := by
  obtain ⟨r, hr, hm, hreq⟩ := h
  exact ⟨r, mem_append_left _ hr, hm, hreq⟩

/-- An append pins the task of a submission and no other. -/
lemma PinnedIn.of_append {op : Op} (h : PinnedIn (j.append op) id)
    (hop : op.submittedRequest id = none) : PinnedIn j id := by
  obtain ⟨r, hr, hm, hreq⟩ := h
  rcases mem_append.mp hr with hr | hr
  · exact ⟨r, hr, hm, hreq⟩
  · rw [mem_singleton.mp hr] at hreq
    simp [hop] at hreq

/-- A task has its own `submitted` op and no other's. -/
lemma Op.taskId_of_submittedRequest {op : Op} (h : (op.submittedRequest id).isSome = true) :
    op.taskId = some id := by
  unfold Op.submittedRequest at h
  split at h
  · split at h
    next heq => exact congrArg some heq
    · simp at h
  · simp at h

/-- The loaded request is the recorded one, if any `submitted` op is left. -/
lemma Carries.loadRequest_eq (h : Carries recorded db.journal) (hr : r ∈ db.journal.rows)
    (hreq : (r.2.submittedRequest id).isSome = true) :
    ∃ body, recorded id = some body ∧ r.2.submittedRequest id = some body ∧
      db.loadRequest id = body := by
  obtain ⟨body, hsome⟩ := isSome_iff_exists.mp hreq
  have hrec := h.agree r hr id body hsome
  refine ⟨body, hrec, hsome, ?_⟩
  unfold Db.loadRequest
  rcases hf : db.journal.rows.findSome? fun r => r.2.submittedRequest id with _ | first
  · have hnone := findSome?_eq_none_iff.mp hf r hr
    rw [hsome] at hnone
    simp at hnone
  · obtain ⟨r', hr', hfirst⟩ := exists_of_findSome?_eq_some hf
    have hrec' := h.agree r' hr' id first hfirst
    rw [hrec, some.injEq] at hrec'
    rw [hf, hrec']
    rfl

/-- Appending does not change the request of a task that has a `submitted` op already. -/
lemma loadRequest_append (hr : r ∈ db.journal.rows) (hreq : (r.2.submittedRequest id).isSome = true)
    (t : TaskTables) (op : Op) :
    ({ db with task := t, journal := db.journal.append op } : Db).loadRequest id =
      db.loadRequest id := by
  unfold Db.loadRequest
  rcases hf : db.journal.rows.findSome? fun r => r.2.submittedRequest id with _ | first
  · rw [findSome?_eq_none_iff.mp hf r hr] at hreq
    simp at hreq
  · rw [Journal.append, findSome?_append, hf, some_or]

/-- The states `blocker_seq` calls live are those that are not terminal. -/
lemma taskLive_eq (row : TaskRow) : taskLive row = !row.state.terminal := by
  unfold taskLive
  cases row.state <;> rfl

/-- A batch keeps a live task pinned. -/
lemma PinnedIn.doCompact {row : TaskRow} (h : PinnedIn db.journal id)
    (hpos : ∀ r ∈ db.journal.rows, 0 < r.1) (hrow : db.task.tasks.lookup id = some row)
    (hlive : row.state.terminal = false) (c : CompactArgs) :
    PinnedIn (db.doCompact c).2.journal id := by
  obtain ⟨r, hr, hm, hreq⟩ := h
  have howned : db.ownedByLive r.2 = true := by
    simp only [Db.ownedByLive, Op.taskId_of_submittedRequest hreq, any_some, hrow,
      taskLive_eq, hlive, Bool.not_false, Bool.true_or]
  obtain ⟨hr', hm'⟩ := Db.doCompact_keeps hr (hpos r hr) hm howned c
  exact ⟨r, hr', hm', hreq⟩

/-! ## Live rows are pinned -/

namespace Logged

/-- The request of the last submission of the task that has landed. -/
def request (s : Logged) (id : String) : Option (Option String) :=
  s.history.reverse.findSome? fun r => r.2.submittedRequest id

/-- Every task with a live row has a `submitted` op in the journal, and loading its request gives
the one it was submitted with. -/
def Dispatchable (s : Logged) : Prop :=
  ∀ id row, s.db.task.tasks.lookup id = some row → row.state.terminal = false →
    ∃ body, s.request id = some body ∧
      (∃ r ∈ s.db.journal.rows, r.2.submittedRequest id = some body) ∧ s.db.loadRequest id = body

/-- A task op that leaves its row live found the row live; or found it ended, and the task pinned;
or is the submission that makes the row, and no op of an earlier submission under its id carries
another request. -/
def Retains (s : Logged) : DbEvent → Prop
  | .appendTask op fault => ∀ row',
      (left (s.db.appendTask op fault)).task.tasks.lookup op.taskId = some row' →
      row'.state.terminal = false →
      match s.db.task.tasks.lookup op.taskId with
      | some row => row.state.terminal = true → PinnedIn s.db.journal op.taskId
      | none => ∀ r ∈ s.db.journal.rows, ∀ body, r.2.submittedRequest op.taskId = some body →
          (Op.task op).submittedRequest op.taskId = some body
  | _ => True

/-- Every live row is pinned, and the `submitted` ops left carry the requests of their tasks. -/
structure Secured (s : Logged) : Prop where
  carries : Carries s.request s.db.journal
  pinned : ∀ {id row}, s.db.task.tasks.lookup id = some row → row.state.terminal = false →
    PinnedIn s.db.journal id

lemma secured_init : Secured init where
  carries := ⟨fun r hr => absurd hr not_mem_nil, fun r hr => absurd hr not_mem_nil⟩
  pinned hrow := absurd hrow (by simp [init, Db.empty, TaskTables.empty])

lemma Secured.dispatchable (h : Secured s) : Dispatchable s := by
  intro id row hrow hlive
  obtain ⟨r, hr, -, hreq⟩ := h.pinned hrow hlive
  obtain ⟨body, hrec, hop, hload⟩ := h.carries.loadRequest_eq hr hreq
  exact ⟨body, hrec, ⟨r, hr, hop⟩, hload⟩

/-- The requests after one more op. -/
lemma request_appended {op : Op} (hj : db.journal = s.db.journal.append op) :
    (s.appended op db).request = fun id => (op.submittedRequest id).or (s.request id) := by
  have hlt : s.db.journal.lastSeq < db.journal.lastSeq := by
    rw [hj]
    exact Nat.lt_succ_self _
  funext id
  simp only [request, appended, if_pos hlt, reverse_append, reverse_singleton, singleton_append,
    findSome?_cons]
  rcases op.submittedRequest id with _ | body <;> rfl

/-- An op that is no submission and changes no task row keeps the rows pinned. -/
lemma Secured.appended (h : Secured s) {op : Op} (hop : ∀ id, op.submittedRequest id = none)
    (hdb : db = s.db ∨ (db.journal = s.db.journal.append op ∧ db.task = s.db.task)) :
    Secured (s.appended op db) := by
  rcases hdb with rfl | ⟨hj, ht⟩
  · have hsame : s.appended op s.db = s := by
      simp [Logged.appended]
    rw [hsame]
    exact h
  · refine ⟨?_, fun hrow hlive => ?_⟩
    · rw [request_appended hj]
      show Carries _ db.journal
      rw [hj]
      simp only [hop, none_or]
      exact h.carries.append fun id body hreq => by simp [hop] at hreq
    · show PinnedIn db.journal _
      rw [hj]
      exact (h.pinned (ht ▸ hrow) hlive).append op

variable {op : TaskOp}

/-- An op of a kind that inserts no row is no submission. -/
lemma submittedRequest_of_isUpdate (h : op.kind.isUpdate = true) (id : String) :
    (Op.task op).submittedRequest id = none := by
  obtain ⟨kind, tenant, principal, workload, taskId, ts⟩ := op
  cases kind with
  | submitted key expiresAt request => simp [TaskOpKind.isUpdate] at h
  | _ => rfl

lemma isUpdate_of_submittedRequest (h : (Op.task op).submittedRequest op.taskId = none) :
    op.kind.isUpdate = true := by
  obtain ⟨kind, tenant, principal, workload, taskId, ts⟩ := op
  cases kind with
  | submitted key expiresAt request => simp [Op.submittedRequest] at h
  | _ => rfl

/-- A submission that lands is pinned by its own op; what is left of earlier submissions under its
id must carry the same request. -/
lemma secured_submitted (h : Secured s) {key : Option String} {expiresAt : Option Int}
    {body : Option String} (hk : op.kind = .submitted key expiresAt body) {t : TaskTables}
    (hp : s.db.task.project op = .ok t)
    (hsame : ∀ r ∈ s.db.journal.rows, ∀ body', r.2.submittedRequest op.taskId = some body' →
      (Op.task op).submittedRequest op.taskId = some body') :
    Secured (s.appended (.task op)
      { s.db with task := t, journal := s.db.journal.append (.task op) }) := by
  obtain ⟨principal, -, -, -, -, htasks⟩ := TaskTables.project_submitted hk hp
  have hown : ∀ id, (Op.task op).submittedRequest id =
      if op.taskId = id then some body else none := by
    intro id
    obtain ⟨kind, tenant, principal, workload, taskId, ts⟩ := op
    cases hk
    rfl
  refine ⟨?_, fun {id row} hrow hlive => ?_⟩
  · rw [request_appended rfl]
    refine Carries.append ⟨h.carries.pos, fun r hr id body' hreq => ?_⟩ fun id body' hreq => ?_
    · by_cases hid : op.taskId = id
      · subst hid
        rw [hsame r hr body' hreq, some_or]
      · rw [hown, if_neg hid, none_or]
        exact h.carries.agree r hr id body' hreq
    · rw [hreq, some_or]
  · simp only [Logged.appended, htasks] at hrow
    obtain ⟨rfl, -⟩ | ⟨-, hrow⟩ := Table.of_lookup_insert hrow
    · exact ⟨_, mem_append_right _ mem_cons_self, Nat.lt_succ_of_le s.db.journal.marker_le,
        by rw [hown, if_pos rfl]; rfl⟩
    · exact (h.pinned hrow hlive).append _

/-- **Step lemma.** An event that retains keeps the live rows pinned. -/
theorem secured_step (h : Secured s) (e : DbEvent) (hg : Retains s e) : Secured (s.step e) := by
  cases e with
  | appendTask op fault =>
    simp only [step]
    simp only [Retains] at hg
    rcases s.db.left_appendTask op fault with heq | ⟨t, hp, heq⟩
    · have hsame : s.appended (.task op) s.db = s := by
        simp [Logged.appended]
      rw [heq, hsame]
      exact h
    rw [heq] at hg ⊢
    by_cases hk : op.kind.isUpdate = true
    · have hno := submittedRequest_of_isUpdate hk
      refine ⟨?_, fun {id row} hrow hlive => ?_⟩
      · rw [request_appended rfl]
        simp only [hno, none_or]
        exact h.carries.append fun id body hreq => by simp [hno] at hreq
      suffices hpin : PinnedIn s.db.journal id from hpin.append _
      have hlook := TaskTables.lookup_project_of_isUpdate hk hp id
      split_ifs at hlook with hid
      · subst hid
        obtain ⟨row0, hrow0, -⟩ := map_eq_some_iff.mp (hlook.symm.trans hrow)
        have hretains := hg row hrow hlive
        rw [hrow0] at hretains
        by_cases hterm : row0.state.terminal = true
        · exact hretains hterm
        · exact h.pinned hrow0 (by simpa using hterm)
      · exact h.pinned (hlook.symm.trans hrow) hlive
    · rcases hkind : op.kind with ⟨key, expiresAt, body⟩ | _ | _ | _ | _ | _ | _ | _
      case submitted =>
        obtain ⟨principal, -, hnone, -, -, htasks⟩ := TaskTables.project_submitted hkind hp
        refine secured_submitted h hkind hp ?_
        have hretains := hg _ (htasks ▸ AList.lookup_insert _) rfl
        rw [hnone] at hretains
        exact hretains
      all_goals exact absurd (by rw [hkind]; rfl) hk
  | appendStateful op fault =>
    exact h.appended (fun _ => rfl) ((s.db.left_appendStateful op fault).imp_right
      fun ⟨t, _, heq⟩ => ⟨by rw [heq], by rw [heq]⟩)
  | appendOther op after => exact h.appended (fun _ => rfl) (.inr ⟨rfl, rfl⟩)
  | evictTask taskId =>
    exact ⟨h.carries, fun hrow hlive => h.pinned (Table.of_lookup_erase hrow).2 hlive⟩
  | compact c =>
    refine ⟨h.carries.mono fun r hr => Db.mem_rows_of_mem_doCompact hr, fun hrow hlive => ?_⟩
    have hrow0 := (s.db.thinned_doCompact_tasks c).lookup_eq_some hrow
    exact (h.pinned hrow0 hlive).doCompact h.carries.pos hrow0 hlive c

/-- A batch that scans the whole journal. -/
def purge (j : Journal Op) : CompactArgs where
  nowMs := 0
  retentionMs := 0
  journalHorizonMs := 0
  batch := j.rows.length
  resultScan := []
  taskScan := []
  sessionScan := []
  servingScan := []
  statefulScan := []
  groupScan := []
  opScan := j.rows.map Prod.fst
  completed := 8

/-- A live task whose request can be loaded after every batch is pinned. -/
lemma pinned_of_dispatchable
    (h : ∀ cs : List CompactArgs, Dispatchable (run step s (cs.map .compact))) {row : TaskRow}
    (hrow : s.db.task.tasks.lookup id = some row) (hlive : row.state.terminal = false) :
    PinnedIn s.db.journal id := by
  have hrow' : (s.db.doCompact (purge s.db.journal)).2.task.tasks.lookup id = some row :=
    (s.db.thinned_doCompact_tasks _).lookup_of_not hrow hlive
  obtain ⟨body, -, ⟨r, hr, hreq⟩, -⟩ := h [purge s.db.journal] id row hrow' hlive
  have hr' : r ∈ (s.db.doCompact (purge s.db.journal)).2.journal.rows := hr
  refine ⟨r, Db.mem_rows_of_mem_doCompact hr', ?_, by rw [hreq]; rfl⟩
  exact (Journal.marker_le_advance _ _).trans_lt
    (Journal.marker_lt_of_mem_deletePrefix (j := s.db.journal.advance _) hr')

/-- An event after which all live tasks can be dispatched, whatever batches follow, retains. -/
lemma retains_of_dispatchable (h : Secured s) (e : DbEvent)
    (hd : ∀ cs : List CompactArgs, Dispatchable (run step (s.step e) (cs.map .compact))) :
    Retains s e := by
  cases e with
  | appendTask op fault =>
    intro row' hrow' hlive
    have hpin : PinnedIn (left (s.db.appendTask op fault)).journal op.taskId :=
      pinned_of_dispatchable hd hrow' hlive
    obtain ⟨own, hown, -, hload⟩ := hd [] op.taskId row' hrow' hlive
    rcases s.db.left_appendTask op fault with heq | ⟨t, hp, heq⟩
    · -- nothing landed, and the row was live before
      rw [heq] at hrow'
      simp only [hrow', hlive]
      simp
    rw [heq] at hrow' hpin
    split
    next row hrow =>
      refine fun _ => hpin.of_append ?_
      refine submittedRequest_of_isUpdate ?_ _
      rcases hkind : op.kind with ⟨key, expiresAt, body⟩ | _ | _ | _ | _ | _ | _ | _
      case submitted =>
        obtain ⟨-, -, hnone, -⟩ := TaskTables.project_submitted hkind hp
        rw [hrow] at hnone
        simp at hnone
      all_goals rfl
    next hnone =>
      intro r hr body hreq
      by_cases hk : op.kind.isUpdate = true
      · -- only a submission makes a row
        have hlook := TaskTables.lookup_project_of_isUpdate hk hp op.taskId
        rw [if_pos rfl, hnone] at hlook
        exact absurd (hlook.symm.trans hrow') (by simp)
      obtain ⟨own', hsub⟩ := ne_none_iff_exists'.mp fun hno => hk (isUpdate_of_submittedRequest hno)
      -- what is loaded is the request of the earlier op
      obtain ⟨body', -, hreq', hbase⟩ := h.carries.loadRequest_eq hr (by rw [hreq]; rfl)
      have hkeep := loadRequest_append hr (by rw [hreq]; rfl) t (.task op)
      rw [hreq, some.injEq] at hreq'
      have hlast : (s.appended (.task op) (left (s.db.appendTask op fault))).request op.taskId =
          some own := hown
      have hnow : (left (s.db.appendTask op fault)).loadRequest op.taskId = own := hload
      rw [heq, request_appended rfl] at hlast
      simp only [hsub, some_or, some.injEq] at hlast
      rw [heq, hkeep, hbase] at hnow
      rw [hsub, hlast, ← hnow, hreq']
  | _ => trivial

end Logged

end Homelab.Embervm.OpLog

/-! ## The op-log of the task store -/

namespace Homelab.Embervm.TaskStore

open Homelab.Lib Homelab.Embervm.OpLog

variable {s s' : TaskStore}

/-- A change of the store is a run of events of its op-log. -/
lemma exists_events_change {l : ChangeLabel} (hc : Change s l s') :
    ∃ es, ∀ history, (run Logged.step ⟨s.db, history⟩ es).db = s'.db := by
  cases hc with
  | wrote nodeId ht hallows happ | wroteLate nodeId ht hallows happ =>
    exact ⟨[.appendTask _ none], fun _ => congrArg left happ⟩
  | submitted happ | submittedLate happ =>
    exact ⟨[.appendTask _ none], fun _ => congrArg left happ⟩
  | evicted workload key ht hterm hidem => exact ⟨[.evictTask _], fun _ => rfl⟩
  | evictedLate ht hterm => exact ⟨[.evictTask _], fun _ => rfl⟩
  | counted ht => exact ⟨[], fun _ => rfl⟩
  | background b =>
    cases b with
    | stateful op fault => exact ⟨[.appendStateful op fault], fun _ => rfl⟩
    | other op after => exact ⟨[.appendOther op after], fun _ => rfl⟩
    | compact c => exact ⟨[.compact c], fun _ => rfl⟩
  | restarted => exact ⟨[], fun _ => rfl⟩

/-- **Refinement.** The op-log of every run of the store is that of a run of op-log events. -/
theorem exists_events_run (calls : List TaskCall) :
    ∃ es, (run step init calls).db = (Logged.after es).db := by
  refine run_invariant (fun s : TaskStore => ∃ es, s.db = (Logged.after es).db) (fun s c hs => ?_)
    ⟨[], rfl⟩ calls
  refine (step_path s c).induction (fun s => ∃ es, s.db = (Logged.after es).db) ?_ hs
  rintro s1 l s2 ⟨es, hes⟩ - hc
  obtain ⟨fs, hfs⟩ := exists_events_change hc
  refine ⟨es ++ fs, ?_⟩
  rw [Logged.after, run_append, ← hfs (Logged.after es).history, hes]
  rfl

end Homelab.Embervm.TaskStore

namespace Homelab.Embervm.OpLog.Logged

open Homelab.Lib List

/-- **A live task can be dispatched from the journal, exactly as long as it is not revived without
its request.** In all states that a run of the op-log passes through, and in those that any
compaction batches lead to from there, every task with a live row has its `submitted` op in the
journal and `load_request` returns its request, iff in the run every op that lands and makes an
ended task live again finds the task pinned, and every submission that lands finds no other request
left under its id. The op-log of every run of the task store is one of these. -/
theorem dispatchable_iff_retains (es : List DbEvent) :
    ((∀ n, ∀ cs : List CompactArgs, Dispatchable (after (es.take n ++ cs.map .compact))) ↔
        Along step Retains init es) ∧
      ∀ calls, ∃ es, (run TaskStore.step .init calls).db = (after es).db := by
  refine ⟨?_, TaskStore.exists_events_run⟩
  simp only [after, run_append]
  refine (along_iff_forall_take Secured
    (fun s => ∀ cs : List CompactArgs, Dispatchable (run step s (cs.map .compact)))
    (fun s e h hg => secured_step h e hg) ?_ (fun s e h hd => retains_of_dispatchable h e hd)
    secured_init es).symm
  intro s h cs
  have hall : Along step Retains s (cs.map .compact) := by
    refine along_of_forall_mem (fun e he s => ?_) s
    obtain ⟨c, -, rfl⟩ := mem_map.mp he
    trivial
  exact (run_induction Secured (fun s e h hg => secured_step h e hg) h hall).dispatchable

/-- The task `t` is submitted with a request, runs for weeks, fails for good and is
dead-lettered. -/
def longRun : List TaskCall :=
  [.submit ⟨"homelab", some "p", "w", none, none, some "body"⟩
    ⟨0, none, [], none, [], "t", 0, none⟩,
    .assign "t" none none ⟨0, none⟩, .start "t" none none ⟨0, none⟩,
    TaskStore.failT .guest4xx (39 * dayMs)]

/-- The op-log after a batch at day forty with the default ages, large enough to finish, which
deletes the `submitted` op of the dead-lettered task, whose row is a day old, and a redrive. -/
def compactedRedrive : Db :=
  (run TaskStore.step .init (longRun ++ [.background (.compact { smallBatch with batch := 500 }),
    .redrive "t" ⟨40 * dayMs, none⟩])).db

/-- The redriven task is queued, durably too, and its request cannot be loaded any more. -/
theorem redrive_after_compaction_loses_request :
    ((run TaskStore.step .init longRun).db.loadRequest "t") = some "body" ∧
      (compactedRedrive.task.tasks.lookup "t").map TaskRow.state = some .queued ∧
      compactedRedrive.loadRequest "t" = none ∧
      (∀ r ∈ compactedRedrive.journal.rows, r.2.submittedRequest "t" = none) ∧
      ∀ history, ¬ Dispatchable ⟨compactedRedrive, history⟩ := by
  have hstate : (compactedRedrive.task.tasks.lookup "t").map TaskRow.state = some .queued := by
    decide +kernel
  have hgone : ∀ r ∈ compactedRedrive.journal.rows, r.2.submittedRequest "t" = none := by
    decide +kernel
  refine ⟨by decide +kernel, hstate, by decide +kernel, hgone, fun history h => ?_⟩
  obtain ⟨row, hrow, hst⟩ := Option.map_eq_some_iff.mp hstate
  obtain ⟨body, -, ⟨r, hr, hreq⟩, -⟩ := h "t" row hrow (by rw [hst]; rfl)
  rw [hgone r hr] at hreq
  simp at hreq

end Homelab.Embervm.OpLog.Logged
