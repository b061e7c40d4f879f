import Homelab.Embervm.TaskStore.Simulation

/-!
# Idempotency keys

A submission under a key that some task holds is answered with that task: always while the task is
live, and after its end as long as its stored result is served.

* `UniqueKeys`: no two rows of `tasks` have a key in common, because a row is never made but by a
  submission that found its key free.
* `Indexed`: the row of a task has its task in memory, and the idempotency table of the store names
  the task under the row's key. It holds in every state of every run, also after rows were pruned,
  as long as no submission under the id has been served late since the store was started.
* `submit_of_holdsResult`: what a submission does under the key of an ended task whose result has
  not lapsed.
* `resubmit_existing_iff`: it is a duplicate exactly when the read of the stored result succeeds, or
  is not made because the store takes the task for live.
  `dedupe_or_resubmit/5` takes a failed read for a missing result, evicts the ended task with its
  result and submits anew (`failed_read_resubmits`).
-/

namespace Homelab.Embervm.TaskStore

open Homelab.Lib Table
open Homelab.Embervm.OpLog

variable {s s' : TaskStore}

/-! ## The idempotency table of a rebuild -/

/-- The key under which a rebuild enters a row. -/
def idemKey (row : TaskRow) : Option (String × String) :=
  row.idempotencyKey.map fun key => (row.workload, key)

/-- A key that all its rows give to one task is entered with that task. -/
lemma lookup_foldl_rebuildIdem {k : String × String} {id : String}
    {rows : List (Sigma fun _ : String => TaskRow)} {idem : Table (String × String) String}
    (hall : ∀ e ∈ rows, idemKey e.2 = some k → e.1 = id)
    (h : idem.lookup k = some id ∨ ∃ e ∈ rows, idemKey e.2 = some k) : (rows.foldl (fun idem e =>
      match e.2.idempotencyKey with
      | some key => idem.insert (e.2.workload, key) e.1
      | none => idem) idem).lookup k = some id := by
  induction rows generalizing idem with
  | nil => exact h.resolve_right fun ⟨e, he, _⟩ => absurd he List.not_mem_nil
  | cons e rows ih =>
    refine ih (fun e' he' => hall e' (List.mem_cons_of_mem _ he')) ?_
    by_cases he : idemKey e.2 = some k
    · -- this row enters the key
      obtain ⟨key, hkey, hk⟩ := Option.map_eq_some_iff.mp he
      simp only [hkey, hk, lookup_insert, if_true]
      exact Or.inl (congrArg some (hall e List.mem_cons_self he))
    · have hkeep : (match e.2.idempotencyKey with
          | some key => idem.insert (e.2.workload, key) e.1
          | none => idem).lookup k = idem.lookup k := by
        rcases hkey : e.2.idempotencyKey with _ | key
        · rfl
        · refine AList.lookup_insert_ne fun heq => he ?_
          rw [idemKey, hkey, heq]
          rfl
      rw [hkeep]
      refine h.imp_right ?_
      rintro ⟨e', he', hk⟩
      rcases List.mem_cons.mp he' with rfl | hmem
      · exact absurd hk he
      · exact ⟨e', hmem, hk⟩

/-! ## Rows, tasks and keys -/

variable {db db' : Db} {op : TaskOp} {id taskId : String} {prompt : Prop}

/-- Two rows under one key are one. -/
def UniqueKeys (db : Db) : Prop :=
  ∀ {id id' row row' k}, db.task.tasks.lookup id = some row → idemKey row = some k →
    db.task.tasks.lookup id' = some row' → idemKey row' = some k → id' = id

/-- The row of the task has its task in memory, which agrees with it if `prompt`, and its key is in
the idempotency table. -/
structure Indexed (prompt : Prop) (id : String) (s : TaskStore) : Prop where
  unique : UniqueKeys s.db
  task : ∀ {row}, s.db.task.tasks.lookup id = some row →
    ∃ task, s.tasks.lookup id = some task ∧ (prompt → Agrees task row)
  key : ∀ {row k}, s.db.task.tasks.lookup id = some row → idemKey row = some k →
    s.idem.lookup k = some id

/-- A rebuild of rows whose keys are unique is indexed. -/
lemma indexed_rebuild (h : UniqueKeys db) (id : String) : Indexed prompt id (rebuild db) where
  unique := h
  task {row} hrow := by
    refine ⟨rowToTask row, ?_, fun _ => rfl⟩
    exact (lookup_mapVal db.task.tasks (fun _ row => rowToTask row) id).trans
      (congrArg (Option.map rowToTask) hrow)
  key {row k} hrow hk := by
    refine lookup_foldl_rebuildIdem ?_ (Or.inr ⟨⟨id, row⟩, AList.mem_lookup_iff.mp hrow, hk⟩)
    intro e he hek
    exact h hrow hk (AList.mem_lookup_iff.mpr he) hek

/-- An op leaves workload and key of a row alone. -/
lemma idemKey_onRow (op : TaskOp) (row : TaskRow) : idemKey (op.onRow row) = idemKey row := by
  unfold TaskOp.onRow
  split <;> first | rfl | (split <;> rfl)

/-- The key of an accepted submission is on no row. -/
lemma idemKey_ne_of_submitted {attrs : SubmitAttrs} {ts : Int} {key : String}
    (happ : db.appendTask (submitOp attrs taskId ts) none = .ok db')
    (hkey : attrs.idempotencyKey = some key) {row : TaskRow}
    (hrow : db.task.tasks.lookup id = some row) : idemKey row ≠ some (attrs.workload, key) := by
  obtain ⟨-, t, hp, -⟩ := Db.appendTask_eq_ok happ
  obtain ⟨principal, -, -, hfree, -, -⟩ := TaskTables.project_submitted rfl hp
  intro hk
  obtain ⟨key', hkey', heq⟩ := Option.map_eq_some_iff.mp hk
  obtain ⟨hw, rfl⟩ := Prod.mk.inj heq
  rw [hkey] at hfree
  exact TaskTables.key_ne_of_existingTask_eq_none hfree hrow ⟨hw, hkey'⟩

/-- The row of an accepted submission has the key of the submission. -/
lemma idemKey_of_submitted {attrs : SubmitAttrs} {ts : Int} {row : TaskRow}
    (happ : db.appendTask (submitOp attrs taskId ts) none = .ok db')
    (hrow : db'.task.tasks.lookup taskId = some row) :
    idemKey row = attrs.idempotencyKey.map fun key => (attrs.workload, key) := by
  obtain ⟨-, t, hp, rfl⟩ := Db.appendTask_eq_ok happ
  obtain ⟨principal, -, -, -, -, htasks⟩ := TaskTables.project_submitted rfl hp
  rw [← Option.some.inj ((htasks ▸ AList.lookup_insert _ :
    t.tasks.lookup taskId = _).symm.trans hrow)]
  rfl

section

variable {task : Task} {kind : TaskOpKind} {nodeId : Option String} {ts : Int}
  (hallows : task.allows kind)
  (happ : db.appendTask (opOf taskId (withNode task nodeId) kind ts) none = .ok db')
include hallows happ

/-- A row after a transition's op comes from a row with the same key. -/
lemma idemKey_of_appendTask {row : TaskRow} (hrow : db'.task.tasks.lookup id = some row) :
    ∃ row0, db.task.tasks.lookup id = some row0 ∧ idemKey row = idemKey row0 := by
  obtain ⟨row0, hrow0, rfl⟩ := row_of_appendTask hallows happ hrow
  refine ⟨row0, hrow0, ?_⟩
  split_ifs
  · exact idemKey_onRow _ _
  · rfl

lemma UniqueKeys.appendTask (h : UniqueKeys db) : UniqueKeys db' := by
  intro id id' row row' k hrow hk hrow' hk'
  obtain ⟨row0, hrow0, hkey⟩ := idemKey_of_appendTask hallows happ hrow
  obtain ⟨row0', hrow0', hkey'⟩ := idemKey_of_appendTask hallows happ hrow'
  exact h hrow0 (hkey ▸ hk) hrow0' (hkey' ▸ hk')

end

lemma UniqueKeys.submitted (h : UniqueKeys db) {attrs : SubmitAttrs} {ts : Int}
    (happ : db.appendTask (submitOp attrs taskId ts) none = .ok db') : UniqueKeys db' := by
  -- of two rows with one key, the new one would have the key of an old one
  have hnew : ∀ {id row row' k}, id ≠ taskId → db'.task.tasks.lookup id = some row →
      idemKey row = some k → db'.task.tasks.lookup taskId = some row' → idemKey row' ≠ some k := by
    intro id row row' k hid hrow hk hrow' hk'
    rw [idemKey_of_submitted happ hrow'] at hk'
    obtain ⟨key, hkey, rfl⟩ := Option.map_eq_some_iff.mp hk'
    exact idemKey_ne_of_submitted happ hkey ((lookup_appendTask_of_ne happ hid).symm.trans hrow) hk
  intro id id' row row' k hrow hk hrow' hk'
  by_cases hid : id = taskId
  · by_cases hid' : id' = taskId
    · rw [hid, hid']
    · exact absurd hk (hnew hid' hrow' hk' (hid ▸ hrow))
  · by_cases hid' : id' = taskId
    · exact absurd hk' (hnew hid hrow hk (hid' ▸ hrow'))
    · exact h ((lookup_appendTask_of_ne happ hid).symm.trans hrow) hk
        ((lookup_appendTask_of_ne happ hid').symm.trans hrow') hk'

/-- Fewer rows have unique keys still. -/
lemma UniqueKeys.mono (h : UniqueKeys db)
    (hsub : ∀ {id row}, db'.task.tasks.lookup id = some row →
      db.task.tasks.lookup id = some row) : UniqueKeys db' :=
  fun hrow hk hrow' hk' => h (hsub hrow) hk (hsub hrow') hk'

/-- **Step lemma.** Every change keeps the keys of the rows unique. -/
theorem uniqueKeys_change {l : ChangeLabel} (h : UniqueKeys s.db) (hc : Change s l s') :
    UniqueKeys s'.db := by
  cases hc with
  | wrote nodeId ht hallows happ
  | wroteLate nodeId ht hallows happ => exact h.appendTask hallows happ
  | submitted happ | submittedLate happ => exact h.submitted happ
  | evicted workload key ht hterm hidem => exact h.mono fun hrow => (of_lookup_erase hrow).2
  | evictedLate ht hterm => exact h.mono fun hrow => (of_lookup_erase hrow).2
  | counted ht => exact h
  | background b => exact h.mono fun hrow => (b.thinned_apply s.db).lookup_eq_some hrow
  | restarted => exact h

/-- **Step lemma.** A change keeps the row indexed, if it is no submission under the id that is
served late. -/
theorem indexed_change {l : ChangeLabel} (h : Indexed prompt id s) (hc : Change s l s')
    (hfresh : l ≠ .submittedLate id) (hprompt : prompt → ∀ kind, l ≠ .wroteLate id kind) :
    Indexed prompt id s' := by
  have hunique : UniqueKeys s'.db := uniqueKeys_change h.unique hc
  cases hc with
  | @wrote taskId task kind ts db nodeId ht hallows happ =>
    refine ⟨hunique, fun {row} hrow => ?_, fun {row k} hrow hk => ?_⟩
    · obtain ⟨row0, hrow0, hr⟩ := row_of_appendTask hallows happ hrow
      obtain ⟨task0, ht0, hag⟩ := h.task hrow0
      simp only [lookup_insert]
      split_ifs at hr ⊢ with hid
      · subst hid hr
        cases ht.symm.trans ht0
        exact ⟨_, rfl, fun hp => (hag hp).onRow hallows nodeId ts⟩
      · exact ⟨task0, ht0, hr ▸ hag⟩
    · obtain ⟨row0, hrow0, hkey⟩ := idemKey_of_appendTask hallows happ hrow
      exact h.key hrow0 (hkey ▸ hk)
  | @wroteLate taskId task kind ts db nodeId ht hallows happ =>
    refine ⟨hunique, fun {row} hrow => ?_, fun {row k} hrow hk => ?_⟩
    · obtain ⟨row0, hrow0, hr⟩ := row_of_appendTask hallows happ hrow
      obtain ⟨task0, ht0, hag⟩ := h.task hrow0
      refine ⟨task0, ht0, fun hp => ?_⟩
      have hid : id ≠ taskId := fun heq => hprompt hp kind (by rw [heq])
      rw [hr, if_neg hid]
      exact hag hp
    · obtain ⟨row0, hrow0, hkey⟩ := idemKey_of_appendTask hallows happ hrow
      exact h.key hrow0 (hkey ▸ hk)
  | @submitted attrs taskId ts db happ =>
    refine ⟨hunique, fun {row} hrow => ?_, fun {row k} hrow hk => ?_⟩
    · by_cases hid : id = taskId
      · subst hid
        have hm := mirrored_submitted happ
        refine ⟨_, AList.lookup_insert _, fun _ => ?_⟩
        obtain ⟨row', hrow', hag⟩ := hm.agrees (AList.lookup_insert _)
        rw [Option.some.inj (hrow.symm.trans hrow')]
        exact hag
      · obtain ⟨task0, ht0, hag⟩ := h.task ((lookup_appendTask_of_ne happ hid).symm.trans hrow)
        exact ⟨task0, (AList.lookup_insert_ne hid).trans ht0, hag⟩
    · by_cases hid : id = taskId
      · subst hid
        have hown : idemKey row = _ := idemKey_of_submitted happ hrow
        rw [hown] at hk
        obtain ⟨key, hkey, rfl⟩ := Option.map_eq_some_iff.mp hk
        simp only [insertSubmitted, hkey, lookup_insert, if_true]
      · have hrow0 := (lookup_appendTask_of_ne happ hid).symm.trans hrow
        have hold := h.key hrow0 hk
        rcases hkey : attrs.idempotencyKey with _ | key
        · simpa only [insertSubmitted, hkey] using hold
        · -- the key of the submission was free, so the row's key is another one
          simp only [insertSubmitted, hkey]
          refine (AList.lookup_insert_ne ?_).trans hold
          rintro rfl
          exact idemKey_ne_of_submitted happ hkey hrow0 hk
  | @submittedLate attrs taskId ts db happ =>
    have hid : id ≠ taskId := fun heq => hfresh (by rw [heq])
    have hback : ∀ {row}, db.task.tasks.lookup id = some row →
        s.db.task.tasks.lookup id = some row :=
      fun hrow => (lookup_appendTask_of_ne happ hid).symm.trans hrow
    exact ⟨hunique, fun hrow => h.task (hback hrow), fun hrow hk => h.key (hback hrow) hk⟩
  | @evicted taskId task workload key ht hterm hidem =>
    refine ⟨hunique, fun {row} hrow => ?_, fun {row k} hrow hk => ?_⟩
    · obtain ⟨hid, hrow⟩ := of_lookup_erase hrow
      simp only [evict, lookup_erase, if_neg hid]
      exact h.task hrow
    · obtain ⟨hid, hrow⟩ := of_lookup_erase hrow
      have hold := h.key hrow hk
      simp only [evict, lookup_erase]
      rw [if_neg, hold]
      rintro rfl
      rw [hidem, Option.some.injEq] at hold
      exact hid hold.symm
  | evictedLate ht hterm =>
    exact ⟨hunique, fun hrow => h.task (of_lookup_erase hrow).2,
      fun hrow hk => h.key (of_lookup_erase hrow).2 hk⟩
  | @counted taskId task ht =>
    refine ⟨hunique, fun {row} hrow => ?_, h.key⟩
    obtain ⟨task0, ht0, hag⟩ := h.task hrow
    simp only [lookup_insert]
    split_ifs with hid
    · rw [hid, ht, Option.some.injEq] at ht0
      subst ht0
      exact ⟨_, rfl, hag⟩
    · exact ⟨task0, ht0, hag⟩
  | background b =>
    have hthin := b.thinned_apply s.db
    exact ⟨hunique, fun hrow => h.task (hthin.lookup_eq_some hrow),
      fun hrow hk => h.key (hthin.lookup_eq_some hrow) hk⟩
  | restarted => exact indexed_rebuild h.unique id

/-- **Run lemma.** The keys of the rows are unique in every state of every run. -/
theorem uniqueKeys_run (calls : List TaskCall) : UniqueKeys (run step init calls).db :=
  run_invariant (fun s : TaskStore => UniqueKeys s.db)
    (fun s call hs => (step_path s call).induction (fun s => UniqueKeys s.db)
      (fun h _ hc => uniqueKeys_change h hc) hs)
    (fun hrow => absurd hrow (by simp [init, TaskStore.rebuild, Db.empty, TaskTables.empty])) calls

/-- **Run lemma.** The row is indexed in every state of a run from a start of the store, if no
submission under the id is served late in it. -/
theorem indexed_run (prompt : Prop) (past calls : List TaskCall)
    (hfresh : ∀ c ∈ calls, ¬ c.makes (.submittedLate id))
    (hprompt : prompt → ∀ c ∈ calls, ∀ kind, ¬ c.makes (.wroteLate id kind)) :
    Indexed prompt id (run step (rebuild (run step init past).db) calls) := by
  refine run_induction (G := fun _ c => ¬ c.makes (.submittedLate id) ∧
    (prompt → ∀ kind, ¬ c.makes (.wroteLate id kind))) (Indexed prompt id) ?_
    (indexed_rebuild (uniqueKeys_run past) id)
    (along_of_forall_mem (fun c hc _ => ⟨hfresh c hc, fun hp => hprompt hp c hc⟩) _)
  intro s c hs hg
  refine (step_path s c).induction (Indexed prompt id) ?_ hs
  intro s1 l s2 h1 hl hc
  refine indexed_change h1 hc ?_ fun hp kind => ?_
  · rintro rfl
    exact hg.1 hl
  · rintro rfl
    exact hg.2 hp kind hl

/-! ## Resubmission -/

/-- The task `id` holds the key of the workload, has ended, and has a stored result that has not
lapsed at `now`. -/
def HoldsResult (s : TaskStore) (workload key id : String) (now : Int) : Prop :=
  ∃ row, s.db.task.tasks.lookup id = some row ∧ row.workload = workload ∧
    row.idempotencyKey = some key ∧ row.state.terminal = true ∧
    ∃ stored, s.db.task.results.lookup id = some stored ∧
      ∀ expiresAt, stored.result.expiresAt = some expiresAt → now ≤ expiresAt

/-- **A submission under the key of an ended task with its result** is answered with the task if the
store takes it for live or the result can be read, and evicts the task and submits anew if not. -/
theorem submit_of_holdsResult (h : Indexed prompt id s) {attrs : SubmitAttrs} {key : String}
    {io : SubmitIo} (hkey : attrs.idempotencyKey = some key)
    (hres : s.HoldsResult attrs.workload key id io.readTs) :
    ∃ task, s.tasks.lookup id = some task ∧ (prompt → task.state.terminal = true) ∧
      s.submit attrs io =
        if task.state.terminal = true ∧ io.readFault ≠ none then
          (s.interfere io.afterRead).freshResubmit attrs key id io
        else (.ok (.existing id), s) := by
  obtain ⟨row, hrow, hw, hk, hterm, stored, hstored, hlive⟩ := hres
  have hidem : s.idem.lookup (attrs.workload, key) = some id :=
    h.key hrow (by rw [idemKey, hk, hw]; rfl)
  obtain ⟨task, ht, hag⟩ := h.task hrow
  refine ⟨task, ht, fun hp => ?_, ?_⟩
  · rw [← (hag hp).state]
    exact hterm
  have hread : s.liveResult id io.readTs none = .ok (some stored) := by
    simp only [liveResult, hstored, Except.ok.injEq, Option.filter_eq_some_iff, true_and]
    split
    next expiresAt hexp => simpa using hlive expiresAt hexp
    next => rfl
  simp only [submit, hkey, hidem, dedupeOrResubmit, fetchTask, ht]
  rcases task.state.terminal with _ | _
  · simp
  · rcases io.readFault with _ | e
    · simp [hread]
    · simp [liveResult]

/-- A resubmission that evicts answers with a new task or an error. -/
lemma freshResubmit_ne_existing (s : TaskStore) (attrs : SubmitAttrs) (key old id : String)
    (io : SubmitIo) : (s.freshResubmit attrs key old io).1 ≠ .ok (.existing id) := by
  unfold freshResubmit doSubmit
  split
  · simp
  · split <;> simp

/-- **A resubmission under a live key is a duplicate, exactly when the stored result can be read.**
Start the store on the op-log of any run, and let any calls follow, with any of their reads,
evictions and appends failing, but no submission under the id `id` that is served after its caller
has given up. A submission under the key of the row of `id`, which has ended and whose stored result
has not lapsed, returns that task and leaves the store as it is iff the task has not ended in memory
or the submission's own read of the result does not fail. If no append for the task was served late,
that is: iff its own read does not fail. -/
theorem resubmit_existing_iff (past calls : List TaskCall) (attrs : SubmitAttrs) (io : SubmitIo)
    (key id : String) (hfresh : ∀ c ∈ calls, ¬ c.makes (.submittedLate id))
    (hkey : attrs.idempotencyKey = some key)
    (hres : (run step (rebuild (run step init past).db) calls).HoldsResult attrs.workload key id
      io.readTs) :
    let s := run step (rebuild (run step init past).db) calls
    (s.submit attrs io = (.ok (.existing id), s) ↔
      ∀ task, s.tasks.lookup id = some task → task.state.terminal = true → io.readFault = none) ∧
    ((∀ c ∈ calls, ∀ kind, ¬ c.makes (.wroteLate id kind)) →
      (s.submit attrs io = (.ok (.existing id), s) ↔ io.readFault = none)) := by
  intro s
  have hiff : ∀ task : Task, s.submit attrs io =
      (if task.state.terminal = true ∧ io.readFault ≠ none then
        (s.interfere io.afterRead).freshResubmit attrs key id io
      else (.ok (.existing id), s)) →
      (s.submit attrs io = (.ok (.existing id), s) ↔
        (task.state.terminal = true → io.readFault = none)) := by
    intro task heq
    rw [heq]
    split_ifs with hfresh
    · refine iff_of_false (fun he => ?_) fun h => hfresh.2 (h hfresh.1)
      exact freshResubmit_ne_existing _ attrs key id id io (congrArg Prod.fst he)
    · exact iff_of_true rfl fun hterm => by_contra fun hne => hfresh ⟨hterm, hne⟩
  constructor
  · obtain ⟨task, ht, -, heq⟩ := submit_of_holdsResult
      (indexed_run False past calls hfresh False.elim) hkey hres
    rw [hiff task heq]
    constructor
    · intro h task' ht'
      cases ht.symm.trans ht'
      exact h
    · exact fun h => h task ht
  · intro hprompt
    obtain ⟨task, -, hterm, heq⟩ := submit_of_holdsResult
      (indexed_run True past calls hfresh fun _ => hprompt) hkey hres
    rw [hiff task heq]
    exact ⟨fun h => h (hterm trivial), fun h _ => h⟩

/-- The task `t` submitted under the key `k`, run, and succeeded with a result good until 1000. -/
def succeededT : List TaskCall :=
  [submitT, .assign "t" none none ⟨1, none⟩, .start "t" none none ⟨2, none⟩,
    .succeed "t" ⟨200, some "ok", 2, false, some 1000, []⟩ ⟨3, none⟩]

lemma holdsResult_succeededT : (run step init succeededT).HoldsResult "w" "k" "t" 4 :=
  ⟨⟨"homelab", "p", "w", .succeeded, 0, some "k", 0, 3, none⟩, by decide +kernel, rfl, rfl, rfl,
    ⟨⟨200, some "ok", 2, false, some 1000, []⟩, 3⟩, by decide +kernel, by simp⟩

/-- The attributes of `t`, submitted again. -/
def againT : SubmitAttrs := ⟨"homelab", some "p", "w", some "k", none, none⟩

/-- The second submission at time 4, under the generated id `t2`. -/
def againIo (readFault : Option OpLogError) : SubmitIo :=
  ⟨4, readFault, [], none, [], "t2", 4, none⟩

theorem resubmit_existing_succeeded : (run step init succeededT).submit againT (againIo none) =
      (.ok (.existing "t"), run step init succeededT) :=
  (resubmit_existing_iff [] succeededT againT (againIo none) "k" "t"
    (by simp [succeededT, submitT, TaskCall.makes, ChangeLabel.ofAppend, ChangeLabel.beforeSubmit])
    rfl holdsResult_succeededT).1.mpr fun _ _ _ => rfl

/-- The result is there and good, its read fails, and the task runs again: a new task is created,
and the ended one is gone with its result. -/
theorem failed_read_resubmits : (run step init succeededT).HoldsResult "w" "k" "t" 4 ∧
      ((run step init succeededT).submit againT (againIo (some .unavailable))).1 =
        .ok (.created "t2") ∧
      (run step init (succeededT ++ [.submit againT (againIo (some .unavailable))])).tasks.keys =
        ["t2"] ∧
      (run step init (succeededT ++ [.submit againT
        (againIo (some .unavailable))])).db.task.results.lookup "t" = none := by
  refine ⟨holdsResult_succeededT, ?_, ?_, ?_⟩
  · decide +kernel
  · decide +kernel
  · decide +kernel

end Homelab.Embervm.TaskStore
