import Homelab.Embervm.Dispatcher.FairQueue
import Homelab.Lib.RoundRobin
import Homelab.Lib.Run

/-!
# The fair queue over whole runs

Any sequence of `fq_enqueue` and `fq_take` calls on one queue, each take with its own share,
in-flight map and blocked set.

* `WF` is the comment above `new_fq/0`: each principal is in the rotation at most once, and only
  while its queue is not empty.
* `takes_fqTake` is the one case analysis of a take: it passes over the principals that are held
  and serves the first one that is not. What it passes over goes behind the rest, the served
  principal behind all.
* `Ahead q p`: the rotation reaches `q` before `p`. A take of `p` puts every queued principal ahead
  of it, and nothing but a take of `q` undoes that while `q` can be served (`Ahead.step`).
-/

namespace Homelab.Embervm

open Homelab.Lib List

namespace FairQueue

/-- The representation invariant. -/
structure WF (fq : FairQueue) : Prop where
  nodup : fq.rotation.Nodup
  mem_rotation : ∀ pr, pr ∈ fq.rotation ↔ pr ∈ fq.members
  mem_members : ∀ pr, pr ∈ fq.members ↔ fq.fifo pr ≠ []

lemma wf_newFq : newFq.WF :=
  ⟨nodup_nil, fun _ => by simp [newFq], fun _ => by simp [newFq, fifo]⟩

lemma WF.card_members {fq : FairQueue} (h : fq.WF) : fq.members.card = fq.rotation.length := by
  have hset : fq.rotation.toFinset = fq.members := by
    ext pr
    rw [mem_toFinset, h.mem_rotation]
  rw [← hset, toFinset_card_of_nodup h.nodup]

lemma fifo_fqEnqueue (fq : FairQueue) (pr taskId p : String) :
    (fq.fqEnqueue pr taskId).fifo p = if p = pr then fq.fifo pr ++ [taskId] else fq.fifo p := by
  have hlook := Table.lookup_insert fq.fifos pr p (fq.fifo pr ++ [taskId])
  have hfifos : (fq.fqEnqueue pr taskId).fifos = fq.fifos.insert pr (fq.fifo pr ++ [taskId]) := by
    unfold fqEnqueue
    split <;> rfl
  split_ifs at hlook ⊢ with hp
  · rw [fifo, hfifos, hlook]
    rfl
  · rw [fifo, hfifos, hlook]
    rfl

lemma WF.fqEnqueue {fq : FairQueue} (h : fq.WF) (pr taskId : String) :
    (fq.fqEnqueue pr taskId).WF := by
  have hfifo : ∀ p, (fq.fqEnqueue pr taskId).fifo p ≠ [] ↔ p = pr ∨ fq.fifo p ≠ [] := by
    intro p
    rw [fifo_fqEnqueue]
    by_cases hp : p = pr <;> simp [hp]
  unfold FairQueue.fqEnqueue at hfifo ⊢
  by_cases hmem : pr ∈ fq.members
  · simp only [hmem, if_true] at hfifo ⊢
    refine ⟨h.nodup, h.mem_rotation, fun p => ?_⟩
    rw [hfifo, ← h.mem_members]
    exact ⟨.inr, fun hp => hp.elim (fun heq => heq ▸ hmem) id⟩
  · simp only [hmem, if_false] at hfifo ⊢
    refine ⟨?_, fun p => ?_, fun p => ?_⟩
    · rw [nodup_append]
      refine ⟨h.nodup, nodup_singleton _, fun a ha b hb heq => hmem ?_⟩
      rw [← h.mem_rotation, ← mem_singleton.mp hb, ← heq]
      exact ha
    · simp [h.mem_rotation, or_comm]
    · rw [hfifo, Finset.mem_insert, ← h.mem_members]

/-! ## What a take does -/

/-- The queue once the principal has been served, with `rot` the others in their new order. -/
def served (fq : FairQueue) (pr : String) (later rot : List String) : FairQueue :=
  if later = [] then fq.retire pr rot
  else { fq with rotation := rot ++ [pr], fifos := fq.fifos.insert pr later }

lemma fifo_served (fq : FairQueue) (pr : String) (later rot : List String) (p : String) :
    (fq.served pr later rot).fifo p = if p = pr then later else fq.fifo p := by
  unfold served
  by_cases hlater : later = []
  · rw [if_pos hlater, fifo, retire, Table.lookup_erase]
    split_ifs with hp
    · rw [hlater]
      rfl
    · rfl
  · rw [if_neg hlater, fifo, Table.lookup_insert]
    split_ifs with hp
    · rfl
    · rfl

lemma WF.served {fq : FairQueue} (h : fq.WF) {before after : List String} {pr taskId : String}
    {later : List String} (hrot : fq.rotation = before ++ pr :: after)
    (hfifo : fq.fifo pr = taskId :: later) : (fq.served pr later (after ++ before)).WF := by
  have hnodup := h.nodup
  rw [hrot, nodup_middle, nodup_cons] at hnodup
  have hothers : ∀ p, p ∈ after ++ before ↔ p ∈ fq.members ∧ p ≠ pr := by
    intro p
    rw [← h.mem_rotation, hrot]
    have hne : p ∈ before ++ after → p ≠ pr := fun hp heq => hnodup.1 (heq ▸ hp)
    simp only [mem_append, mem_cons] at hne ⊢
    tauto
  have hperm : (after ++ before).Nodup := (perm_append_comm.nodup_iff).mp hnodup.2
  have hleft : ∀ p, (fq.served pr later (after ++ before)).fifo p ≠ [] ↔
      (p = pr ∧ later ≠ []) ∨ (p ∈ fq.members ∧ p ≠ pr) := by
    intro p
    rw [fifo_served]
    by_cases hp : p = pr
    · simp [hp]
    · simp [hp, h.mem_members]
  unfold FairQueue.served at hleft ⊢
  by_cases hlater : later = []
  · simp only [hlater, if_true] at hleft ⊢
    refine ⟨hperm, fun p => ?_, fun p => ?_⟩
    · change p ∈ after ++ before ↔ p ∈ fq.members.erase pr
      rw [hothers, Finset.mem_erase, and_comm]
    · rw [hleft]
      change p ∈ fq.members.erase pr ↔ _
      rw [Finset.mem_erase]
      tauto
  · simp only [hlater, if_false] at hleft ⊢
    have hmember : pr ∈ fq.members := (h.mem_members pr).mpr (by rw [hfifo]; simp)
    refine ⟨?_, fun p => ?_, fun p => ?_⟩
    · rw [nodup_append]
      refine ⟨hperm, nodup_singleton _, fun a ha b hb heq => ?_⟩
      rw [mem_singleton.mp hb] at heq
      exact ((hothers a).mp ha).2 heq
    · change p ∈ after ++ before ++ [pr] ↔ p ∈ fq.members
      rw [mem_append, hothers, mem_singleton]
      by_cases hp : p = pr
      · simp [hp, hmember]
      · simp [hp]
    · rw [hleft]
      change p ∈ fq.members ↔ _
      by_cases hp : p = pr
      · simp [hp, hmember, hlater]
      · simp [hp]

section Take

variable (wl : String) (share : Nat) (inflightPr : Table (String × String) Nat)
  (blocked : Finset String)

/-- The principal is passed over: it has its share in flight, or is blocked. -/
def Held (pr : String) : Prop := share ≤ (inflightPr.lookup (wl, pr)).getD 0 ∨ pr ∈ blocked

/-- The two outcomes of a take. -/
inductive Takes (fq : FairQueue) : Option (String × String) × FairQueue → Prop
  | idle (hall : ∀ pr ∈ fq.rotation, Held wl share inflightPr blocked pr) : Takes fq (none, fq)
  | serves {before after : List String} {pr taskId : String} {later : List String}
      (hrot : fq.rotation = before ++ pr :: after)
      (hbefore : ∀ p ∈ before, Held wl share inflightPr blocked p)
      (hpr : ¬ Held wl share inflightPr blocked pr) (hfifo : fq.fifo pr = taskId :: later) :
      Takes fq (some (taskId, pr), fq.served pr later (after ++ before))

/-- The walk: `passed` has been looked at, `ahead` is still to be. -/
lemma fqTakeLoop_cases (fq : FairQueue) {ahead : List String}
    (hfifo : ∀ pr ∈ ahead, fq.fifo pr ≠ []) (passed : List String) :
    ((∀ pr ∈ ahead, Held wl share inflightPr blocked pr) ∧
      fqTakeLoop wl share inflightPr blocked ahead.length
        { fq with rotation := ahead ++ passed } = (none, { fq with rotation := passed ++ ahead })) ∨
    ∃ before pr after taskId later, ahead = before ++ pr :: after ∧
      (∀ p ∈ before, Held wl share inflightPr blocked p) ∧
      ¬ Held wl share inflightPr blocked pr ∧ fq.fifo pr = taskId :: later ∧
      fqTakeLoop wl share inflightPr blocked ahead.length { fq with rotation := ahead ++ passed } =
        (some (taskId, pr), fq.served pr later (after ++ passed ++ before)) := by
  induction ahead generalizing passed with
  | nil => exact .inl ⟨by simp, by simp [fqTakeLoop]⟩
  | cons pr ahead ih =>
    obtain ⟨taskId, later, htasks⟩ := exists_cons_of_ne_nil (hfifo pr mem_cons_self)
    by_cases hheld : Held wl share inflightPr blocked pr
    · have hloop : fqTakeLoop wl share inflightPr blocked (pr :: ahead).length
          { fq with rotation := pr :: ahead ++ passed } =
          fqTakeLoop wl share inflightPr blocked ahead.length
            { fq with rotation := ahead ++ (passed ++ [pr]) } := by
        have hcond : share ≤ (inflightPr.lookup (wl, pr)).getD 0 ∨ pr ∈ blocked := hheld
        rw [length_cons, fqTakeLoop, cons_append]
        dsimp only
        rw [if_pos hcond, append_assoc]
      rw [hloop]
      rcases ih (fun p hp => hfifo p (mem_cons_of_mem _ hp)) (passed ++ [pr]) with
        ⟨hall, hend⟩ | ⟨before, pr', after, taskId', later', rfl, hbefore, hpr', hfifo', hend⟩
      · refine .inl ⟨forall_mem_cons.mpr ⟨hheld, hall⟩, ?_⟩
        rw [hend, append_assoc, singleton_append]
      · refine .inr ⟨pr :: before, pr', after, taskId', later', rfl,
          forall_mem_cons.mpr ⟨hheld, hbefore⟩, hpr', hfifo', ?_⟩
        rw [hend]
        simp
    · refine .inr ⟨[], pr, ahead, taskId, later, rfl, by simp, hheld, htasks, ?_⟩
      have hcond : ¬ (share ≤ (inflightPr.lookup (wl, pr)).getD 0 ∨ pr ∈ blocked) := hheld
      have hsame : ∀ rot, FairQueue.fifo { fq with rotation := rot } pr = taskId :: later :=
        fun _ => htasks
      rw [length_cons, fqTakeLoop, cons_append]
      dsimp only
      rw [if_neg hcond, hsame]
      unfold served
      by_cases hlater : later = []
      · simp [hlater, retire]
      · simp [hlater]

variable {wl share inflightPr blocked}

/-- **A take** serves the first principal of the rotation that is not held, and returns none only if
all are. -/
theorem takes_fqTake {fq : FairQueue} (h : fq.WF) :
    Takes wl share inflightPr blocked fq (fqTake wl share inflightPr blocked fq) := by
  have hfifo : ∀ pr ∈ fq.rotation, fq.fifo pr ≠ [] := fun pr hpr =>
    (h.mem_members pr).mp ((h.mem_rotation pr).mp hpr)
  have hloop := fqTakeLoop_cases wl share inflightPr blocked fq hfifo []
  unfold fqTake
  rw [h.card_members]
  rw [append_nil, nil_append] at hloop
  rcases hloop with ⟨hall, hend⟩ |
    ⟨before, pr, after, taskId, later, hrot, hbefore, hpr, htasks, hend⟩
  · rw [hend]
    exact .idle hall
  · rw [hend, append_nil]
    exact .serves hrot hbefore hpr htasks

lemma Takes.wf {fq : FairQueue} (h : fq.WF) {r : Option (String × String) × FairQueue}
    (ht : Takes wl share inflightPr blocked fq r) : r.2.WF := by
  cases ht with
  | idle => exact h
  | serves hrot _ _ hfifo => exact h.served hrot hfifo

end Take

end FairQueue

/-! ## Runs -/

/-- A call on the queue of a workload. -/
inductive FqOp
  | enqueue (pr taskId : String)
  | take (wl : String) (share : Nat) (inflightPr : Table (String × String) Nat)
      (blocked : Finset String)

namespace FqOp

/-- The queue after the call. -/
def step (fq : FairQueue) : FqOp → FairQueue
  | .enqueue pr taskId => fq.fqEnqueue pr taskId
  | .take wl share inflightPr blocked => (FairQueue.fqTake wl share inflightPr blocked fq).2

/-- The task and principal that the call takes. -/
def taken (fq : FairQueue) : FqOp → Option (String × String)
  | .enqueue _ _ => none
  | .take wl share inflightPr blocked => (FairQueue.fqTake wl share inflightPr blocked fq).1

/-- The task and principal that the call enqueues. -/
def enqueued : FqOp → Option (String × String)
  | .enqueue pr taskId => some (taskId, pr)
  | .take _ _ _ _ => none

/-- At a take, the principal is queued and not held. -/
def Open (q : String) (fq : FairQueue) : FqOp → Prop
  | .enqueue _ _ => True
  | .take wl share inflightPr blocked =>
    q ∈ fq.members ∧ ¬ FairQueue.Held wl share inflightPr blocked q

end FqOp

namespace FairQueue

/-- The tasks and principals that the calls take. -/
def taken (fq : FairQueue) (ops : List FqOp) : List (String × String) :=
  outputs FqOp.step FqOp.taken fq ops

/-- The tasks in the queue. -/
def remaining (fq : FairQueue) : List (String × String) :=
  fq.rotation.flatMap fun pr => (fq.fifo pr).map (·, pr)

variable {fq : FairQueue} {op : FqOp}

lemma WF.step (h : fq.WF) (op : FqOp) : (op.step fq).WF := by
  cases op with
  | enqueue pr taskId => exact h.fqEnqueue pr taskId
  | take wl share inflightPr blocked => exact (takes_fqTake h).wf h

lemma wf_run (h : fq.WF) (ops : List FqOp) : (run FqOp.step fq ops).WF :=
  run_invariant WF (fun _ op h => h.step op) h ops

/-- What a call does to the queue of a principal. -/
lemma fifo_step (h : fq.WF) (op : FqOp) (p : String) :
    (fq.fifo p).map (·, p) ++ op.enqueued.toList.filter (·.2 = p) =
      (op.taken fq).toList.filter (·.2 = p) ++ ((op.step fq).fifo p).map (·, p) := by
  cases op with
  | enqueue pr taskId =>
    have hfifo := fifo_fqEnqueue fq pr taskId p
    unfold FqOp.taken FqOp.step FqOp.enqueued
    rw [hfifo]
    by_cases hp : p = pr
    · subst hp
      simp
    · simp [hp, Ne.symm hp]
  | take wl share inflightPr blocked =>
    have htakes : Takes wl share inflightPr blocked fq _ := takes_fqTake h
    unfold FqOp.taken FqOp.step FqOp.enqueued
    dsimp only
    generalize fqTake wl share inflightPr blocked fq = r at htakes ⊢
    cases htakes with
    | idle => simp
    | @serves before after pr taskId later hrot hbefore hpr hfifo =>
      rw [fifo_served]
      by_cases hp : p = pr
      · subst hp
        simp [hfifo]
      · simp [hp, Ne.symm hp]

/-- Each principal's tasks leave in the order in which they came, and those that have not left are
in its queue. -/
lemma fifo_run (h : fq.WF) (ops : List FqOp) (p : String) :
    (fq.fifo p).map (·, p) ++ (ops.filterMap FqOp.enqueued).filter (·.2 = p) =
      (fq.taken ops).filter (·.2 = p) ++ ((run FqOp.step fq ops).fifo p).map (·, p) := by
  induction ops generalizing fq with
  | nil => simp [taken, outputs]
  | cons op ops ih =>
    have hstep := fifo_step h op p
    have hrun := ih (h.step op)
    have htaken : fq.taken (op :: ops) = (op.taken fq).toList ++ (op.step fq).taken ops := rfl
    have henqueued : (op :: ops).filterMap FqOp.enqueued =
        op.enqueued.toList ++ ops.filterMap FqOp.enqueued := by
      rw [filterMap_cons]
      cases op.enqueued <;> rfl
    rw [htaken, henqueued, filter_append, filter_append, ← append_assoc, hstep,
      append_assoc, hrun, append_assoc, run_cons]

lemma filter_remaining (h : fq.WF) (p : String) :
    fq.remaining.filter (·.2 = p) = (fq.fifo p).map (·, p) := by
  by_cases hp : p ∈ fq.rotation
  · exact RoundRobin.filter_flatMap (by simp) h.nodup hp
  · have hnil : fq.fifo p = [] := by
      rw [h.mem_rotation, h.mem_members, not_not] at hp
      exact hp
    rw [hnil, map_nil, filter_eq_nil_iff]
    rintro ⟨taskId, pr⟩ hmem
    obtain ⟨pr', hpr', htask⟩ := mem_flatMap.mp hmem
    obtain ⟨task, -, heq⟩ := mem_map.mp htask
    obtain ⟨rfl, rfl⟩ := Prod.mk.inj heq
    simpa using ne_of_mem_of_not_mem hpr' hp

/-- Tasks taken and tasks remaining are the tasks enqueued. -/
lemma perm_run (ops : List FqOp) : (newFq.taken ops ++ (run FqOp.step newFq ops).remaining).Perm
      (ops.filterMap FqOp.enqueued) := by
  refine RoundRobin.perm_of_filter_eq Prod.snd fun p => ?_
  have hrun := fifo_run wf_newFq ops p
  rw [filter_append, filter_remaining (wf_run wf_newFq ops)]
  exact hrun.symm

/-! ## Fairness -/

/-- The rotation reaches `q` without passing `p`. -/
def Ahead (q p : String) (fq : FairQueue) : Prop :=
  ∃ l₁ l₂, fq.rotation = l₁ ++ q :: l₂ ∧ p ∉ l₁

/-- While `q` is ahead of `p` and can be served, no call takes a task of `p`, and only a take of `q`
ends this. -/
lemma Ahead.step {q p : String} (h : fq.WF) (ha : Ahead q p fq) (hop : op.Open q fq) :
    (∃ taskId, op.taken fq = some (taskId, q)) ∨
      (Ahead q p (op.step fq) ∧ ∀ taskId pr, op.taken fq = some (taskId, pr) → pr ≠ p) := by
  obtain ⟨l₁, l₂, hrot, hp⟩ := ha
  cases op with
  | enqueue pr taskId =>
    refine .inr ⟨?_, fun _ _ hnone => nomatch hnone⟩
    unfold FqOp.step fqEnqueue Ahead
    dsimp only
    split_ifs with hmem
    · exact ⟨l₁, l₂, hrot, hp⟩
    · exact ⟨l₁, l₂ ++ [pr], by simp [hrot], hp⟩
  | take wl share inflightPr blocked =>
    have htakes : Takes wl share inflightPr blocked fq _ := takes_fqTake h
    unfold FqOp.taken FqOp.step
    dsimp only
    generalize fqTake wl share inflightPr blocked fq = r at htakes ⊢
    obtain ⟨hmember, hopen⟩ := hop
    cases htakes with
    | idle hall => exact absurd (hall q ((h.mem_rotation q).mpr hmember)) hopen
    | @serves before after pr taskId later hsplit hbefore hpr hfifo =>
      by_cases hq : pr = q
      · exact .inl ⟨taskId, by rw [hq]⟩
      · -- `q` is neither passed over nor served, so it is behind the served one
        have hbehind : ∃ c, l₁ = before ++ pr :: c ∧ after = c ++ q :: l₂ := by
          rcases append_eq_append_iff.mp (hrot.symm.trans hsplit) with
            ⟨a, rfl, ha⟩ | ⟨c, rfl, hc⟩
          · rcases a with _ | ⟨x, a⟩
            · exact absurd (cons.inj ha).1.symm hq
            · obtain ⟨rfl, -⟩ := cons.inj ha
              exact absurd (hbefore q (by simp)) hopen
          · rcases c with _ | ⟨x, c⟩
            · exact absurd (cons.inj hc).1 hq
            · obtain ⟨rfl, rfl⟩ := cons.inj hc
              exact ⟨c, rfl, rfl⟩
        obtain ⟨c, rfl, rfl⟩ := hbehind
        simp only [mem_append, mem_cons, not_or] at hp
        refine .inr ⟨⟨c, l₂ ++ before ++ (if later = [] then [] else [pr]), ?_, hp.2.2⟩, ?_⟩
        · unfold served retire
          by_cases hlater : later = [] <;> simp [hlater]
        · rintro t pr' ⟨⟩
          exact Ne.symm hp.2.1

/-- A take of `p` puts every other queued principal ahead of it. -/
lemma ahead_of_taken {q p taskId : String} (h : fq.WF) (hq : q ∈ fq.members) (hne : q ≠ p)
    (hop : op.taken fq = some (taskId, p)) : Ahead q p (op.step fq) := by
  cases op with
  | enqueue => exact nomatch hop
  | take wl share inflightPr blocked =>
    have htakes : Takes wl share inflightPr blocked fq _ := takes_fqTake h
    unfold FqOp.taken at hop
    unfold FqOp.step
    dsimp only at hop ⊢
    generalize fqTake wl share inflightPr blocked fq = r at htakes hop ⊢
    cases htakes with
    | idle => exact nomatch hop
    | @serves before after pr taskId later hsplit hbefore hpr hfifo =>
      cases hop
      have hnodup := h.nodup
      rw [hsplit, nodup_middle, nodup_cons] at hnodup
      have hmem : q ∈ after ++ before := by
        have hrot := (h.mem_rotation q).mpr hq
        rw [hsplit] at hrot
        simp only [mem_append, mem_cons, hne, false_or] at hrot ⊢
        exact hrot.symm
      obtain ⟨l₁, l₂, hl⟩ := append_of_mem hmem
      refine ⟨l₁, l₂ ++ (if later = [] then [] else [p]), ?_, fun hp => hnodup.1 ?_⟩
      · unfold served retire
        by_cases hlater : later = [] <;> simp [hlater, hl]
      · have hp' : p ∈ after ++ before := by
          rw [hl]
          exact mem_append_left _ hp
        rw [mem_append] at hp' ⊢
        exact hp'.symm

/-- Between a state in which `q` is ahead and a take of `p`, a task of `q` is taken. -/
lemma taken_of_ahead {q p taskId : String} {mid : List FqOp} (hne : q ≠ p) (h : fq.WF)
    (ha : Ahead q p fq) (hopen : Along FqOp.step (fun fq op => op.Open q fq) fq (mid ++ [op]))
    (hop : op.taken (run FqOp.step fq mid) = some (taskId, p)) :
    q ∈ (fq.taken mid).map Prod.snd := by
  induction mid generalizing fq with
  | nil =>
    exfalso
    rcases ha.step h hopen.1 with ⟨t, hq⟩ | ⟨-, hother⟩
    · obtain ⟨-, heq⟩ := Prod.mk.inj (Option.some.inj (hq.symm.trans hop))
      exact hne heq
    · exact hother taskId p hop rfl
  | cons first mid ih =>
    have htaken : fq.taken (first :: mid) =
      (first.taken fq).toList ++ (first.step fq).taken mid := rfl
    rw [htaken, map_append, mem_append]
    rcases ha.step h hopen.1 with ⟨t, hq⟩ | ⟨ha', -⟩
    · left
      rw [hq]
      simp
    · right
      exact ih (h.step first) ha' hopen.2 hop

/-- **A fair and lossless queue.** After every sequence of calls: each member is in the rotation
exactly once, and the members are the principals with tasks; tasks taken and remaining are the tasks
enqueued, and each principal's leave in the order in which they came; a take returns none only if
every member is blocked or at its share; and between two takes of a principal `p`, every other one
that was queued at the first, and is queued, unblocked and below its share at every take after it up
to the second, is taken. -/
theorem fair_queue (ops : List FqOp) : let fq := run FqOp.step newFq ops
    (fq.rotation.Nodup ∧ (∀ pr, pr ∈ fq.rotation ↔ pr ∈ fq.members) ∧
      ∀ pr, pr ∈ fq.members ↔ fq.fifo pr ≠ []) ∧
    (newFq.taken ops ++ fq.remaining).Perm (ops.filterMap FqOp.enqueued) ∧
    (∀ pr, (newFq.taken ops).filter (·.2 = pr) <+:
      (ops.filterMap FqOp.enqueued).filter (·.2 = pr)) ∧
    (∀ wl share inflightPr blocked, (fqTake wl share inflightPr blocked fq).1 = none →
      ∀ pr ∈ fq.members, Held wl share inflightPr blocked pr) ∧
    ∀ (first : FqOp) (mid : List FqOp) (second : FqOp) (p q t t' : String),
      first.taken fq = some (t, p) →
      second.taken (run FqOp.step fq (first :: mid)) = some (t', p) → q ≠ p → q ∈ fq.members →
      Along FqOp.step (fun fq op => op.Open q fq) (first.step fq) (mid ++ [second]) →
      q ∈ ((first.step fq).taken mid).map Prod.snd := by
  intro fq
  have h : fq.WF := wf_run wf_newFq ops
  refine ⟨⟨h.nodup, h.mem_rotation, h.mem_members⟩, perm_run ops, fun pr => ?_, ?_, ?_⟩
  · have hrun := fifo_run wf_newFq ops pr
    exact ⟨_, hrun.symm⟩
  · intro wl share inflightPr blocked hnone pr hpr
    have htakes : Takes wl share inflightPr blocked fq _ := takes_fqTake h
    generalize fqTake wl share inflightPr blocked fq = r at htakes hnone
    cases htakes with
    | idle hall => exact hall pr ((h.mem_rotation pr).mpr hpr)
    | serves => exact nomatch hnone
  · intro first mid second p q t t' hfirst hsecond hne hq hopen
    exact taken_of_ahead hne (h.step first) (ahead_of_taken h hq hne hfirst) hopen hsecond

/-- A take in which no principal is held. -/
def freeTake : FqOp := .take "wl" 1 ∅ ∅

/-- Two principals with two tasks each and three takes: `q` comes between the two takes of `p`. -/
theorem fair_queue_alternates : let ops := [.enqueue "p" "t1", .enqueue "p" "t2",
      .enqueue "q" "t3", .enqueue "q" "t4"]
    let fq := run FqOp.step newFq ops
    freeTake.taken fq = some ("t1", "p") ∧
      freeTake.taken (run FqOp.step fq [freeTake, freeTake]) = some ("t2", "p") ∧
      "q" ∈ ((freeTake.step fq).taken [freeTake]).map Prod.snd := by
  intro ops fq
  have hopen : ¬ Held "wl" 1 ∅ ∅ "q" := by simp [Held]
  obtain ⟨-, -, -, -, hfair⟩ := fair_queue ops
  refine ⟨by decide, by decide, ?_⟩
  exact hfair freeTake [freeTake] freeTake "p" "q" "t1" "t2" (by decide) (by decide) (by decide)
    (by decide) ⟨⟨by decide, hopen⟩, ⟨by decide, hopen⟩, trivial⟩

/-- The principal `q` is queued right after a take of `p`, can be served at the two takes that
follow, and the second of them takes `p` again: it joined the rotation behind `p`. -/
theorem late_principal_waits : let ops := [.enqueue "p" "t1", .enqueue "p" "t2", .enqueue "r" "t3"]
    let fq := run FqOp.step newFq (ops ++ [freeTake])
    newFq.taken (ops ++ [freeTake, .enqueue "q" "t4", freeTake, freeTake]) =
        [("t1", "p"), ("t3", "r"), ("t2", "p")] ∧
      Along FqOp.step (fun fq op => op.Open "q" fq) fq [.enqueue "q" "t4", freeTake, freeTake] := by
  intro ops fq
  have hopen : ¬ Held "wl" 1 ∅ ∅ "q" := by simp [Held]
  refine ⟨by decide, trivial, ⟨by decide, hopen⟩, ⟨by decide, hopen⟩, trivial⟩

end FairQueue

end Homelab.Embervm
