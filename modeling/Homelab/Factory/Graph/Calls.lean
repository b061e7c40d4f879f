import Homelab.Factory.Graph.Batch
import Homelab.Factory.Graph.Dispatch
import Homelab.Lib.Run

/-!
# Calls on a task, and what they write

A run of the factory on one task is a list of calls, each a serial transaction. `Write` lists the
changes a transaction is made of, each with the guards it passed; `step_writes` says that a call is
a sequence of such changes. Invariants of the plan and of the ledger are proved against `Write`, one
case for each change.
-/

namespace Homelab.Factory

open Homelab.Lib List
open Relation (ReflTransGen)

/-- One call on a task: its arguments, and what it reads outside the task's rows. -/
inductive Call where
  | addNode (cause : Cause) (expectedVersion : Int) (fields : NodeFields)
  | discardNode (starts : List FactoryStart) (cause : Cause) (nodeKey : String)
      (expectedVersion : Int) (observedBranchHead : Value) (activitiesClaimWrite : Bool)
  | applyEdits (starts : List FactoryStart) (cause : Cause) (expectedVersion : Int) (edits : Value)
  | renewFundedAttempt (target : FundingTarget) (expectedVersion : Int) (requestId : Nat)
  | admitDispatch (env : Surroundings) (admission : Admission)
  | recordDispatch (nodeKey : String) (attempt : Nat) (sessionId : Value) (baseSha : Option String)
  | bindNodeSession (nodeKey : String) (attempt : Nat) (sessionId : Value) (workflowId : String)
  | recordOutcome (nodeKey : String) (attempt : Nat) (evidence : Evidence) (now : Int)

namespace Task

/-- The task after a call. -/
def step (s : Task) : Call → Task
  | .addNode cause expectedVersion fields => (s.addNode cause expectedVersion fields).1
  | .discardNode starts cause nodeKey expectedVersion observedBranchHead activitiesClaimWrite =>
    (s.discardNode starts cause nodeKey expectedVersion observedBranchHead activitiesClaimWrite).1
  | .applyEdits starts cause expectedVersion edits =>
    (s.applyEdits starts cause expectedVersion edits).1
  | .renewFundedAttempt target expectedVersion requestId =>
    (s.renewFundedAttempt target expectedVersion requestId).1
  | .admitDispatch env admission => (s.admitDispatch env admission).1
  | .recordDispatch nodeKey attempt sessionId baseSha =>
    (s.recordDispatch nodeKey attempt sessionId baseSha).1
  | .bindNodeSession nodeKey attempt sessionId workflowId =>
    (s.bindNodeSession nodeKey attempt sessionId workflowId).1
  | .recordOutcome nodeKey attempt evidence now => (s.recordOutcome nodeKey attempt evidence now).1

/-- A task before its first plan version; attempts may have been recorded already. -/
def empty (id conductorModel : String) (budgetUsd : Value) (runs : List NodeRun) : Task where
  id := id
  conductorModel := conductorModel
  budgetUsd := budgetUsd
  nodes := []
  versions := []
  runs := runs
  calls := []

/-- A node that asks for nothing but its prompt. -/
def plainNode (nodeKey prompt : String) : NodeFields where
  nodeKey := nodeKey
  kind := "work"
  prompt := prompt
  model := .null
  effort := .null
  deps := []
  maxCostUsd := .int 1
  sideEffects := false
  maxAttempts := .int 1
  turnTimeoutSeconds := .int 60

/-- The task after a list of calls. -/
abbrev run (s : Task) (calls : List Call) : Task := Lib.run step s calls

end Task

/-- One change of the task's rows, with the guards it passed. -/
inductive Write : Task → Task → Prop where
  | log (s : Task) (call : ConductorCall) : Write s { s with calls := s.calls ++ [call] }
  | add (s : Task) (cause : Cause) (expectedVersion : Int) (fields : NodeFields)
      (hguards : s.addNodeRefusal expectedVersion fields = none) :
      Write s (s.withNode cause fields)
  | discard (s : Task) (starts : List FactoryStart) (cause : Cause) (nodeKey : String)
      (expectedVersion : Int) (observedBranchHead : Value) (activitiesClaimWrite : Bool)
      (hguards : s.discardNodeRefusal starts nodeKey expectedVersion observedBranchHead
        activitiesClaimWrite = none) :
      Write s (s.withoutNode cause nodeKey)
  | renew (s : Task) (target : FundingTarget) (expectedVersion : Int) (requestId : Nat)
      (node : PlanNode) (hlive : s.liveNode target.nodeKey = some node)
      (hguards : s.renewable target expectedVersion node = true) :
      Write s (s.withRenewal (s.renewalOf target requestId node))
  | reserve (s : Task) (env : Surroundings) (a : Admission) (node : PlanNode)
      (hfresh : s.dispatchedAs a.dispatchKey = none) (hlive : s.liveNode a.nodeKey = some node)
      (hguards : s.admitRefusal env node = none) :
      Write s (s.withRun env a (s.newPin env a node))
  | bind (s : Task) (nodeKey : String) (attempt : Nat) (sessionId : Int) (baseSha : Option String)
      (run : NodeRun) (hrun : s.getRun nodeKey attempt = some run)
      (hguards : run.bindConflict sessionId baseSha = false) :
      Write s (s.updateRun nodeKey attempt (·.bind sessionId baseSha))
  | conclude (s : Task) (nodeKey : String) (attempt : Nat) (status : RunStatus)
      (evidence : Evidence) (now : Int) (run : NodeRun) (hrun : s.getRun nodeKey attempt = some run)
      (hstatus : outcomeStatus evidence.status = some status) (htakes : run.takes evidence = true) :
      Write s (s.updateRun nodeKey attempt (·.conclude status evidence now))

/-- A run that is over takes no outcome: it is priced by nothing, so all but the same one
conflict. -/
lemma NodeRun.open_of_takes {run : NodeRun} {evidence : Evidence}
    (h : run.takes evidence = true) : run.status.terminal = false := by
  obtain ⟨status, -, h⟩ := (Option.any_eq_true _ _).mp h
  rw [Bool.and_eq_true, Bool.not_eq_true'] at h
  by_contra hterminal
  have hne : run.status ≠ .uncertain := by
    intro heq
    simp [heq, RunStatus.terminal] at hterminal
  simp_all [outcomeConflict, priced]

namespace Task

/-! ## One call -/

variable (s : Task) (starts : List FactoryStart) (nodeKey : String) (cause : Cause) (attempt : Nat)

lemma refuse_writes (tool : String) (args : Value) (refusal : Refusal) :
    ReflTransGen Write s (s.refuse tool args refusal).1 :=
  .single (.log s _)

variable {s' : Task}

/-- A change and the conductor call that records it. -/
lemma finish_writes {s : Task} (h : Write s s') (tool : String) (args : Value) (versionBefore : Int)
    (result : GraphOp) : ReflTransGen Write s (s'.finish tool args versionBefore result).1 :=
  .tail (.single h) (.log s' _)

lemma commit_writes {s : Task} {takes : Bool} {done : Task × GraphOp}
    (h : ReflTransGen Write s done.1) : ReflTransGen Write s (s.commit takes done).1 := by
  unfold commit
  split
  · exact h
  · exact .refl

lemma addNode_writes (expectedVersion : Int) (fields : NodeFields) :
    ReflTransGen Write s (s.addNode cause expectedVersion fields).1 := by
  unfold addNode
  split
  · exact refuse_writes ..
  · rename_i hguards
    exact commit_writes (finish_writes (.add s cause expectedVersion fields hguards) ..)

lemma discardNode_writes (nodeKey : String) (expectedVersion : Int) (observedBranchHead : Value)
    (activitiesClaimWrite : Bool) :
    ReflTransGen Write s (s.discardNode starts cause nodeKey expectedVersion observedBranchHead
      activitiesClaimWrite).1 := by
  unfold discardNode
  split
  · exact refuse_writes ..
  · rename_i hguards
    exact commit_writes (finish_writes (.discard s starts cause nodeKey expectedVersion
      observedBranchHead activitiesClaimWrite hguards) ..)

lemma renewFundedAttempt_writes (target : FundingTarget) (expectedVersion : Int) (requestId : Nat) :
    ReflTransGen Write s (s.renewFundedAttempt target expectedVersion requestId).1 := by
  unfold renewFundedAttempt
  split
  · exact .refl
  · rename_i node hnode
    obtain ⟨hlive, hguards⟩ := Option.filter_eq_some_iff.mp hnode
    exact finish_writes (.renew s target expectedVersion requestId node hlive hguards) ..

lemma applyOneEdit_writes (edit : Edit) (expectedVersion : Int) :
    ReflTransGen Write s (s.applyOneEdit starts cause edit expectedVersion).1 := by
  cases edit with
  | addNode => exact addNode_writes ..
  | discardNode => exact discardNode_writes ..

lemma applyInOrder_writes {starts : List FactoryStart} {cause : Cause}
    {edits : List (Nat × Edit)} {s : Task} {version version' : Int}
    (h : applyInOrder starts cause s version edits = .ok (s', version')) :
    ReflTransGen Write s s' := by
  induction edits generalizing s version with
  | nil => cases h; exact .refl
  | cons indexed edits ih =>
    rw [applyInOrder_cons] at h
    split_ifs at h with hok
    exact (applyOneEdit_writes s starts cause indexed.2 version).trans (ih h)

lemma applyEdits_writes (expectedVersion : Int) (edits : Value) :
    ReflTransGen Write s (s.applyEdits starts cause expectedVersion edits).1 := by
  unfold applyEdits
  split
  · exact refuse_writes ..
  · split
    · rename_i s' version h
      exact (applyInOrder_writes h).tail (.log s' _)
    · exact refuse_writes ..
    · exact .refl

/-- The answer of an admission that succeeds. -/
def admitted (s later : Task) (a : Admission) (pin : Pin) (attempt : Nat) : Task × GraphOp :=
  later.finish "admit_dispatch" a.args s.currentVersion
    { ok := true, version := some s.currentVersion, detail := some (toString attempt)
      attempt := some attempt, pin := some pin }

/-- **An admission** is refused, replays the run of its dispatch key, or adds a run. -/
theorem admitDispatch_cases (env : Surroundings) (a : Admission) :
    (∃ refusal, s.admitDispatch env a = s.refuse "admit_dispatch" a.args refusal) ∨
    (∃ run pin, s.dispatchedAs a.dispatchKey = some run ∧ replayPin a run = some pin ∧
      s.admitDispatch env a = s.admitted s a pin run.attempt) ∨
    ∃ node, requestRefusal env a = none ∧ s.dispatchedAs a.dispatchKey = none ∧
      s.liveNode a.nodeKey = some node ∧ s.admitRefusal env node = none ∧
      s.admitDispatch env a = s.admitted (s.withRun env a (s.newPin env a node)) a
        (s.newPin env a node) (s.newPin env a node).attempt := by
  unfold admitDispatch
  split
  · exact .inl ⟨_, rfl⟩
  next hrequest =>
  split
  next run hrun =>
    split
    next pin hpin => exact .inr (.inl ⟨run, pin, hrun, hpin, rfl⟩)
    · exact .inl ⟨_, rfl⟩
  next hfresh =>
  split
  · exact .inl ⟨_, rfl⟩
  next node hlive =>
  split
  · exact .inl ⟨_, rfl⟩
  next hguards =>
    dsimp only
    split_ifs
    · exact .inl ⟨_, rfl⟩
    · exact .inr (.inr ⟨node, hrequest, hfresh, hlive, hguards, rfl⟩)

lemma admitDispatch_writes (env : Surroundings) (a : Admission) :
    ReflTransGen Write s (s.admitDispatch env a).1 := by
  rcases s.admitDispatch_cases env a with
    ⟨refusal, heq⟩ | ⟨run, pin, -, -, heq⟩ | ⟨node, -, hfresh, hlive, hguards, heq⟩
  · rw [heq]
    exact refuse_writes ..
  · rw [heq]
    exact .single (.log s _)
  · rw [heq]
    exact finish_writes (.reserve s env a node hfresh hlive hguards) ..

/-- What a binding writes, beside the conductor call that records it. -/
lemma recordDispatch_cases (sessionId : Value) (baseSha : Option String) :
    (s.recordDispatch nodeKey attempt sessionId baseSha).1 = s ∨
      ∃ t args version result,
        (s.recordDispatch nodeKey attempt sessionId baseSha).1 =
          (t.finish "record_dispatch" args version result).1 ∧
        (t = s ∨ ∃ run, s.getRun nodeKey attempt = some run ∧
          run.bindConflict sessionId.asInt baseSha = false ∧
          t = s.updateRun nodeKey attempt (·.bind sessionId.asInt baseSha)) := by
  unfold recordDispatch
  split
  · exact .inl rfl
  next run hrun =>
    split_ifs with hid hconflict
    · exact .inr ⟨s, _, _, _, rfl, .inl rfl⟩
    · exact .inr ⟨s, _, _, _, rfl, .inl rfl⟩
    · exact .inr ⟨_, _, _, _, rfl, .inr ⟨run, hrun, by simpa using hconflict, rfl⟩⟩

lemma recordDispatch_writes (sessionId : Value) (baseSha : Option String) :
    ReflTransGen Write s (s.recordDispatch nodeKey attempt sessionId baseSha).1 := by
  rcases s.recordDispatch_cases nodeKey attempt sessionId baseSha with
    heq | ⟨t, args, version, result, heq, rfl | ⟨run, hrun, hfree, rfl⟩⟩
  · rw [heq]
  · rw [heq]
    exact .single (.log t _)
  · rw [heq]
    exact finish_writes (.bind s nodeKey attempt sessionId.asInt baseSha run hrun hfree) ..

/-- What an outcome writes, beside the conductor call that records it. -/
lemma recordOutcome_cases (evidence : Evidence) (now : Int) :
    (s.recordOutcome nodeKey attempt evidence now).1 = s ∨
      ∃ t args version result,
        (s.recordOutcome nodeKey attempt evidence now).1 =
          (t.finish "record_outcome" args version result).1 ∧
        (t = s ∨ ∃ run status, s.getRun nodeKey attempt = some run ∧
          outcomeStatus evidence.status = some status ∧ run.takes evidence = true ∧
          t = s.updateRun nodeKey attempt (·.conclude status evidence now)) := by
  unfold recordOutcome
  split
  · exact .inl rfl
  next status hstatus =>
    split_ifs with hcost
    · exact .inr ⟨s, _, _, _, rfl, .inl rfl⟩
    · split
      · exact .inl rfl
      next run hrun =>
        split_ifs with hsame hclosed
        · exact .inr ⟨s, _, _, _, rfl, .inl rfl⟩
        · exact .inr ⟨s, _, _, _, rfl, .inl rfl⟩
        · have htakes : run.takes evidence = true := by
            rw [NodeRun.takes, hstatus, Option.any_some, Bool.eq_false_of_not_eq_true hsame,
              Bool.eq_false_of_not_eq_true hclosed]
            simpa [or_iff_not_imp_left] using hcost
          exact .inr ⟨_, _, _, _, rfl, .inr ⟨run, status, hrun, hstatus, htakes, rfl⟩⟩

/-- An outcome that the run takes is written. -/
lemma recordOutcome_of_takes {evidence : Evidence} {run : NodeRun}
    (hrun : s.getRun nodeKey attempt = some run) (htakes : run.takes evidence = true) (now : Int) :
    ∃ status, (s.recordOutcome nodeKey attempt evidence now).1.runs =
      (s.updateRun nodeKey attempt (·.conclude status evidence now)).runs := by
  obtain ⟨status, hstatus, h⟩ := (Option.any_eq_true _ _).mp htakes
  rw [Bool.and_eq_true, Bool.and_eq_true, Bool.not_eq_true', Bool.not_eq_true'] at h
  obtain ⟨⟨hcost, hsame⟩, hclosed⟩ := h
  have hvalid :
      (decide (evidence.costUsd ≠ .null) && !evidence.costUsd.validCost true) = false := by
    simpa [or_iff_not_imp_left] using hcost
  refine ⟨status, ?_⟩
  simp only [recordOutcome, hstatus, hvalid, hrun, hsame, hclosed, Bool.false_eq_true, if_false]
  rfl

lemma recordOutcome_writes (evidence : Evidence) (now : Int) :
    ReflTransGen Write s (s.recordOutcome nodeKey attempt evidence now).1 := by
  rcases s.recordOutcome_cases nodeKey attempt evidence now with
    heq | ⟨t, args, version, result, heq, rfl | ⟨run, status, hrun, hstatus, htakes, rfl⟩⟩
  · rw [heq]
  · rw [heq]
    exact .single (.log t _)
  · rw [heq]
    exact finish_writes
      (.conclude s nodeKey attempt status evidence now run hrun hstatus htakes) ..

/-- A call is a sequence of changes, each of which passed its guards. -/
lemma step_writes (call : Call) : ReflTransGen Write s (s.step call) := by
  cases call with
  | addNode cause expectedVersion fields => exact addNode_writes ..
  | discardNode => exact discardNode_writes ..
  | applyEdits => exact applyEdits_writes ..
  | renewFundedAttempt => exact renewFundedAttempt_writes ..
  | admitDispatch => exact admitDispatch_writes ..
  | recordDispatch => exact recordDispatch_writes ..
  | bindNodeSession nodeKey attempt sessionId workflowId =>
    change ReflTransGen Write s (s.bindNodeSession nodeKey attempt sessionId workflowId).1
    unfold bindNodeSession
    split
    · exact .refl
    · exact recordDispatch_writes ..
  | recordOutcome => exact recordOutcome_writes ..

lemma run_writes (calls : List Call) : ReflTransGen Write s (s.run calls) :=
  run_invariant (ReflTransGen Write s) (fun t call h => h.trans (step_writes t call)) .refl calls

/-- **Invariant rule.** What every change keeps, a sequence of changes keeps. -/
theorem writes_keep {I : Task → Prop} (hwrite : ∀ s s', Write s s' → I s → I s') {s : Task}
    (hs : I s) (h : ReflTransGen Write s s') : I s' := by
  induction h with
  | refl => exact hs
  | tail _ hw ih => exact hwrite _ _ hw ih

end Task

end Homelab.Factory
