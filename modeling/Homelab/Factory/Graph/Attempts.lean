import Homelab.Factory.Graph.Acyclic

/-!
# Attempts of a node

The runs of a node key are its attempts. `Attempts` is the invariant of the dispatch ledger: the
attempts of a key are numbered from one, only the last of them can be open or have succeeded, and
each carries a pin that admits its number. Only a reservation adds a run, and what it fixes of the
run (`NodeRun.reserved`) no later call changes, so every run is traced back to the call that
admitted it (`run_admitted`).
-/

namespace Homelab.Factory

open Homelab.Lib List

variable (run : NodeRun)

/-- What an admission fixes of a run. -/
def NodeRun.reserved : String × Nat × Option Pin :=
  (run.nodeKey, run.attempt, run.pin)

lemma NodeRun.bind_reserved (sessionId : Int) (baseSha : Option String) :
    (run.bind sessionId baseSha).reserved = run.reserved := rfl

lemma NodeRun.conclude_reserved (status : RunStatus) (evidence : Evidence)
    (now : Int) : (run.conclude status evidence now).reserved = run.reserved := rfl

/-- The run is open or has succeeded: no attempt may follow it. -/
def NodeRun.Final : Prop := run.status.terminal = false ∨ run.status = .succeeded

/-- A binding opens no run that was over, and concludes none. -/
lemma NodeRun.final_of_bind {run : NodeRun} {sessionId : Int} {baseSha : Option String}
    (h : (run.bind sessionId baseSha).Final) : run.Final := by
  unfold Final bind at h
  split_ifs at h with hadmitted
  · exact .inl (by rw [hadmitted.2]; rfl)
  · exact h

/-- At most three denials are excused. -/
lemma length_le_spentAttempts (runs : List NodeRun) :
    runs.length ≤ spentAttempts runs + maxCapacityDeniedAttempts := by
  unfold spentAttempts
  omega

/-- A node that passes the bounds check has an integer attempt bound. -/
lemma maxAttempts_of_boundsError {fields : NodeFields} (h : boundsError fields = none) :
    ∃ limit : Nat, fields.maxAttempts = .int limit := by
  simp only [boundsError, Option.orElse_eq_orElse, Option.orElse_eq_or, Option.or_eq_none_iff,
    refuseIf_eq_none] at h
  obtain ⟨-, -, hbound, -⟩ := h
  unfold Value.validBound at hbound
  split at hbound
  · rename_i i hi
    refine ⟨i.toNat, hi.trans ?_⟩
    have hpos : 0 < i := by
      by_contra hneg
      simp [hneg] at hbound
    rw [Int.toNat_of_nonneg hpos.le]
  · cases hbound

namespace Task

/-- No evidence continuation was granted on the task. -/
def Ungranted (s : Task) : Prop :=
  ∀ row ∈ s.versions, ∀ grant, row.change ≠ .continueEvidence grant

variable {s : Task}

lemma Ungranted.grants (h : s.Ungranted) (version : Nat) : s.grants version = [] := by
  refine filterMap_eq_nil_iff.mpr fun row hrow => ?_
  split
  · rename_i grant hgrant
    exact absurd hgrant (h row hrow grant)
  · rfl

lemma Ungranted.grantOn (h : s.Ungranted) (nodeKey : String) : s.grantOn nodeKey = none := by
  unfold Task.grantOn
  cases hnode : (s.loadGraph none).find? (·.nodeKey = nodeKey) with
  | none => rfl
  | some node =>
    have hmem := mem_of_find?_eq_some hnode
    rw [loadGraph, Option.getD_none, if_neg (lt_irrefl _), project, h.grants] at hmem
    obtain ⟨shown, hshown, rfl⟩ := mem_map.mp hmem
    obtain ⟨row, -, rfl⟩ := mem_map.mp hshown
    rfl

lemma Ungranted.attemptLimit (h : s.Ungranted) (node : PlanNode) :
    s.attemptLimit node = node.maxAttempts.asInt := by
  rw [Task.attemptLimit, h.grantOn]

/-! ## What an admission has checked -/

/-- The moment an attempt was admitted: it is the next one of its key, whose earlier attempts are
over without success; its node is live, the node's dependencies are live and have succeeded; and its
number is within the node's bound and the excused denials. -/
structure Admits (before : Task) (run : NodeRun) : Prop where
  next : run.attempt = (before.runsOf run.nodeKey).length + 1
  idle : ∀ earlier ∈ before.runsOf run.nodeKey,
    earlier.status.terminal = true ∧ earlier.status ≠ .succeeded
  live : ∃ node limit, before.liveNode run.nodeKey = some node ∧
    (∀ dep ∈ node.deps, (before.liveNode dep).isSome = true ∧
      ∃ earlier ∈ before.runsOf dep, earlier.status = .succeeded) ∧
    node.maxAttempts = .int (limit : Nat) ∧ run.attempt ≤ limit + maxCapacityDeniedAttempts

lemma admitRefusal_eq_none {env : Surroundings} {node : PlanNode}
    (h : s.admitRefusal env node = none) : boundsError node.toNodeFields = none ∧
      (∀ run ∈ s.runsOf node.nodeKey, run.status.terminal = true ∧ run.status ≠ .succeeded) ∧
      (spentAttempts (s.runsOf node.nodeKey) : Int) < s.attemptLimit node ∧
      ∀ dep ∈ node.deps, s.dependencyMet dep = true := by
  simp only [admitRefusal, Option.orElse_eq_orElse, Option.orElse_eq_or, Option.or_eq_none_iff,
    refuseIf_eq_none] at h
  obtain ⟨hbounds, -, hsucceeded, hactive, -, hlimit, hdeps⟩ := h
  refine ⟨hbounds, fun run hrun => ⟨?_, ?_⟩, by simpa using hlimit, by simpa using hdeps⟩
  · simpa using any_eq_false.mp hactive run hrun
  · simpa using any_eq_false.mp hsucceeded run hrun

/-! ## The invariant -/

/-- The dispatch ledger of a task without grants. -/
structure Attempts (s : Task) : Prop where
  ungranted : s.Ungranted
  numbered : ∀ key, (s.runsOf key).map (·.attempt) = range' 1 (s.runsOf key).length
  last : ∀ run ∈ s.runs, run.Final → run.attempt = (s.runsOf run.nodeKey).length
  pinned : ∀ run ∈ s.runs, ∃ pin, run.pin = some pin ∧ pin.attempt = run.attempt ∧
    (pin.attempt : Int) ≤ pin.maxAttempts

variable {run : NodeRun} {key : String}

lemma mem_runsOf : run ∈ s.runsOf key ↔ run ∈ s.runs ∧ run.nodeKey = key := by
  simp [runsOf]

/-- What no rewriting of a run changes reads the same in the whole ledger. -/
lemma updateRun_map {β : Type} (s : Task) (nodeKey : String) (attempt : Nat)
    {f : NodeRun → NodeRun} {g : NodeRun → β} (hf : ∀ run, g (f run) = g run) :
    (s.updateRun nodeKey attempt f).runs.map g = s.runs.map g := by
  rw [updateRun, map_map]
  refine map_congr_left fun run _ => ?_
  rw [Function.comp_apply]
  split_ifs
  · exact hf run
  · rfl

variable {s' : Task}

section

variable (h : s'.runs.map NodeRun.reserved = s.runs.map NodeRun.reserved)
include h

/-- The numbers of a key's attempts are part of what admissions fix. -/
lemma attempts_congr (key : String) :
    (s'.runsOf key).map (·.attempt) = (s.runsOf key).map (·.attempt) := by
  have hread : ∀ t : Task, (t.runsOf key).map (·.attempt) =
      ((t.runs.map NodeRun.reserved).filter (·.1 = key)).map (·.2.1) := by
    intro t
    rw [filter_map, map_map]
    rfl
  rw [hread, hread, h]

lemma length_congr (key : String) : (s'.runsOf key).length = (s.runsOf key).length := by
  simpa using congrArg length (attempts_congr h key)

/-- A run of the later ledger is one of the earlier, as admitted. -/
lemma exists_reserved (hrun : run ∈ s'.runs) : ∃ earlier ∈ s.runs,
    earlier.reserved = run.reserved :=
  mem_map.mp (h ▸ mem_map_of_mem hrun)

end

namespace Attempts

variable {s : Task} (h : s.Attempts)
include h

/-- A change that fixes and concludes no run. -/
lemma congr (hruns : s'.runs = s.runs)
    (hversions : ∀ row ∈ s'.versions, row ∈ s.versions ∨ ∀ grant,
      row.change ≠ .continueEvidence grant)
    : s'.Attempts where
  ungranted row hrow := (hversions row hrow).elim (h.ungranted row) fun hother => hother
  numbered key := by
    simpa only [runsOf, hruns] using h.numbered key
  last run hrun hfinal := by
    simpa only [runsOf, hruns] using h.last run (hruns ▸ hrun) hfinal
  pinned run hrun := h.pinned run (hruns ▸ hrun)

/-- A new row of the ledger that is no grant. -/
lemma record (hruns : s'.runs = s.runs) {row : PlanVersion}
    (hversions : s'.versions = s.versions ++ [row])
    (hrow : ∀ grant, row.change ≠ .continueEvidence grant) : s'.Attempts := by
  refine h.congr hruns fun other hother => ?_
  rw [hversions] at hother
  rcases mem_append.mp hother with hother | hother
  · exact .inl hother
  · exact .inr (mem_singleton.mp hother ▸ hrow)

variable {nodeKey : String} {attempt : Nat}

/-- A change of one run that keeps what its admission fixed, and ends the key's attempts only at the
last of them. -/
lemma updateRun {f : NodeRun → NodeRun} (hf : ∀ run, (f run).reserved = run.reserved)
    (hlast : ∀ run ∈ s.runs, run.nodeKey = nodeKey → run.attempt = attempt → (f run).Final →
      run.attempt = (s.runsOf run.nodeKey).length)
    : (s.updateRun nodeKey attempt f).Attempts := by
  have hsame := s.updateRun_map nodeKey attempt hf
  refine ⟨h.ungranted, fun key => ?_, fun run' hrun' hfinal => ?_, fun run' hrun' => ?_⟩
  · rw [attempts_congr hsame, length_congr hsame]
    exact h.numbered key
  · rw [length_congr hsame]
    obtain ⟨run, hrun, rfl⟩ := mem_map.mp hrun'
    split_ifs at hfinal ⊢ with hat
    · have hreserved := Prod.ext_iff.mp (hf run)
      have hattempt : (f run).attempt = run.attempt := (Prod.ext_iff.mp hreserved.2).1
      have hkey : (f run).nodeKey = run.nodeKey := hreserved.1
      rw [hattempt, hkey]
      exact hlast run hrun hat.1 hat.2 hfinal
    · exact h.last run hrun hfinal
  · obtain ⟨run, hrun, hreserved⟩ := exists_reserved hsame hrun'
    obtain ⟨pin, hpin, hattempt, hbound⟩ := h.pinned run hrun
    obtain ⟨-, hsecond⟩ := Prod.ext_iff.mp hreserved
    obtain ⟨hnumber, hsamePin⟩ := Prod.ext_iff.mp hsecond
    exact ⟨pin, hsamePin.symm.trans hpin, hattempt.trans hnumber, hbound⟩

lemma bind (nodeKey : String) (attempt : Nat) (sessionId : Int) (baseSha : Option String) :
    (s.updateRun nodeKey attempt (·.bind sessionId baseSha)).Attempts :=
  h.updateRun (fun run => run.bind_reserved sessionId baseSha) fun run hrun _ _ hfinal =>
    h.last run hrun (NodeRun.final_of_bind hfinal)

/-- The run that is concluded was open, so it is the last attempt of its key. -/
lemma conclude (status : RunStatus) (evidence : Evidence) (now : Int)
    (hrun : s.getRun nodeKey attempt = some run) (hopen : run.status.terminal = false) :
    (s.updateRun nodeKey attempt (·.conclude status evidence now)).Attempts := by
  have hmem : run ∈ s.runs := mem_of_find?_eq_some hrun
  have hat : run.nodeKey = nodeKey ∧ run.attempt = attempt := by simpa using find?_some hrun
  have hlast := h.last run hmem (.inl hopen)
  refine h.updateRun (fun run => run.conclude_reserved status evidence now) ?_
  intro other _ hkey hattempt _
  rw [hattempt, hkey, ← hat.1, ← hlast, hat.2]

/-- The number a new attempt gets. -/
lemma nextAttempt (key : String) : Task.nextAttempt (s.runsOf key) = (s.runsOf key).length + 1 := by
  rw [Task.nextAttempt, h.numbered, foldl_max_range']

variable {env : Surroundings} {node : PlanNode} {a : Admission}

/-- What an admission adds was admitted in order. -/
lemma admits (hlive : s.liveNode a.nodeKey = some node)
    (hguards : s.admitRefusal env node = none) : s.Admits (newRun env a (s.newPin env a node)) := by
  have hkey : node.nodeKey = a.nodeKey := by simpa using find?_some hlive
  obtain ⟨hbounds, hidle, hspent, hdeps⟩ := admitRefusal_eq_none hguards
  obtain ⟨limit, hlimit⟩ := maxAttempts_of_boundsError hbounds
  have hnext : (newRun env a (s.newPin env a node)).attempt =
      (s.runsOf node.nodeKey).length + 1 := h.nextAttempt node.nodeKey
  refine ⟨hnext, hidle, node, limit, ?_, fun dep hdep => ?_, hlimit, ?_⟩
  · change s.liveNode node.nodeKey = some node
    rw [hkey, hlive]
  · have hmet := hdeps dep hdep
    rw [dependencyMet, Bool.and_eq_true, any_eq_true] at hmet
    obtain ⟨hsome, earlier, hearlier, hstatus⟩ := hmet
    exact ⟨hsome, earlier, hearlier, of_decide_eq_true hstatus⟩
  · rw [h.ungranted.attemptLimit, hlimit] at hspent
    have hspent : (spentAttempts (s.runsOf node.nodeKey) : Int) < limit := hspent
    have hexcused := length_le_spentAttempts (s.runsOf node.nodeKey)
    omega

/-- The bound a pin carries admits the number it carries. -/
lemma newPin_le (hguards : s.admitRefusal env node = none) :
    ((s.newPin env a node).attempt : Int) ≤ (s.newPin env a node).maxAttempts := by
  obtain ⟨-, -, hspent, -⟩ := admitRefusal_eq_none hguards
  change (Task.nextAttempt (s.runsOf node.nodeKey) : Int) ≤ s.attemptLimit node +
    ((s.runsOf node.nodeKey).length - spentAttempts (s.runsOf node.nodeKey) : Nat)
  rw [h.nextAttempt]
  omega

lemma reserve (hlive : s.liveNode a.nodeKey = some node)
    (hguards : s.admitRefusal env node = none) :
    (s.withRun env a (s.newPin env a node)).Attempts := by
  obtain ⟨hnext, hidle, -⟩ := h.admits hlive hguards
  let run := newRun env a (s.newPin env a node)
  have hruns : ∀ key, (s.withRun env a (s.newPin env a node)).runsOf key =
      s.runsOf key ++ if run.nodeKey = key then [run] else [] := by
    intro key
    change (s.runs ++ [run]).filter _ = _
    by_cases hkey : run.nodeKey = key <;> simp [hkey, runsOf]
  refine ⟨h.ungranted, fun key => ?_, fun other hother hfinal => ?_, fun other hother => ?_⟩
  · rw [hruns]
    split_ifs with hkey
    · subst hkey
      rw [map_append, length_append, length_singleton, range'_concat,
        h.numbered]
      change _ ++ [run.attempt] = _
      rw [hnext, Nat.one_mul, Nat.add_comm 1]
    · rw [append_nil]
      exact h.numbered key
  · rw [hruns]
    rcases mem_append.mp hother with hother | hother
    · -- an earlier attempt of the key is over without success
      rw [if_neg, append_nil]
      · exact h.last other hother hfinal
      · intro hkey
        obtain ⟨hterminal, hfailed⟩ := hidle other (mem_runsOf.mpr ⟨hother, hkey.symm⟩)
        rcases hfinal with hopen | hsucceeded
        · rw [hopen] at hterminal
          cases hterminal
        · exact hfailed hsucceeded
    · obtain rfl := mem_singleton.mp hother
      rw [if_pos rfl, length_append, length_singleton]
      exact hnext
  · rcases mem_append.mp hother with hother | hother
    · exact h.pinned other hother
    · obtain rfl := mem_singleton.mp hother
      exact ⟨_, rfl, rfl, h.newPin_le hguards⟩

end Attempts

lemma write_attempts (s s' : Task) (hwrite : Write s s') (h : s.Attempts) : s'.Attempts := by
  cases hwrite with
  | log => exact h.congr rfl fun row hrow => .inl hrow
  | add | discard | renew => exact h.record rfl rfl fun grant hne => by cases hne
  | reserve env a node hfresh hlive hguards => exact h.reserve hlive hguards
  | bind nodeKey attempt sessionId baseSha => exact h.bind nodeKey attempt sessionId baseSha
  | conclude nodeKey attempt status evidence now run hrun hstatus htakes =>
    exact h.conclude status evidence now hrun (NodeRun.open_of_takes htakes)

lemma attempts_run (h : s.Attempts) (calls : List Call) : (s.run calls).Attempts :=
  writes_keep write_attempts h (run_writes s calls)

/-! ## The call that admitted a run -/

lemma commit_runs {takes : Bool} {done : Task × GraphOp} (h : done.1.runs = s.runs) :
    (s.commit takes done).1.runs = s.runs := by
  unfold commit
  split
  · exact h
  · rfl

lemma addNode_runs (s : Task) (cause : Cause) (expectedVersion : Int) (fields : NodeFields) :
    (s.addNode cause expectedVersion fields).1.runs = s.runs := by
  unfold addNode
  split
  · rfl
  · exact commit_runs rfl

lemma discardNode_runs (s : Task) (starts : List FactoryStart) (cause : Cause) (nodeKey : String)
    (expectedVersion : Int) (observedBranchHead : Value) (activitiesClaimWrite : Bool) :
    (s.discardNode starts cause nodeKey expectedVersion observedBranchHead
      activitiesClaimWrite).1.runs = s.runs := by
  unfold discardNode
  split
  · rfl
  · exact commit_runs rfl

lemma applyOneEdit_runs (s : Task) (starts : List FactoryStart) (cause : Cause) (edit : Edit)
    (expectedVersion : Int) :
    (s.applyOneEdit starts cause edit expectedVersion).1.runs = s.runs := by
  cases edit with
  | discardNode => exact discardNode_runs ..
  | addNode => exact addNode_runs ..

lemma applyInOrder_runs {starts : List FactoryStart} {cause : Cause} {edits : List (Nat × Edit)}
    {version version' : Int} (h : applyInOrder starts cause s version edits = .ok (s', version')) :
    s'.runs = s.runs := by
  induction edits generalizing s version with
  | nil =>
    cases h
    rfl
  | cons indexed edits ih =>
    rw [applyInOrder_cons] at h
    split_ifs at h
    exact (ih h).trans (applyOneEdit_runs ..)

lemma applyEdits_runs (s : Task) (starts : List FactoryStart) (cause : Cause)
    (expectedVersion : Int) (edits : Value) :
    (s.applyEdits starts cause expectedVersion edits).1.runs = s.runs := by
  unfold applyEdits
  split
  · rfl
  · split
    · rename_i s' version hloop
      change s'.runs = s.runs
      exact applyInOrder_runs hloop
    · rfl
    · rfl

lemma renewFundedAttempt_runs (s : Task) (target : FundingTarget) (expectedVersion : Int)
    (requestId : Nat) :
      (s.renewFundedAttempt target expectedVersion requestId).1.runs = s.runs := by
  unfold renewFundedAttempt
  split <;> rfl

/-- The ledger after a call. -/
inductive Ledger (s : Task) (call : Call) : List NodeRun → Prop where
  | kept : Ledger s call s.runs
  | admitted (env : Surroundings) (a : Admission) (node : PlanNode)
      (hcall : call = .admitDispatch env a) (hlive : s.liveNode a.nodeKey = some node)
      (hguards : s.admitRefusal env node = none) :
      Ledger s call (s.runs ++ [newRun env a (s.newPin env a node)])
  | bound (nodeKey : String) (attempt : Nat) (sessionId : Int) (baseSha : Option String)
      (run : NodeRun) (hrun : s.getRun nodeKey attempt = some run)
      (hfree : run.bindConflict sessionId baseSha = false) :
      Ledger s call (s.updateRun nodeKey attempt (·.bind sessionId baseSha)).runs
  | concluded (nodeKey : String) (attempt : Nat) (status : RunStatus) (evidence : Evidence)
      (now : Int) (run : NodeRun) (hcall : call = .recordOutcome nodeKey attempt evidence now)
      (hrun : s.getRun nodeKey attempt = some run) (htakes : run.takes evidence = true) :
      Ledger s call (s.updateRun nodeKey attempt (·.conclude status evidence now)).runs

lemma step_ledger (s : Task) (call : Call) : s.Ledger call (s.step call).runs := by
  have hsame (hruns : (s.step call).runs = s.runs) : s.Ledger call (s.step call).runs :=
    hruns ▸ .kept
  have hbound {nodeKey : String} {attempt : Nat} {sessionId : Value} {baseSha : Option String}
      (hcall : s.step call = (s.recordDispatch nodeKey attempt sessionId baseSha).1) :
      s.Ledger call (s.step call).runs := by
    rcases s.recordDispatch_cases nodeKey attempt sessionId baseSha with
      heq | ⟨t, args, version, result, heq, rfl | ⟨run, hrun, hfree, rfl⟩⟩
    · exact hsame (by rw [hcall, heq])
    · exact hsame (by rw [hcall, heq]; rfl)
    · rw [hcall, heq]
      exact .bound nodeKey attempt _ baseSha run hrun hfree
  cases call with
  | addNode => exact hsame (addNode_runs ..)
  | discardNode => exact hsame (discardNode_runs ..)
  | applyEdits => exact hsame (applyEdits_runs ..)
  | renewFundedAttempt => exact hsame (renewFundedAttempt_runs ..)
  | recordDispatch => exact hbound rfl
  | bindNodeSession nodeKey attempt sessionId workflowId =>
    rcases hrefused : s.bindingRefusal nodeKey attempt workflowId with _ | raised
    · have hcall : s.step (.bindNodeSession nodeKey attempt sessionId workflowId) =
          (s.recordDispatch nodeKey attempt sessionId none).1 := by
        simp only [step, bindNodeSession, hrefused]
      exact hbound hcall
    · exact hsame (by simp only [step, bindNodeSession, hrefused])
  | recordOutcome nodeKey attempt evidence now =>
    rcases s.recordOutcome_cases nodeKey attempt evidence now with
      heq | ⟨t, args, version, result, heq, rfl | ⟨run, status, hrun, -, htakes, rfl⟩⟩
    · exact hsame (by rw [step, heq])
    · exact hsame (by rw [step, heq]; rfl)
    · rw [step, heq]
      exact .concluded nodeKey attempt status evidence now run rfl hrun htakes
  | admitDispatch env a =>
    rcases s.admitDispatch_cases env a with
      ⟨refusal, heq⟩ | ⟨run, pin, -, -, heq⟩ | ⟨node, -, -, hlive, hguards, heq⟩
    · exact hsame (by rw [step, heq]; rfl)
    · exact hsame (by rw [step, heq]; rfl)
    · rw [step, heq]
      exact .admitted env a node rfl hlive hguards

lemma mem_of_dispatchedAs {key : Value} (h : s.dispatchedAs key = some run) : run ∈ s.runs := by
  unfold dispatchedAs at h
  split at h
  · exact mem_of_find?_eq_some h
  · simp at h

/-- A call keeps what admissions fixed, or is an admission that adds one run. -/
lemma step_reserved (s : Task) (call : Call) :
    (s.step call).runs.map NodeRun.reserved = s.runs.map NodeRun.reserved ∨
      ∃ env a node, call = .admitDispatch env a ∧ s.liveNode a.nodeKey = some node ∧
        s.admitRefusal env node = none ∧
        (s.step call).runs = s.runs ++ [newRun env a (s.newPin env a node)] := by
  have hledger := s.step_ledger call
  generalize (s.step call).runs = runs at hledger ⊢
  cases hledger with
  | kept => exact .inl rfl
  | admitted env a node hcall hlive hguards => exact .inr ⟨env, a, node, hcall, hlive, hguards, rfl⟩
  | bound nodeKey attempt sessionId baseSha =>
    exact .inl (s.updateRun_map nodeKey attempt fun run => run.bind_reserved sessionId baseSha)
  | concluded nodeKey attempt status evidence now =>
    exact .inl (s.updateRun_map nodeKey attempt fun run =>
      run.conclude_reserved status evidence now)

lemma Admits.congr {before : Task} {run' : NodeRun} (h : before.Admits run)
    (hsame : run.reserved = run'.reserved) : before.Admits run' := by
  have hkey : run.nodeKey = run'.nodeKey := (Prod.ext_iff.mp hsame).1
  have hattempt : run.attempt = run'.attempt := (Prod.ext_iff.mp (Prod.ext_iff.mp hsame).2).1
  obtain ⟨hnext, hidle, hlive⟩ := h
  rw [hkey, hattempt] at hnext hlive
  rw [hkey] at hidle
  exact ⟨hnext, hidle, hlive⟩

/-- Every run was there at the start, or one of the calls admitted it. -/
lemma run_admitted (h : s.Attempts) (calls : List Call) (hrun : run ∈ (s.run calls).runs) :
    (∃ earlier ∈ s.runs, earlier.reserved = run.reserved) ∨
      ∃ before env a after, calls = before ++ .admitDispatch env a :: after ∧
        a.nodeKey = run.nodeKey ∧ (s.run before).Admits run := by
  induction calls generalizing s with
  | nil => exact .inl ⟨run, hrun, rfl⟩
  | cons call calls ih =>
    rcases ih (attempts_run h [call]) hrun with
      ⟨earlier, hearlier, hsame⟩ | ⟨before, env, a, after, rfl, hkey, hadmits⟩
    · rcases s.step_reserved call with hkept | ⟨env, a, node, rfl, hlive, hguards, hruns⟩
      · obtain ⟨first, hfirst, hfirstSame⟩ := exists_reserved hkept hearlier
        exact .inl ⟨first, hfirst, hfirstSame.trans hsame⟩
      · have hearlier : earlier ∈ s.runs ++ [newRun env a (s.newPin env a node)] :=
          hruns ▸ hearlier
        rcases mem_append.mp hearlier with hold | hnew
        · exact .inl ⟨earlier, hold, hsame⟩
        · -- the run of this very call
          obtain rfl := mem_singleton.mp hnew
          have hkey : node.nodeKey = a.nodeKey := by simpa using find?_some hlive
          refine .inr ⟨[], env, a, calls, rfl, ?_, (h.admits hlive hguards).congr hsame⟩
          exact hkey.symm.trans (Prod.ext_iff.mp hsame).1
    · exact .inr ⟨call :: before, env, a, after, rfl, hkey, hadmits⟩

/-- Two attempts of a key with one number are one. -/
lemma Attempts.eq_of_attempt (h : s.Attempts) {a b : NodeRun} (ha : a ∈ s.runsOf key)
    (hb : b ∈ s.runsOf key) (heq : a.attempt = b.attempt) : a = b := by
  have hnodup : ((s.runsOf key).map (·.attempt)).Nodup := by
    rw [h.numbered]
    exact nodup_range'
  exact inj_on_of_nodup_map hnodup ha hb heq

/-- **One attempt at a time, in order, never after success.** In any run of calls on a task that
starts without runs and has no evidence continuation: the attempts of a key are numbered from one
without gaps or repeats; at most one is open; one that succeeded is the last; every attempt was
admitted by a call that found its key idle, its node live and the node's dependencies succeeded,
with a number within the bound then in force and the excused denials; and every pin, stored or
answered, admits its own number. -/
theorem dispatch_in_order (s : Task) (hruns : s.runs = []) (hgrants : s.Ungranted)
    (calls : List Call) : let later := s.run calls
    (∀ key, (later.runsOf key).map (·.attempt) = range' 1 (later.runsOf key).length) ∧
      (∀ key, ∀ a ∈ later.runsOf key, ∀ b ∈ later.runsOf key,
        a.status.terminal = false → b.status.terminal = false → a = b) ∧
      (∀ key, ∀ a ∈ later.runsOf key, ∀ b ∈ later.runsOf key,
        a.status = .succeeded → b.attempt ≤ a.attempt) ∧
      (∀ run ∈ later.runs, ∃ before env a after, calls = before ++ .admitDispatch env a :: after ∧
        a.nodeKey = run.nodeKey ∧ (s.run before).Admits run) ∧
      (∀ run ∈ later.runs, ∃ pin, run.pin = some pin ∧ pin.attempt = run.attempt ∧
        (pin.attempt : Int) ≤ pin.maxAttempts) ∧
      ∀ env a pin, (later.admitDispatch env a).2.pin = some pin →
        (pin.attempt : Int) ≤ pin.maxAttempts := by
  intro later
  have hstart : s.Attempts := by
    refine ⟨hgrants, fun key => ?_, fun run hrun => ?_, fun run hrun => ?_⟩
    · rw [runsOf, hruns]
      rfl
    · exact absurd (hruns ▸ hrun) not_mem_nil
    · exact absurd (hruns ▸ hrun) not_mem_nil
  have h : later.Attempts := attempts_run hstart calls
  -- an attempt that nothing may follow carries the last number
  have hlast : ∀ {key run}, run ∈ later.runsOf key → run.Final →
      run.attempt = (later.runsOf key).length := by
    intro key run hrun hfinal
    obtain ⟨hmem, rfl⟩ := mem_runsOf.mp hrun
    exact h.last run hmem hfinal
  refine ⟨h.numbered, ?_, ?_, fun run hrun => ?_, h.pinned, fun env a pin hpin => ?_⟩
  · intro key a ha b hb hopenA hopenB
    exact h.eq_of_attempt ha hb ((hlast ha (.inl hopenA)).trans (hlast hb (.inl hopenB)).symm)
  · intro key a ha b hb hsucceeded
    have hb' : b.attempt ∈ range' 1 (later.runsOf key).length :=
      h.numbered key ▸ mem_map_of_mem hb
    have hbound := (mem_range'_1.mp hb').2
    rw [hlast ha (.inr hsucceeded)]
    omega
  · refine (run_admitted hstart calls hrun).resolve_left ?_
    rintro ⟨earlier, hearlier, -⟩
    exact absurd (hruns ▸ hearlier) not_mem_nil
  · rcases later.admitDispatch_cases env a with
      ⟨refusal, heq⟩ | ⟨run, stored, hrun, hstored, heq⟩ | ⟨node, -, -, -, hguards, heq⟩
    · rw [heq] at hpin
      simp [refuse, finish] at hpin
    · rw [heq] at hpin
      obtain rfl : stored = pin := Option.some.inj hpin
      obtain ⟨own, hown, -, hbound⟩ := h.pinned run (mem_of_dispatchedAs hrun)
      obtain ⟨hrunPin, -⟩ := Option.filter_eq_some_iff.mp hstored
      obtain rfl : own = stored := Option.some.inj (hown.symm.trans hrunPin)
      exact hbound
    · rw [heq] at hpin
      obtain rfl : later.newPin env a node = pin := Option.some.inj hpin
      exact h.newPin_le hguards

/-- A node that may be tried once is denied capacity, which is excused: its second attempt is
admitted. -/
theorem dispatch_in_order_denied : let s := empty "t" "m" (.int 10) []
    let cause : Cause := ⟨"agent", "a", "decision", none, .null⟩
    let env : Surroundings := ⟨.null, none, "", fun prompt => prompt, fun _ => false, 1, 0⟩
    let admission : Admission := ⟨"a", .null, .null, .null, .null⟩
    let denied : OutcomeJson :=
      ⟨"\x7b\"capacity_denied\": true\x7d", some (.dict [("capacity_denied", .bool true)])⟩
    let calls := [.addNode cause 0 (plainNode "a" "p"), .admitDispatch env admission,
      .recordOutcome "a" 1 ⟨"failed", .null, none, some denied⟩ 0, .admitDispatch env admission]
    (s.run calls).runs.map (fun run => (run.attempt, run.status)) =
        [(1, .failed), (2, .admitted)] ∧
      ∀ run ∈ (s.run calls).runs, ∃ before env a after,
        calls = before ++ .admitDispatch env a :: after ∧ a.nodeKey = run.nodeKey ∧
          (s.run before).Admits run := by
  intro s cause env admission denied calls
  refine ⟨by decide +kernel, ?_⟩
  exact (dispatch_in_order s rfl (fun _ hrow => absurd hrow not_mem_nil) calls).2.2.2.1

end Task

end Homelab.Factory
