import Homelab.Factory.Graph.Attempts

/-!
# The evidence on a run

What a run was found to cost and the head it left are evidence. A run that is over is closed, but
for a base revision that was not known before. An open one takes what the next outcome says, so its
evidence stays exactly as long as every outcome it takes carries some itself (`evidence_kept`).
-/

namespace Homelab.Factory

open Homelab.Lib

lemma Value.asFloat_eq_null {value : Value} : value.asFloat = .null ↔ value = .null := by
  cases value <;> simp [asFloat]

/-- What calls leave of a run: one that is over takes at most a base revision, if it had none and is
bound to a session. -/
def NodeRun.Stays (run later : NodeRun) : Prop :=
  run.status.terminal = true → ∃ baseSha, later = { run with baseSha := baseSha } ∧
    (baseSha = run.baseSha ∨ run.baseSha = none ∧ run.sessionId.isSome = true)

lemma NodeRun.stays_refl (run : NodeRun) : run.Stays run :=
  fun _ => ⟨run.baseSha, rfl, .inl rfl⟩

lemma NodeRun.Stays.trans {run middle later : NodeRun} (h : run.Stays middle)
    (h' : middle.Stays later) : run.Stays later := by
  intro hterminal
  obtain ⟨base, rfl, hbase⟩ := h hterminal
  obtain ⟨base', rfl, hbase'⟩ := h' hterminal
  refine ⟨base', rfl, ?_⟩
  rcases hbase' with rfl | ⟨hnone, hbound⟩
  · exact hbase
  · exact hbase.elim (fun hsame => .inr ⟨hsame ▸ hnone, hbound⟩) .inr

lemma NodeRun.stays_bind {run : NodeRun} {sessionId : Int} {baseSha : Option String}
    (h : run.bindConflict sessionId baseSha = false) : run.Stays (run.bind sessionId baseSha) := by
  intro hterminal
  have hbound : run.sessionId.isSome = true := by
    by_contra hnone
    rw [bindConflict, Bool.or_eq_false_iff] at h
    cases hstatus : run.status <;> simp_all [RunStatus.terminal]
  obtain ⟨session, hsession⟩ := Option.isSome_iff_exists.mp hbound
  refine ⟨run.baseSha.or baseSha, by simp [bind, hsession], ?_⟩
  rcases hbase : run.baseSha with _ | sha
  · exact .inr ⟨rfl, hbound⟩
  · exact .inl rfl

/-- What one call makes of a run: its evidence is as it was, or that of an outcome it takes. -/
structure Call.Leaves (call : Call) (run later : NodeRun) : Prop where
  stays : run.Stays later
  evidence : later.costUsd = run.costUsd ∧ later.headSha = run.headSha ∨
    ∃ evidence now, call = .recordOutcome run.nodeKey run.attempt evidence now ∧
      run.takes evidence = true ∧ later.costUsd = evidence.costUsd.asFloat ∧
        later.headSha = evidence.headSha

lemma Call.leaves_refl (call : Call) (run : NodeRun) : call.Leaves run run :=
  ⟨run.stays_refl, .inl ⟨rfl, rfl⟩⟩

namespace Task

variable {s t : Task} {nodeKey : String} {attempt : Nat} {run : NodeRun}

/-- The run after the runs with its number were rewritten. -/
lemma getRun_updateRun (h : s.getRun nodeKey attempt = some run) (k : String) (n : Nat)
    {f : NodeRun → NodeRun} (hf : ∀ run, (f run).reserved = run.reserved) :
    (s.updateRun k n f).getRun nodeKey attempt =
      some (if run.nodeKey = k ∧ run.attempt = n then f run else run) := by
  unfold getRun updateRun at *
  rw [List.find?_map, Function.comp_def, Option.map_eq_some_iff]
  refine ⟨run, ?_, rfl⟩
  rw [← h]
  congr 1
  funext other
  have hreserved := Prod.ext_iff.mp (hf other)
  have hattempt := (Prod.ext_iff.mp hreserved.2).1
  split_ifs
  · simp only [NodeRun.reserved] at hreserved hattempt
    rw [hreserved.1, hattempt]
  · rfl

/-- **Step.** What a call leaves of a run. -/
lemma step_leaves (h : s.getRun nodeKey attempt = some run) (call : Call) :
    ∃ later, (s.step call).getRun nodeKey attempt = some later ∧ call.Leaves run later := by
  have hat : run.nodeKey = nodeKey ∧ run.attempt = attempt := by simpa using List.find?_some h
  have hledger := s.step_ledger call
  unfold getRun
  generalize (s.step call).runs = runs at hledger ⊢
  cases hledger with
  | kept => exact ⟨run, h, call.leaves_refl run⟩
  | admitted env a node =>
    refine ⟨run, ?_, call.leaves_refl run⟩
    rw [List.find?_append, show s.runs.find? _ = _ from h]
    rfl
  | bound k n sessionId baseSha other hother hfree =>
    refine ⟨_, getRun_updateRun h k n fun _ => rfl, ?_⟩
    split_ifs with hnumber
    · rw [← hnumber.1, ← hnumber.2, hat.1, hat.2, h] at hother
      obtain rfl := Option.some.inj hother
      exact ⟨NodeRun.stays_bind hfree, .inl ⟨rfl, rfl⟩⟩
    · exact call.leaves_refl run
  | concluded k n status evidence now other hcall hother htakes =>
    refine ⟨_, getRun_updateRun h k n fun _ => rfl, ?_⟩
    split_ifs with hnumber
    · rw [← hnumber.1, ← hnumber.2] at hother hcall
      rw [hat.1, hat.2, h] at hother
      obtain rfl := Option.some.inj hother
      refine ⟨fun hterminal => ?_, .inr ⟨evidence, now, hcall, htakes, rfl, rfl⟩⟩
      rw [NodeRun.open_of_takes htakes] at hterminal
      cases hterminal
    · exact call.leaves_refl run

end Task

/-- A kind of evidence: what it is on a run, and in an outcome. -/
structure EvidenceKind where
  on : NodeRun → Prop
  carried : Evidence → Prop
  on_conclude : ∀ run status evidence now,
    on (NodeRun.conclude run status evidence now) ↔ carried evidence
  on_congr : ∀ run later : NodeRun, later.costUsd = run.costUsd → later.headSha = run.headSha →
    (on later ↔ on run)

/-- A measured cost. -/
def EvidenceKind.cost : EvidenceKind where
  on run := run.costUsd ≠ .null
  carried evidence := evidence.costUsd ≠ .null
  on_conclude _ _ _ _ := Value.asFloat_eq_null.not
  on_congr run later hcost _ := by rw [hcost]

/-- The revision the run left. -/
def EvidenceKind.head : EvidenceKind where
  on run := run.headSha.isSome = true
  carried evidence := evidence.headSha.isSome = true
  on_conclude _ _ _ _ := .rfl
  on_congr run later _ hhead := by rw [hhead]

namespace Task

variable (kind : EvidenceKind) (nodeKey : String) (attempt : Nat)

/-- The run has evidence of the kind. -/
def Shows (s : Task) : Prop := ∃ run, s.getRun nodeKey attempt = some run ∧ kind.on run

/-- The call is no outcome that the run takes, or one that carries evidence of the kind. -/
def Carries (s : Task) (call : Call) : Prop :=
  ∀ evidence now run, call = .recordOutcome nodeKey attempt evidence now →
    s.getRun nodeKey attempt = some run → run.takes evidence = true → kind.carried evidence

variable {kind nodeKey attempt} {s : Task} {call : Call}

/-- An outcome that carries evidence of the kind leaves some, and no other call takes it away. -/
lemma Shows.step (h : s.Shows kind nodeKey attempt) (hc : s.Carries kind nodeKey attempt call) :
    (s.step call).Shows kind nodeKey attempt := by
  obtain ⟨run, hrun, hon⟩ := h
  have hat : run.nodeKey = nodeKey ∧ run.attempt = attempt := by simpa using List.find?_some hrun
  obtain ⟨later, hlater, hleaves⟩ := step_leaves hrun call
  refine ⟨later, hlater, ?_⟩
  rcases hleaves.evidence with ⟨hcost, hhead⟩ | ⟨evidence, now, hcall, htakes, hcost, hhead⟩
  · exact (kind.on_congr run later hcost hhead).mpr hon
  · rw [hat.1, hat.2] at hcall
    have hcarried := hc evidence now run hcall hrun htakes
    refine (kind.on_congr (run.conclude .failed evidence now) later hcost hhead).mpr ?_
    exact (kind.on_conclude run .failed evidence now).mpr hcarried

/-- An outcome that the run takes leaves evidence of the kind only if it carries some. -/
lemma carries_of_shows (h : (s.step call).Shows kind nodeKey attempt) :
    s.Carries kind nodeKey attempt call := by
  rintro evidence now run rfl hrun htakes
  have hat : run.nodeKey = nodeKey ∧ run.attempt = attempt := by simpa using List.find?_some hrun
  obtain ⟨status, hruns⟩ := recordOutcome_of_takes s nodeKey attempt hrun htakes now
  obtain ⟨later, hlater, hon⟩ := h
  have hconcluded := getRun_updateRun hrun nodeKey attempt
    fun run => run.conclude_reserved status evidence now
  rw [if_pos hat] at hconcluded
  unfold getRun at hlater hconcluded
  rw [step, hruns, hconcluded] at hlater
  obtain rfl := Option.some.inj hlater
  exact (kind.on_conclude run status evidence now).mp hon

lemma shows_iff_carries (h : s.Shows kind nodeKey attempt) (calls : List Call) :
    (∀ n, (s.run (calls.take n)).Shows kind nodeKey attempt) ↔
      Along step (Carries kind nodeKey attempt) s calls :=
  (along_iff_forall_take (Shows kind nodeKey attempt) (Shows kind nodeKey attempt)
    (fun _ _ h hc => h.step hc) (fun _ h => h) (fun _ _ _ h => carries_of_shows h) h calls).symm

/-- **Evidence stays.** In every run of calls on a task: a terminal run takes at most a base
revision that it did not have; a run with a cost has one in every later state exactly as long as
every outcome that it takes carries one; and the same for its head. -/
theorem evidence_kept (s : Task) (calls : List Call) (nodeKey : String) (attempt : Nat)
    (run : NodeRun) (h : s.getRun nodeKey attempt = some run) :
    (∃ later, (s.run calls).getRun nodeKey attempt = some later ∧ run.Stays later) ∧
      (run.costUsd ≠ .null → ((∀ n, (s.run (calls.take n)).Shows .cost nodeKey attempt) ↔
        Along step (Carries .cost nodeKey attempt) s calls)) ∧
      (run.headSha.isSome = true → ((∀ n, (s.run (calls.take n)).Shows .head nodeKey attempt) ↔
        Along step (Carries .head nodeKey attempt) s calls)) := by
  refine ⟨?_, fun hcost => shows_iff_carries ⟨run, h, hcost⟩ calls,
    fun hhead => shows_iff_carries ⟨run, h, hhead⟩ calls⟩
  induction calls generalizing s run with
  | nil => exact ⟨run, h, run.stays_refl⟩
  | cons call calls ih =>
    obtain ⟨middle, hmiddle, hleaves⟩ := step_leaves h call
    obtain ⟨later, hlater, hstays⟩ := ih (s.step call) middle hmiddle
    exact ⟨later, hlater, hleaves.stays.trans hstays⟩

/-- An uncertain run with a measured cost refuses an outcome without one, settles at another cost
and then gets its base revision. -/
theorem evidence_kept_settled : let run : NodeRun :=
      ⟨1, "a", 1, none, none, .null, .int 1, some 7, .uncertain, .int 1, none, none, none, none⟩
    let s := empty "t" "m" (.int 10) [run]
    let calls := [.recordOutcome "a" 1 ⟨"uncertain", .null, none, none⟩ 0,
      .recordOutcome "a" 1 ⟨"failed", .int 2, none, none⟩ 0,
      .recordDispatch "a" 1 (.int 7) (some "b")]
    run.costUsd ≠ .null ∧ ∀ n, (s.run (calls.take n)).Shows .cost "a" 1 := by
  intro run s calls
  have hmeasured : run.costUsd ≠ .null := by simp [run]
  refine ⟨hmeasured,
    ((evidence_kept s calls "a" 1 run rfl).2.1 hmeasured).mpr ⟨?_, ?_, ?_, trivial⟩⟩
  · -- the run was uncertain before, so it does not take the first outcome
    rintro evidence now other hcall hother htakes
    cases hcall
    obtain rfl : run = other := Option.some.inj hother
    exact absurd htakes (by decide +kernel)
  · rintro evidence now other hcall - -
    cases hcall
    simp [EvidenceKind.cost]
  · rintro evidence now other hcall
    cases hcall

/-- A run that is over takes a base revision from its own session. And an uncertain run with a
measured cost loses it to an outcome without one. -/
theorem terminal_run_changed : let run : NodeRun :=
      ⟨1, "a", 1, none, none, .null, .int 1, none, .admitted, .null, none, none, none, none⟩
    let s := (empty "t" "m" (.int 10) [run]).run [.recordDispatch "a" 1 (.int 7) none,
      .recordOutcome "a" 1 ⟨"failed", .int 1, none, none⟩ 0]
    let t := (empty "t" "m" (.int 10) [run]).run [.recordDispatch "a" 1 (.int 7) none,
      .recordOutcome "a" 1 ⟨"uncertain", .int 1, none, none⟩ 0]
    ((s.getRun "a" 1).map (fun run => (run.status, run.baseSha)) = some (.failed, none) ∧
      ((s.step (.recordDispatch "a" 1 (.int 7) (some "b"))).getRun "a" 1).map
        (fun run => (run.status, run.baseSha)) = some (.failed, some "b")) ∧
      (t.getRun "a" 1).map (·.costUsd) = some (.float (.finite 1)) ∧
      ((t.step (.recordOutcome "a" 1 ⟨"failed", .null, none, none⟩ 1)).getRun "a" 1).map
        (·.costUsd) = some .null := by
  decide +kernel

end Task

end Homelab.Factory
