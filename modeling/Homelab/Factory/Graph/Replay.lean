import Homelab.Factory.Graph.Attempts

/-!
# Admissions under a dispatch key

A dispatch key belongs to one run, which is looked up before anything else of an admission. No call
changes what was fixed when the run was admitted, so an admission that is repeated under its key
answers with the first one's attempt and pin (`dispatch_idempotent`), whatever became of the plan.
-/

namespace Homelab.Factory.Task

open List

variable {s s' : Task} {key : String} {a : Admission} {run : NodeRun} {pin : Pin}

/-! ## The runs of a key -/

/-- The runs under a dispatch key. -/
def runsUnder (s : Task) (key : String) : List NodeRun :=
  s.runs.filter (·.dispatchKey = some key)

lemma dispatchedAs_eq_head? (s : Task) (key : String) :
    s.dispatchedAs (.str key) = (s.runsUnder key).head? := by
  rw [runsUnder, head?_filter]
  rfl

lemma runsUnder_append (hruns : s'.runs = s.runs ++ [run]) (key : String) :
    s'.runsUnder key = s.runsUnder key ++ if run.dispatchKey = some key then [run] else [] := by
  rw [runsUnder, hruns, filter_append]
  split_ifs with hkey <;> simp [runsUnder, hkey]

/-- What admissions fixed stays for the runs of a key; a key that has none may get one. -/
def Settled (s s' : Task) (key : String) : Prop :=
  (s'.runsUnder key).map NodeRun.reserved = (s.runsUnder key).map NodeRun.reserved ∨
    s.runsUnder key = [] ∧ (s'.runsUnder key).length = 1

lemma write_settled (h : Write s s') (key : String) : s.Settled s' key := by
  -- a rewritten run keeps its key and what was fixed of it
  have hupdate (nodeKey : String) (attempt : Nat) {f : NodeRun → NodeRun}
      (hf : ∀ run, ((f run).dispatchKey, (f run).reserved) = (run.dispatchKey, run.reserved)) :
      s.Settled (s.updateRun nodeKey attempt f) key := by
    have hread (t : Task) : (t.runsUnder key).map NodeRun.reserved =
        ((t.runs.map fun run => (run.dispatchKey, run.reserved)).filter (·.1 = some key)).map
          Prod.snd := by
      rw [filter_map, map_map]
      rfl
    exact .inl (by rw [hread, hread, s.updateRun_map nodeKey attempt hf])
  cases h with
  | reserve env a node hfresh hlive hguards =>
    have hadded : (s.withRun env a (s.newPin env a node)).runsUnder key = _ :=
      runsUnder_append rfl key
    split_ifs at hadded with hkey
    · -- the key was nobody's, so the new run is its only one
      have hstr : a.dispatchKey = .str key := by
        change a.dispatchKey.asStr = some key at hkey
        cases hvalue : a.dispatchKey <;> simp_all [Value.asStr]
      rw [hstr, dispatchedAs_eq_head?, head?_eq_none_iff] at hfresh
      exact .inr ⟨hfresh, by rw [hadded, hfresh]; rfl⟩
    · exact .inl (by rw [hadded, append_nil])
  | bind nodeKey attempt | conclude nodeKey attempt => exact hupdate nodeKey attempt fun _ => rfl
  | _ => exact .inl rfl

lemma run_settled (s : Task) (calls : List Call) (key : String) : s.Settled (s.run calls) key := by
  refine writes_keep (I := fun t => s.Settled t key) (fun t t' hwrite ht => ?_) (.inl rfl)
    (run_writes s calls)
  rcases write_settled hwrite key with hsame' | ⟨hnone', hone'⟩
  · refine ht.imp hsame'.trans fun ⟨hnone, hone⟩ => ⟨hnone, ?_⟩
    rw [← length_map NodeRun.reserved, hsame', length_map, hone]
  · rcases ht with hsame | ⟨-, hone⟩
    · rw [hnone'] at hsame
      exact .inr ⟨map_eq_nil_iff.mp hsame.symm, hone'⟩
    · rw [hnone'] at hone
      cases hone

/-- The run of a dispatch key stays the run of that key. -/
lemma run_dispatchedAs (calls : List Call) (hrun : s.dispatchedAs (.str key) = some run) :
    ∃ later, (s.run calls).dispatchedAs (.str key) = some later ∧
      later.reserved = run.reserved := by
  rw [dispatchedAs_eq_head?] at hrun ⊢
  rcases s.run_settled calls key with hsame | ⟨hnone, -⟩
  · rw [← Option.map_eq_some_iff, ← head?_map, hsame, head?_map, hrun]
    rfl
  · rw [hnone] at hrun
    cases hrun

/-! ## Repeated admissions -/

lemma replayPin_eq_some :
    replayPin a run = some pin ↔ run.pin = some pin ∧ run.nodeKey = a.nodeKey ∧
      Value.normItems
          (pin.context.filter fun item => item.1 ∈ contextFields ∨ item.1 = "read_only") =
        Value.normItems a.contextItems := by
  simp [replayPin, Option.filter_eq_some_iff]

/-- A context that passes the request checks has only fields that the pin is compared on. -/
lemma contextItems_filter {env : Surroundings} (h : requestRefusal env a = none) :
    a.contextItems.filter (fun item => item.1 ∈ contextFields ∨ item.1 = "read_only") =
      a.contextItems := by
  simp only [requestRefusal, Option.orElse_eq_orElse, Option.orElse_eq_or, Option.or_eq_none_iff,
    refuseIf_eq_none, Admission.contextInvalid, Bool.or_eq_false_iff] at h
  obtain ⟨-, ⟨⟨-, -⟩, hfields⟩, -⟩ := h
  refine filter_eq_self.mpr fun item hitem => ?_
  have hfield : ¬ (item.1 ∉ contextFields ∧ ¬ (item.1 = "read_only" ∧ a.readOnly = true)) := by
    simpa using any_eq_false.mp hfields item hitem
  rw [decide_eq_true_eq]
  by_contra hother
  rw [not_or] at hother
  exact hfield ⟨hother.1, fun hread => hother.2 hread.1⟩

/-- An admission under a key that succeeds leaves the key with a run that it would replay, and
answers with that run's attempt and pin. -/
lemma admitDispatch_ok {env : Surroundings} (hkey : a.dispatchKey = .str key)
    (hok : (s.admitDispatch env a).2.ok = true) :
    ∃ run pin, (s.admitDispatch env a).1.dispatchedAs (.str key) = some run ∧
      replayPin a run = some pin ∧ (s.admitDispatch env a).2.pin = some pin ∧
      (s.admitDispatch env a).2.attempt = some run.attempt := by
  rcases s.admitDispatch_cases env a with
    ⟨refusal, heq⟩ | ⟨run, pin, hrun, hpin, heq⟩ | ⟨node, hrequest, hfresh, hlive, -, heq⟩
  · rw [heq] at hok
    simp [refuse, finish] at hok
  · rw [heq]
    exact ⟨run, pin, hkey ▸ hrun, hpin, rfl, rfl⟩
  · rw [heq]
    refine ⟨newRun env a (s.newPin env a node), s.newPin env a node, ?_, ?_, rfl, rfl⟩
    · rw [hkey, dispatchedAs] at hfresh
      change (s.runs ++ [newRun env a (s.newPin env a node)]).find? _ = _
      rw [find?_append, hfresh]
      simp [newRun, hkey, Value.asStr]
    · have hnode : node.nodeKey = a.nodeKey := by simpa using find?_some hlive
      exact replayPin_eq_some.mpr ⟨rfl, hnode, congrArg _ (contextItems_filter hrequest)⟩

/-- **A dispatch key admits once.** In every run of calls on a task a dispatch key gets at most one
run. After an admission under the key has succeeded, whatever calls follow: another one under the
key that succeeds answers with the same attempt and the same pin; and one for another node or
another context is refused, for the key unless the request itself is refused, with the plan and the
ledger left as they are. -/
theorem dispatch_idempotent (s : Task) (calls : List Call) (key : String) :
    ((s.run calls).runsUnder key).length ≤ max 1 (s.runsUnder key).length ∧
    ∀ env a, a.dispatchKey = .str key → (s.admitDispatch env a).2.ok = true →
      let later := (s.admitDispatch env a).1.run calls
      ∀ env' a', a'.dispatchKey = .str key →
        ((later.admitDispatch env' a').2.ok = true →
          (later.admitDispatch env' a').2.attempt = (s.admitDispatch env a).2.attempt ∧
          (later.admitDispatch env' a').2.pin = (s.admitDispatch env a).2.pin) ∧
        (a'.nodeKey ≠ a.nodeKey ∨
            Value.normItems a'.contextItems ≠ Value.normItems a.contextItems →
          (later.admitDispatch env' a').2.ok = false ∧
          (requestRefusal env' a' = none →
            (later.admitDispatch env' a').2.refusalCode = some "dispatch_key_conflict") ∧
          (later.admitDispatch env' a').1 =
            { later with calls := (later.admitDispatch env' a').1.calls }) := by
  refine ⟨?_, fun env a hkey hok => ?_⟩
  · rcases s.run_settled calls key with hsame | ⟨-, hone⟩
    · rw [← length_map NodeRun.reserved, hsame, length_map]
      exact le_max_right _ _
    · rw [hone]
      exact le_max_left _ _
  · intro later env' a' hkey'
    obtain ⟨run, pin, hrun, hpin, hanswer, hattempt⟩ := admitDispatch_ok hkey hok
    obtain ⟨kept, hkept, hsame⟩ : ∃ kept, later.dispatchedAs (.str key) = some kept ∧
        kept.reserved = run.reserved := run_dispatchedAs calls hrun
    obtain ⟨hnode, hnumber, hpins⟩ : kept.nodeKey = run.nodeKey ∧ kept.attempt = run.attempt ∧
        kept.pin = run.pin := by simpa [NodeRun.reserved] using hsame
    obtain ⟨hstored, hnode', hcontext⟩ := replayPin_eq_some.mp hpin
    refine ⟨fun hok' => ?_, fun hother => ?_⟩
    · rcases later.admitDispatch_cases env' a' with
        ⟨refusal, heq⟩ | ⟨run', pin', hrun', hpin', heq⟩ | ⟨node, -, hfresh, -, -, -⟩
      · rw [heq] at hok'
        simp [refuse, finish] at hok'
      · rw [hkey', hkept] at hrun'
        obtain rfl := Option.some.inj hrun'
        obtain ⟨hstored', -⟩ := replayPin_eq_some.mp hpin'
        rw [heq, hattempt, hanswer]
        refine ⟨congrArg some hnumber, ?_⟩
        exact (hstored'.symm.trans hpins).trans hstored
      · rw [hkey', hkept] at hfresh
        simp at hfresh
    · have hconflict : replayPin a' kept = none := by
        rw [Option.eq_none_iff_forall_ne_some]
        intro pin' hpin'
        obtain ⟨hstored', hkeptNode, hkeptContext⟩ := replayPin_eq_some.mp hpin'
        obtain rfl : pin' = pin := Option.some.inj (hstored'.symm.trans (hpins.trans hstored))
        rcases hother with hother | hother
        · exact hother (hkeptNode.symm.trans (hnode.trans hnode'))
        · exact hother (hkeptContext.symm.trans hcontext)
      obtain ⟨refusal, heq, hcode⟩ : ∃ refusal, later.admitDispatch env' a' =
          later.refuse "admit_dispatch" a'.args refusal ∧
            (requestRefusal env' a' = none → refusal.code = "dispatch_key_conflict") := by
        unfold admitDispatch
        rcases requestRefusal env' a' with _ | refusal
        · simp only [hkey', hkept, hconflict]
          exact ⟨_, rfl, fun _ => rfl⟩
        · exact ⟨refusal, rfl, fun hnone => by cases hnone⟩
      rw [heq]
      exact ⟨rfl, fun hrequest => congrArg some (hcode hrequest), rfl⟩

/-- A plan of one node. -/
def onePlanned : Task :=
  (empty "t" "m" (.int 10) []).step
    (.addNode ⟨"agent", "a", "decision", none, .null⟩ 0 (plainNode "a" "p"))

/-- What an admission sees of a system that has nothing to say. -/
def quiet : Surroundings := ⟨.null, none, "", fun prompt => prompt, fun _ => false, 1, 0⟩

/-- The node is admitted under a key, the plan gets another node, the first admission is repeated
with another model, and the key is used for the new node. -/
theorem dispatch_idempotent_replayed : let a : Admission := ⟨"a", .str "k", .null, .null, .null⟩
    let calls := [.addNode ⟨"agent", "a", "decision", none, .null⟩ 1 (plainNode "b" "p")]
    let later := (onePlanned.admitDispatch quiet a).1.run calls
    (later.admitDispatch quiet { a with model := .str "n" }).2.pin =
        (onePlanned.admitDispatch quiet a).2.pin ∧
      (later.admitDispatch quiet { a with nodeKey := "b" }).2.refusalCode =
        some "dispatch_key_conflict" ∧ later.nodes.length = 2 ∧ later.runs.length = 1 := by
  intro a calls later
  have h := (dispatch_idempotent onePlanned calls "k").2 quiet a rfl (by decide +kernel) quiet
  refine ⟨((h { a with model := .str "n" } rfl).1 (by decide +kernel)).2, ?_, by decide +kernel⟩
  exact ((h { a with nodeKey := "b" } rfl).2 (.inl (by decide))).2.1 (by decide +kernel)

/-- A key reused with a context that is none is refused for the context: the request is checked
before the ledger is read. The refusal is recorded. -/
theorem reused_key_other_refusal : let a : Admission := ⟨"a", .str "k", .null, .null, .null⟩
    let later := (onePlanned.admitDispatch quiet a).1
    let reused := later.admitDispatch quiet { a with executionContext := .dict [("x", .null)] }
    (onePlanned.admitDispatch quiet a).2.ok = true ∧
      reused.2.refusalCode = some "invalid_execution_context" ∧
      reused.1.calls.length = later.calls.length + 1 := by
  decide +kernel

end Homelab.Factory.Task
