import Homelab.Lib.Run
import Homelab.Embervm.StatefulStore.Changes

/-!
# What a restart finds

The store writes an event twice, in two independent ways: into the row in memory and, through the
op-log, into the projection a restart rebuilds from. The two drift apart: marks and adoptions are in
memory only, and an append that times out may be below only. What is kept is that an instance that
goes on in memory has a durable row that goes on (`Rooted`), unless an append that was to end it
timed out. So a restart forgets no such instance (`restart_keeps_instances`).
-/

namespace Homelab.Embervm

open Homelab.Lib Table StatefulState
open Homelab.Embervm.OpLog

/-! ## Rows of the projection -/

/-- The kinds that end an instance. -/
def OpLog.StatefulOpKind.ends : StatefulOpKind → Bool
  | .evicted _ | .destroyed _ | .failed _ => true
  | _ => false

/-- An op that ends no instance leaves a row that is not terminal so. -/
lemma OpLog.StatefulOpKind.onRow_not_terminal {kind : StatefulOpKind} {row : StatefulRow}
    (hends : kind.ends = false) (hrow : row.state.terminal = false) (ts : Int) :
    (kind.onRow ts row).state.terminal = false := by
  cases kind <;> first
    | exact hrow
    | rfl
    | simp [StatefulOpKind.ends] at hends

/-- An accepted op that does not end an instance leaves its row, if that is not terminal, so. -/
lemma OpLog.StatefulTables.project_not_terminal {t t' : StatefulTables} {op : StatefulOp}
    (h : t.project op = .ok t') {id : String} {row : StatefulRow}
    (hrow : t.instances.lookup id = some row) (hlive : row.state.terminal = false)
    (hends : op.instanceId = some id → op.kind.ends = false) :
    ∃ row', t'.instances.lookup id = some row' ∧ row'.state.terminal = false := by
  by_cases hid : op.instanceId = some id
  · rcases hmove : op.kind.isMove with _ | _
    · rcases hw : op.kind.writes .instances with _ | _
      · exact ⟨row, by rw [(frame_project h).instances hw, hrow], hlive⟩
      · -- the kinds that write instances and move none are the births, which need a new id
        rcases op with ⟨kind, tenant, principal, workload, instanceId, ts⟩
        cases kind with
        | started nodeId vmId generation | coldBooted nodeId vmId generation reason =>
          obtain ⟨hnone, -⟩ := project_birth hid h
          rw [hnone] at hrow
          cases hrow
        | _ =>
          first
          | (simp [StatefulOpKind.writes] at hw; done)
          | simp [StatefulOpKind.isMove] at hmove
    · refine ⟨op.kind.onRow op.ts row, ?_, StatefulOpKind.onRow_not_terminal (hends hid) hlive _⟩
      rw [instances_project_of_isMove hid hmove h, lookup_update_self, hrow]
      rfl
  · exact ⟨row, (lookup_project_of_ne hid h).trans hrow, hlive⟩

namespace StatefulStore

variable {s s' t : StatefulStore} {l : ChangeLabel} {id : String} {call : StatefulCall}

/-- Both kinds of birth make a row that is starting. -/
lemma lookup_birthOp {attrs : StartAttrs} {birth : Birth} {ts : Int} {db : StatefulTables}
    (hdb : s.db.project (birthOp attrs birth ts) = .ok db) :
    ∃ row, db.instances = s.db.instances.insert attrs.instanceId row ∧ row.state = .starting := by
  have hbirth : (s.db.insertStatefulInstance (birthOp attrs birth ts) .starting attrs.nodeId
      attrs.vmId attrs.generation).map
      (fun t => t.bumpVolumeGeneration (birthOp attrs birth ts) attrs.generation) = .ok db := by
    cases birth <;> exact hdb
  exact (StatefulTables.project_birth rfl hbirth).2

/-! ## Durable rows -/

/-- The instance, unless it is terminal in memory, has a durable row that is not terminal either. -/
def Rooted (id : String) (s : StatefulStore) : Prop :=
  ∀ i, s.instances.lookup id = some i → i.state.terminal = false →
    ∃ row, s.db.instances.lookup id = some row ∧ row.state.terminal = false

/-- What the handlers checked before they moved or rewrote an instance. -/
def ChangeLabel.checked : ChangeLabel → Prop
  | .moved _ i kind next _ => i.state.terminal = false ∧ (kind.ends = true → next.terminal = true)
  | .held _ i i' => i'.state.terminal = false → i.state.terminal = false
  | _ => True

/-- The change does not end the instance below while memory goes on. -/
def ChangeLabel.roots (id : String) : ChangeLabel → Prop
  | .unreported op => op.instanceId = some id → op.kind.ends = false
  | _ => True

/-- **Change.** A checked change keeps the durable row. -/
lemma Rooted.change (h : Rooted id s) (hc : Change s l s') (hl : l.checked) (hr : l.roots id) :
    Rooted id s' := by
  have hf := hc.frame
  cases hc with
  | @born attrs birth ts db volumeTs hgate hdb =>
    obtain ⟨volumes, hs⟩ := insertBorn_eq s db attrs ts volumeTs
    obtain ⟨row, hrows, hstate⟩ := lookup_birthOp hdb
    rw [hs]
    intro i hi hterm
    show ∃ row, db.instances.lookup id = some row ∧ _
    rw [hrows]
    obtain ⟨rfl, -⟩ | ⟨hne, hi⟩ := of_lookup_insert hi
    · exact ⟨row, AList.lookup_insert _, by rw [hstate]; rfl⟩
    · rw [AList.lookup_insert_ne hne]
      exact h i hi hterm
  | @moved id' j kind ts db next updates volumeTs hj hkind hdb =>
    obtain ⟨volumes, hs⟩ := putMoved_eq s db id' j kind next updates ts volumeTs
    rw [hs]
    intro i hi hterm
    obtain ⟨rfl, rfl⟩ | ⟨hne, hi⟩ := of_lookup_insert hi
    · -- the row goes on with the instance: an op that ends it would have ended it in memory
      obtain ⟨row, hrow, hlive⟩ := h j hj hl.1
      rw [(state_moved j kind next updates ts).1] at hterm
      refine StatefulTables.project_not_terminal hdb hrow hlive fun _ => ?_
      by_contra hends
      rw [hl.2 (Bool.not_eq_false _ ▸ hends)] at hterm
      cases hterm
    · obtain ⟨row, hrow, hlive⟩ := h i hi hterm
      exact StatefulTables.project_not_terminal hdb hrow hlive fun hid =>
        absurd (Option.some.inj hid).symm hne
  | @held id' j j' counts hj hworkload =>
    intro i hi hterm
    change (s.instances.insert id' j').lookup id = some i at hi
    obtain ⟨rfl, rfl⟩ | ⟨-, hi⟩ := of_lookup_insert hi
    · exact h j hj (hl hterm)
    · exact h i hi hterm
  | pruned cutoff batch scan =>
    intro i hi hterm
    obtain ⟨row, hrow, hlive⟩ := h i hi hterm
    have hthin := thinned_deleteLimit s.db.instances (q := StatefulTables.aged cutoff)
      (fun _ _ h => h) batch scan
    exact ⟨row, hthin.lookup_of_not hrow (by simp [StatefulTables.aged, hlive]), hlive⟩
  | @unreported op db hop hdb =>
    intro i hi hterm
    obtain ⟨row, hrow, hlive⟩ := h i hi hterm
    exact StatefulTables.project_not_terminal hdb hrow hlive hr
  | restarted =>
    intro i hi hterm
    change ((s.db.instances.mapVal fun _ row => rowToInstance row).lookup id) = some i at hi
    rw [lookup_mapVal, Option.map_eq_some_iff] at hi
    obtain ⟨row, hrow, rfl⟩ := hi
    exact ⟨row, hrow, hterm⟩
  | _ =>
    intro i hi hterm
    rw [hf.instances rfl] at hi
    rw [hf.db.instances rfl]
    exact h i hi hterm

/-! ## Calls -/

/-- Every change a call makes was checked. -/
lemma checked_of_makes (hm : call.makes s t l) : l.checked := by
  cases l with
  | moved id i kind next updates =>
    cases movedBy_of_makes hm with
    | @transition move st _ _ _ hn _ =>
      refine ⟨not_terminal_of_transition hn, fun hends => ?_⟩
      -- only the edges of the table survive `cases hn`, each with the state it leads to
      cases move <;> first
        | exact absurd hends Bool.false_ne_true
        | (cases hstate : i.state <;> rw [hstate] at hn <;> cases hn <;> rfl)
    | publish _ hn => exact ⟨not_terminal_of_transition hn, nofun⟩
    | adoptBankedBundle hterm => exact ⟨hterm, nofun⟩
    | eagerEvict hbanked => exact ⟨by rw [hbanked]; rfl, fun _ => rfl⟩
  | held id i i' =>
    cases heldBy_of_makes hm with
    | unpublish _ hn | markWith _ hn => exact fun _ => not_terminal_of_transition hn
    | adoptState _ hterm => exact fun _ => hterm
    | setHealth => exact fun h => h
    | touchActive => exact fun h => h
    | adoptEndpoint => exact fun h => h
  | _ => trivial

/-- The calls that were to end an instance and whose append timed out. -/
def endsLate (id : String) : StatefulCall → Bool
  | .transition id' move io _ => id' = id && move.kind.ends && io.fault = some .timedOut
  | .eagerEvictBrokenPairs _ io => (io id).fault = some .timedOut
  | _ => false

/-- A call that does not end the instance late makes no change that does. -/
lemma roots_of_makes (hd : endsLate id call = false) (hm : call.makes s t l) : l.roots id := by
  cases l with
  | unreported op =>
    intro hid
    have hop := withholds_of_makes hm
    cases call with
    | start attrs birth io volumeTs =>
      obtain ⟨-, rfl⟩ := hop
      cases birth <;> rfl
    | transition id' move io volumeTs =>
      obtain ⟨hfault, i, -, rfl⟩ := hop
      obtain rfl := Option.some.inj hid
      show move.kind.ends = false
      simpa [endsLate, hfault] using hd
    | publish id' ip port reason io =>
      obtain ⟨-, i, rfl⟩ := hop
      rfl
    | adoptBankedBundle id' nodeId bundle io =>
      obtain ⟨-, i, rfl⟩ := hop
      rfl
    | eagerEvictBrokenPairs scan io =>
      obtain ⟨id', i, hfault, rfl⟩ := hop
      obtain rfl := Option.some.inj hid
      simp [endsLate, hfault] at hd
    | adoptExportedGeneration w anchorNodeId generation io =>
      obtain ⟨-, rfl⟩ := hop
      rfl
    | createVolume w f io | deleteVolume w io =>
      obtain ⟨-, rfl⟩ := hop
      rfl
    | upsertVolume | blessGeneration | ensureBlessingLease | recordCheckpointDispatch
    | clearCheckpointDispatch => simp [hop.1] at hid
    | _ => exact hop.elim
  | _ => trivial

/-- **Step.** So does a call whose ending append does not time out. -/
lemma Rooted.step (h : Rooted id s) (hd : endsLate id call = false) : Rooted id (s.step call) :=
  (step_path s call fun _ _ hm => And.intro (checked_of_makes hm) (roots_of_makes hd hm)).induction
    (Rooted id) (fun h hl hc => h.change hc hl.1 hl.2) h

/-! ## Runs -/

/-- A volume, the first boot on it and its endpoint. -/
def served : List StatefulCall :=
  [.createVolume "pg" ⟨some "brick-a", 1, none, none, none⟩ ⟨1, none⟩,
    .start ⟨"x", "homelab", none, "pg", some "brick-a", some "vm-x", 2, none⟩ .started ⟨2, none⟩ 2]

/-- The publish of `x` times out and lands. -/
def latePublish : List StatefulCall :=
  served ++ [.publish "x" "10.0.0.2" 5432 "ready" ⟨3, some .timedOut⟩]

/-- **A restart forgets no instance that is not over.** After any calls, failed appends, compactions
and restarts in which no append that was to end the instance timed out, the instance, if it is not
terminal in memory, is rebuilt, and not as a terminal one. -/
theorem restart_keeps_instances (calls : List StatefulCall) (id : String) (i : StatefulInstance)
    (hcalls : ∀ call ∈ calls, endsLate id call = false)
    (hi : (run step init calls).instances.lookup id = some i) (hlive : i.state.terminal = false) :
    ∃ i', (run step init (calls ++ [.restart])).instances.lookup id = some i' ∧
      i'.state.terminal = false := by
  have hrooted : Rooted id (run step init calls) := by
    refine run_induction (Rooted id) (fun _ _ h hd => h.step hd) ?_
      (along_of_forall_mem (fun call hc _ => hcalls call hc) init)
    intro i hi
    simp [init, rebuild, StatefulTables.empty, lookup_mapVal] at hi
  obtain ⟨row, hrow, hterm⟩ := hrooted i hi hlive
  refine ⟨rowToInstance row, ?_, hterm⟩
  rw [run_append, run_cons, run_nil]
  exact (lookup_mapVal _ _ id).trans (congrArg (Option.map _) hrow)

/-- The publish that timed out is no danger to the instance. -/
theorem restart_keeps_served :
    ∃ i, (run step init (latePublish ++ [.restart])).instances.lookup "x" = some i ∧
      i.state.terminal = false :=
  restart_keeps_instances latePublish "x" _ (by decide +kernel)
    (Option.some_get (by decide +kernel)).symm (by decide +kernel)

end StatefulStore

end Homelab.Embervm
