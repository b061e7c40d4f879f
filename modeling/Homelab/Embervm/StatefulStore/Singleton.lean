import Homelab.Lib.Run
import Homelab.Embervm.StatefulStore.Changes

/-!
# At most one live instance

A stateful workload is a singleton: at most one of its instances holds a VM. The gate that says so
sits on the births; a banked instance comes back to life without passing it, by a relight or cold
boot mark, by a destroy intent or by adoption.

* `StatefulStore.wakes` is the workload whose banked instance a call would take to a live state.
* `Admitted` asks what the gate asks, at those calls too: no instance of that workload is live. At a
  restart it asks it of the durable rows.
* `singleton_iff_admitted`: a run keeps the singleton in every state it passes through exactly when
  all of its calls are admitted. `relight_beside_live_instance` is a run with one that is not.
-/

namespace Homelab.Embervm

open Homelab.Lib StatefulState
open Homelab.Embervm.OpLog

namespace StatefulStore

/-! ## Live instances of a table -/

/-- `id` is a live instance of the workload. -/
def Live (t : Table String StatefulInstance) (workload id : String) : Prop :=
  ∃ i, t.lookup id = some i ∧ i.workload = workload ∧ i.state.live = true

/-- No workload has two live instances. -/
def AtMostOneLive (t : Table String StatefulInstance) : Prop :=
  ∀ workload id id', Live t workload id → Live t workload id' → id = id'

variable {s s' : StatefulStore} {t : Table String StatefulInstance} {workload id : String}
  {i i' : StatefulInstance} {l : ChangeLabel}

lemma hasLiveInstance?_iff (s : StatefulStore) (workload : String) :
    s.hasLiveInstance? workload = true ↔ ∃ id, Live s.instances workload id := by
  unfold hasLiveInstance? Live
  rw [Table.exists?_iff]
  simp only [Bool.and_eq_true, decide_eq_true_eq]

lemma live_insert_iff (t : Table String StatefulInstance) (id : String) (i : StatefulInstance)
    (workload id' : String) : Live (t.insert id i) workload id' ↔
      (id' = id ∧ i.workload = workload ∧ i.state.live = true) ∨
        (id' ≠ id ∧ Live t workload id') := by
  unfold Live
  by_cases h : id' = id
  · subst h
    simp
  · simp [h]

/-- A row written keeps the singleton when no other instance of its workload is live, should the row
be. -/
lemma AtMostOneLive.insert (h : AtMostOneLive t)
    (hother : i.state.live = true → ∀ id', id' ≠ id → ¬ Live t i.workload id') :
    AtMostOneLive (t.insert id i) := by
  intro w a b ha hb
  rw [live_insert_iff] at ha hb
  rcases ha with ⟨rfl, hw, hlive⟩ | ⟨hne, ha⟩
  · rcases hb with ⟨rfl, -, -⟩ | ⟨hne', hb⟩
    · rfl
    · exact absurd (hw ▸ hb) (hother hlive b hne')
  · rcases hb with ⟨rfl, hw, hlive⟩ | ⟨-, hb⟩
    · exact absurd (hw ▸ ha) (hother hlive a hne)
    · exact h w a b ha hb

/-- A row rewritten in its workload keeps the singleton when it was live, is not live now, or
nothing in its workload was. -/
lemma AtMostOneLive.rewrite (h : AtMostOneLive s.instances) (hi : s.instances.lookup id = some i)
    (hworkload : i'.workload = i.workload)
    (hsafe : i'.state.live = true → i.state.live = true ∨ s.hasLiveInstance? i.workload = false) :
    AtMostOneLive (s.instances.insert id i') := by
  refine h.insert fun hlive id' hne hl => ?_
  rw [hworkload] at hl
  rcases hsafe hlive with hwas | hnone
  · exact hne (h i.workload id' id hl ⟨i, hi, rfl, hwas⟩)
  · rw [← Bool.not_eq_true, hasLiveInstance?_iff] at hnone
    exact hnone ⟨id', hl⟩

/-! ## Changes -/

variable (db : StatefulTables)

/-- What the durable rows have to say for a restart to find a singleton. -/
def DurableSingleton : Prop :=
  ∀ id id' row row', db.instances.lookup id = some row → db.instances.lookup id' = some row' →
    row.workload = row'.workload → row.state.live = true → row'.state.live = true → id = id'

lemma live_rebuild_iff (workload id : String) : Live (rebuild db).instances workload id ↔
      ∃ row, db.instances.lookup id = some row ∧ row.workload = workload ∧
        row.state.live = true := by
  unfold Live rebuild
  simp only [Table.lookup_mapVal, Option.map_eq_some_iff]
  constructor
  · rintro ⟨i, ⟨row, hrow, rfl⟩, hw, hlive⟩
    exact ⟨row, hrow, hw, hlive⟩
  · rintro ⟨row, hrow, hw, hlive⟩
    exact ⟨_, ⟨row, hrow, rfl⟩, hw, hlive⟩

lemma atMostOneLive_rebuild_iff : AtMostOneLive (rebuild db).instances ↔ DurableSingleton db := by
  unfold AtMostOneLive DurableSingleton
  simp only [live_rebuild_iff]
  constructor
  · intro h id id' row row' hrow hrow' hw hlive hlive'
    exact h row.workload id id' ⟨row, hrow, rfl, hlive⟩ ⟨row', hrow', hw.symm, hlive'⟩
  · rintro h w id id' ⟨row, hrow, hw, hlive⟩ ⟨row', hrow', hw', hlive'⟩
    exact h id id' row row' hrow hrow' (hw.trans hw'.symm) hlive hlive'

/-- The changes that keep the singleton. -/
def ChangeLabel.safe (s : StatefulStore) : ChangeLabel → Prop
  | .moved _ i _ next _ => next.live = true →
      i.state.live = true ∨ s.hasLiveInstance? i.workload = false
  | .held _ i i' => i'.state.live = true →
      i.state.live = true ∨ s.hasLiveInstance? i.workload = false
  | .restarted => DurableSingleton s.db
  | _ => True

lemma AtMostOneLive.change (h : AtMostOneLive s.instances) (hc : Change s l s')
    (hsafe : l.safe s) : AtMostOneLive s'.instances := by
  have hf := hc.frame
  cases hc with
  | @born attrs birth ts db volumeTs hgate hdb =>
    obtain ⟨volumes, hs⟩ := insertBorn_eq s db attrs ts volumeTs
    rw [hs]
    refine h.insert fun _ id' _ hl => ?_
    rw [← Bool.not_eq_true, hasLiveInstance?_iff] at hgate
    exact hgate ⟨id', hl⟩
  | @moved id i kind ts db next updates volumeTs hi hkind hdb =>
    obtain ⟨volumes, hs⟩ := putMoved_eq s db id i kind next updates ts volumeTs
    obtain ⟨hstate, hworkload⟩ := state_moved i kind next updates ts
    rw [hs]
    exact h.rewrite hi hworkload fun hlive => hsafe (hstate ▸ hlive)
  | held counts hi hworkload => exact h.rewrite hi hworkload hsafe
  | pruned cutoff batch scan => exact h
  | unreported hop hdb => exact h
  | restarted => exact (atMostOneLive_rebuild_iff s.db).mpr hsafe
  | _ =>
    rw [hf.instances rfl]
    exact h

/-! ## Calls -/

/-- The events that take a banked instance to a live state. -/
def wakingEvent (event : StatefulEvent) : Bool :=
  event = .relight || event = .coldBoot || event = .beginDestroy

variable (s)

/-- The workload of the instance, when it is banked. -/
def bankedWorkload (id : String) : Option String :=
  ((s.instances.lookup id).filter fun i => i.state = .banked).map StatefulInstance.workload

/-- The workload whose banked instance the call would take to a live state. -/
def wakes : StatefulCall → Option String
  | .markWith id event _ _ => if wakingEvent event then s.bankedWorkload id else none
  | .transition id move io _ =>
    if wakingEvent move.event && io.fault.isNone then s.bankedWorkload id else none
  | .adoptState id new _ _ => if new = .banked then none else s.bankedWorkload id
  | _ => none

/-- A call that wakes an instance is made while no instance of its workload is live, a restart while
the durable rows are a singleton. -/
def Admitted : StatefulCall → Prop
  | .restart => DurableSingleton s.db
  | call => ∀ workload ∈ s.wakes call, s.hasLiveInstance? workload = false

variable {s}

lemma bankedWorkload_eq (hi : s.instances.lookup id = some i) (hbanked : i.state = .banked) :
    s.bankedWorkload id = some i.workload := by
  simp [bankedWorkload, hi, hbanked]

/-- An edge into life leaves `banked` by a waking event. -/
lemma waking_of_transition {st next : StatefulState} {event : StatefulEvent}
    (hn : st.transition event = .ok next) (hlive : next.live = true) :
    st.live = true ∨ (st = .banked ∧ wakingEvent event = true) := by
  rcases hst : st.live with _ | _
  · obtain ⟨hbanked, hevent⟩ := live_of_transition hn hst hlive
    refine .inr ⟨hbanked, ?_⟩
    rcases hevent with rfl | rfl | rfl <;> rfl
  · exact .inl rfl

/-- A state that is neither terminal nor live is `banked`. -/
lemma banked_of_not_live {st : StatefulState} (hterm : st.terminal = false)
    (hlive : st.live = false) : st = .banked := by
  cases st <;> simp_all [terminal, live]

/-- **Admitted calls make safe changes only.** -/
theorem safe_of_makes {call : StatefulCall} (hadm : s.Admitted call) {t : StatefulStore}
    (hm : call.makes s t l) : l.safe t := by
  cases l with
  | moved id i kind next updates =>
    intro hlive
    cases movedBy_of_makes hm with
    | transition hi hn hfault =>
      refine (waking_of_transition hn hlive).imp_right fun ⟨hbanked, hwaking⟩ => ?_
      refine hadm _ ?_
      simp [wakes, hwaking, hfault, bankedWorkload_eq hi hbanked]
    | publish hi hn =>
      exact (waking_of_transition hn hlive).imp_right fun h => absurd h.2 (by decide)
    | adoptBankedBundle | eagerEvict => exact absurd hlive (by decide)
  | held id i i' =>
    intro hlive
    cases heldBy_of_makes hm with
    | unpublish hi hn =>
      rw [(state_marked i _ _ _).1] at hlive
      exact (waking_of_transition hn hlive).imp_right fun h => absurd h.2 (by decide)
    | markWith hi hn =>
      rw [(state_marked i _ _ _).1] at hlive
      refine (waking_of_transition hn hlive).imp_right fun ⟨hbanked, hwaking⟩ => ?_
      refine hadm _ ?_
      simp [wakes, hwaking, bankedWorkload_eq hi hbanked]
    | @adoptState new updates ts hi hterm =>
      rw [(state_adopted i new updates ts).1] at hlive
      rcases hst : i.state.live with _ | _
      · have hnew : new ≠ .banked := by
          rintro rfl
          exact absurd hlive (by decide)
        refine .inr (hadm _ ?_)
        simp [wakes, hnew, bankedWorkload_eq hi (banked_of_not_live hterm hst)]
      · exact .inl rfl
    | setHealth => exact .inl hlive
    | touchActive => exact .inl hlive
    | adoptEndpoint => exact .inl hlive
  | restarted =>
    obtain ⟨rfl, rfl⟩ := restart_of_makes hm
    exact hadm
  | _ => trivial

/-! ## Runs -/

lemma bankedWorkload_eq_some (h : s.bankedWorkload id = some workload) :
    ∃ i, s.instances.lookup id = some i ∧ i.state = .banked ∧ i.workload = workload := by
  obtain ⟨i, hi, hw⟩ := Option.map_eq_some_iff.mp h
  obtain ⟨hl, hb⟩ := Option.filter_eq_some_iff.mp hi
  exact ⟨i, hl, by simpa using hb, hw⟩

/-- A waking event has an edge from `banked`, to a live state. -/
lemma transition_of_waking {event : StatefulEvent} (h : wakingEvent event = true) :
    ∃ next, banked.transition event = .ok next ∧ next.live = true := by
  cases event <;> first | exact absurd h (by decide) | exact ⟨_, rfl, rfl⟩

/-- A call that wakes a workload does put one of its banked instances into a live state. -/
lemma live_of_wakes {call : StatefulCall} (h : s.wakes call = some workload) :
    ∃ id i i', s.instances.lookup id = some i ∧ i.state = .banked ∧
      (s.step call).instances = s.instances.insert id i' ∧ i'.workload = workload ∧
      i'.state.live = true := by
  cases call with
  | markWith id event updates ts =>
    simp only [wakes] at h
    split at h
    · rename_i hwaking
      obtain ⟨i, hi, hbanked, hw⟩ := bankedWorkload_eq_some h
      obtain ⟨next, hn, hlive⟩ := transition_of_waking hwaking
      obtain ⟨hstate, hworkload⟩ := state_marked i next updates ts
      refine ⟨id, i, marked i next updates ts, hi, hbanked, ?_, hworkload.trans hw, ?_⟩
      · simp [step, doMarkWithUpdates, fetch, hi, hbanked, hn]
      · rw [hstate]
        exact hlive
    · simp at h
  | transition id move io volumeTs =>
    simp only [wakes] at h
    split at h
    · rename_i hwaking
      rw [Bool.and_eq_true, Option.isNone_iff_eq_none] at hwaking
      obtain ⟨i, hi, hbanked, hw⟩ := bankedWorkload_eq_some h
      cases move with
      | beginDestroy reason =>
        obtain ⟨hstate, hworkload⟩ :=
          state_moved i (.destroying (some reason)) .destroying {} io.ts
        have hedge : banked.transition .beginDestroy = .ok .destroying := rfl
        refine ⟨id, i, moved i (.destroying (some reason)) .destroying {} io.ts, hi, hbanked,
          ?_, hworkload.trans hw, hstate ▸ rfl⟩
        simp [step, transition, doTransition, fetch, hi, hbanked, DurableMove.event,
          DurableMove.kind, DurableMove.updates, hedge, appendAndUpdate, hwaking.2,
          StatefulTables.append, answered, StatefulTables.project, moveOp, putMoved]
      | _ => exact absurd hwaking.1 (by simp [DurableMove.event, wakingEvent])
    · simp at h
  | adoptState id new updates ts =>
    simp only [wakes] at h
    split at h
    · simp at h
    · obtain ⟨i, hi, hbanked, hw⟩ := bankedWorkload_eq_some h
      obtain ⟨hstate, hworkload⟩ := state_adopted i new updates ts
      have hne : banked ≠ new.state := by
        cases new <;> simp_all [AdoptedState.state]
      refine ⟨id, i, adopted i new updates ts, hi, hbanked, ?_, hworkload.trans hw, ?_⟩
      · simp [step, adoptState, hi, hne, hbanked, terminal]
      · cases new <;> simp_all [AdoptedState.state, live]
  | _ => simp [wakes] at h

/-- The singleton after a call that wakes a workload says that nothing in it was live. -/
lemma admitted_of_atMostOneLive {call : StatefulCall}
    (h' : AtMostOneLive (s.step call).instances) : s.Admitted call := by
  have hwakes : ∀ workload ∈ s.wakes call, s.hasLiveInstance? workload = false := by
    intro workload hw
    obtain ⟨id, i, i', hi, hbanked, hins, hworkload, hlive⟩ := live_of_wakes hw
    rw [hins] at h'
    rw [← Bool.not_eq_true, hasLiveInstance?_iff]
    rintro ⟨id', hl⟩
    -- the banked row is not the live one
    have hne : id' ≠ id := by
      rintro rfl
      obtain ⟨j, hj, -, hjlive⟩ := hl
      rw [hi] at hj
      obtain rfl := Option.some.inj hj
      rw [hbanked] at hjlive
      exact absurd hjlive (by decide)
    exact hne (h' workload id' id ((live_insert_iff _ _ _ _ _).mpr (.inr ⟨hne, hl⟩))
      ((live_insert_iff _ _ _ _ _).mpr (.inl ⟨rfl, hworkload, hlive⟩)))
  cases call with
  | restart => exact (atMostOneLive_rebuild_iff s.db).mp h'
  | _ => exact hwakes

/-- **The singleton, exactly.** For every run of calls, with any append outcomes and restarts: each
workload has at most one live instance in every state the run passes through exactly when every call
that would take a banked instance to a live state is made while its workload has no live instance
(and every restart while no workload has two live durable rows). -/
theorem singleton_iff_admitted (calls : List StatefulCall) : Along step Admitted init calls ↔
      ∀ n, AtMostOneLive (run step init (calls.take n)).instances := by
  refine along_iff_forall_take (fun s : StatefulStore => AtMostOneLive s.instances)
    (fun s : StatefulStore => AtMostOneLive s.instances) ?_ (fun _ h => h) ?_ ?_ calls
  · intro s call h hadm
    exact (step_path s call fun t l hm => safe_of_makes hadm hm).induction
      (fun s => AtMostOneLive s.instances) (fun h hsafe hc => h.change hc hsafe) h
  · intro s call _ h'
    exact admitted_of_atMostOneLive h'
  · rintro w id id' ⟨i, hi, -⟩
    simp [init, rebuild, StatefulTables.empty, Table.lookup_mapVal] at hi

/-! ## A run that leaves the singleton -/

/-- The first boot of an instance of `pg`. -/
def boot (id : String) (ts : Int) : StatefulCall :=
  .start ⟨id, "homelab", none, "pg", some "brick-a", some ("vm-" ++ id), 1, none⟩ .started
    ⟨ts, none⟩ ts

/-- `x` boots, serves and is banked; `y` boots beside the bundle; `x` is marked for a relight. -/
def relightBeside : List StatefulCall :=
  [boot "x" 1, .publish "x" "10.0.0.2" 5432 "ready" ⟨2, none⟩, .markWith "x" .bank {} 3,
    .transition "x" (.bankReady "snap-x" 10 1 "brick-a") ⟨4, none⟩ 4, boot "y" 5,
    .markWith "x" .relight {} 6]

/-- Both births passed the gate, the mark has none: `x` is relighting beside `y`. -/
theorem relight_beside_live_instance : let s := run step init relightBeside
    ((s.instances.lookup "x").map fun i => (i.workload, i.state)) = some ("pg", .relighting) ∧
      ((s.instances.lookup "y").map fun i => (i.workload, i.state)) = some ("pg", .starting) ∧
      relighting.live = true ∧ starting.live = true := by
  decide +kernel

end StatefulStore

end Homelab.Embervm
