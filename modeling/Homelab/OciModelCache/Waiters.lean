import Homelab.OciModelCache.Gate

/-!
# Pods waiting for a ready cache

The visit of a Ready cache does nothing about pods: they are listed once, by the reconcile that made
the cache Ready. A pod whose admission read the cache before that and is let in after the listing
keeps its gate, whatever reconciles follow (`late_pod_waits`). Without such a pod, nothing waits for
a cache that is Ready and whose reconcile is over (`none_waits_for_ready`).
-/

namespace Homelab.OciModelCache

open Homelab.Lib List Option Cluster

/-- What is left of a reconcile comes to this pod. -/
def Task.attends (id : PodId) : Task → Bool
  | .write .. => false
  | .list _ => true
  | .patch _ todo => todo.any fun q => q.1 = id

def Cluster.attended (s : Cluster) (n : Text) (id : PodId) : Bool :=
  (s.tasks.lookup n).any (Task.attends id)

def Cluster.isReady (s : Cluster) (n : Text) : Bool :=
  (s.caches.lookup n).any fun mc => mc.status.phase = .ready

/-- No pod is let in to wait for the Ready cache `n` after its reconcile listed the pods, and the
calls of that reconcile succeed. -/
def inTime (n : Text) (s : Cluster) : Event → Bool
  | .respond id => (s.admissions.lookup id).all fun a =>
      a.todo ≠ [] ∨ a.admitted.waitingFor ≠ some n ∨ s.isReady n = false ∨ s.attended n id = true
  | .write n' d => n' ≠ n ∨ d ≠ .lost
  | .list n' ok => n' ≠ n ∨ ok
  | .patch n' d => n' ≠ n ∨ d ≠ .refused
  | _ => true

/-- Of a Ready cache, the reconcile in flight comes to every pod that waits. -/
structure Attended (n : Text) (s : Cluster) : Prop where
  pods : s.isReady n = true → ∀ id p, s.pods.lookup id = some p → p.waitingFor = some n →
    s.attended n id = true
  writes : ∀ v st u, s.tasks.lookup n = some (.write v st u) → st.phase = .ready → u.isSome

section

variable {env : Env} {s : Cluster} {e : Event} {n : Text} {id : PodId} {p : Pod}

/-- A reconcile does not leave a pod that still waits. -/
lemma attended_step (h : s.attended n id = true) (hg : inTime n s e = true)
    (hp : s.pods.lookup id = some p) (hp' : (s.step env e).pods.lookup id = some p)
    (hwaits : p.waitingFor = some n) : (s.step env e).attended n id = true := by
  obtain ⟨t, htask, hatt⟩ := (any_eq_true _ _).mp h
  cases e with
  | reconcile name a =>
    change (s.reconcile env name a).attended n id = true
    unfold reconcile
    split
    · exact h
    · split
      · exact h
      · rename_i hnone
        have hne : n ≠ name := by
          rintro rfl
          exact hnone (isSome_of_eq_some htask)
        simp only [attended, act]
        split
        · rwa [Table.lookup_insert, if_neg hne]
        · exact h
  | write name d =>
    change (s.write name d).attended n id = true
    unfold write
    split
    · rename_i hwrite
      have hne : n ≠ name := by
        rintro rfl
        cases htask.symm.trans hwrite
        cases hatt
      split <;> rwa [attended, setTask_tasks, if_neg hne]
    · exact h
  | list name ok =>
    change (s.list name ok).attended n id = true
    unfold list
    split
    · rw [attended, setTask_tasks]
      split
      · subst name
        obtain rfl : ok = true := by simpa [inTime] using hg
        have hmem : (id, p) ∈ s.waiting n :=
          mem_filter.mpr ⟨mem_map.mpr ⟨⟨id, p⟩, AList.mem_lookup_iff.mp hp, rfl⟩, by
            simp [Pod.waits, hwaits]⟩
        exact List.any_eq_true.mpr ⟨(id, p), hmem, decide_eq_true rfl⟩
      · exact h
    · exact h
  | patch name d =>
    change (s.patch name d).pods.lookup id = _ at hp'
    change (s.patch name d).attended n id = true
    unfold patch at hp' ⊢
    split
    · rename_i ref id' listed todo hpatch
      simp only [hpatch] at hp'
      by_cases hn : n = name
      · subst name
        have hd : d ≠ .refused := by simpa [inTime] using hg
        rw [if_neg hd] at hp' ⊢
        cases htask.symm.trans hpatch
        refine (congrArg _ ((setTask_tasks _ _ _).trans (if_pos rfl))).trans ?_
        rcases Bool.or_eq_true_iff.mp hatt with hid | hlater
        · -- the patch removes the annotation
          rw [setTask_pods, ← of_decide_eq_true hid, Table.lookup_update, if_pos rfl] at hp'
          obtain ⟨p₀, -, rfl⟩ := map_eq_some_iff.mp hp'
          cases hwaits
        · exact hlater
      · split <;> exact (congrArg _ ((setTask_tasks _ _ _).trans (if_neg hn))).trans h
    · rename_i hpatch
      have hne : n ≠ name := by
        rintro rfl
        cases htask.symm.trans hpatch
        cases hatt
      rwa [attended, setTask_tasks, if_neg hne]
    · exact h
  | _ => rwa [attended, (step_keeps env s _).tasks rfl]

/-- A visit that writes Ready has the waiting pods looked for. -/
lemma visit_ready_ungate {mc : ModelCache} {cfg : Config} {jobs : Table Text Job} {a : Answers}
    {st : Status} (hwrite : (visit mc cfg n jobs a).write = some st) (hready : st.phase = .ready) :
    (visit mc cfg n jobs a).ungate.isSome := by
  have hv := visit_visited mc cfg n jobs a
  generalize visit mc cfg n jobs a = v at hwrite hv ⊢
  cases hv with
  | idle | orphaned _ => cases hwrite
  | settled hp _ =>
    obtain rfl := some.inj hwrite
    rcases hp with hp | hp <;> rw [hp] at hready <;> cases hready
  | resolved _ _ | started _ =>
    obtain rfl := some.inj hwrite
    cases hready
  | hit _ _ | reported _ _ _ | unreported _ _ _ => rfl

lemma Attended.step (h : Attended n s) (hg : inTime n s e = true) : Attended n (s.step env e) where
  pods := by
    intro hready id p hp' hwaits
    obtain ⟨mc', hmc', hphase⟩ := (any_eq_true _ _).mp hready
    have hready' : ∀ mc, s.caches.lookup n = some mc → mc.status.phase = .ready →
        s.isReady n = true := fun mc hmc hphase => by simp [isReady, hmc, hphase]
    cases podMove hp' with
    | kept hp =>
      have hkept : s.isReady n = true → (s.step env e).attended n id = true := fun hr =>
        attended_step (h.pods hr id p hp hwaits) hg hp hp' hwaits
      cases cacheMove hmc' with
      | kept hmc => exact hkept (hready' _ hmc (of_decide_eq_true hphase))
      | made _ _ => cases of_decide_eq_true hphase
      | edited hmc => exact hkept (hready' _ hmc (of_decide_eq_true hphase))
      | stored hmc htask =>
        rename_i mc d st u
        obtain ⟨ref, rfl⟩ := isSome_iff_exists.mp
          (h.writes _ _ _ htask (of_decide_eq_true hphase))
        cases d with
        | answered => simp [step, write, htask, accepts, hmc, attended, setTask_tasks, Task.attends]
        | refused =>
          -- nothing was stored, so the resource version is the old one
          simp only [step, write, htask, true_or, if_true, setTask_caches, hmc, some.injEq] at hmc'
          exact absurd (congrArg ModelCache.resourceVersion hmc') (by simp)
        | lost => simp [inTime] at hg
    | admitted ha hdone =>
      have hkeeps := step_keeps env s (.respond id)
      rw [isReady, hkeeps.caches rfl] at hready
      rw [attended, hkeeps.tasks rfl]
      rw [inTime, ha, all_some, decide_eq_true_iff] at hg
      rcases hg with htodo | hnot | hunready | hatt
      · exact absurd hdone htodo
      · exact absurd hwaits hnot
      · exact absurd hready (by simp_all [isReady])
      · exact hatt
    | patched _ _ => cases hwaits
  writes := by
    intro v st u ht hready
    generalize htask : Task.write v st u = t at ht
    cases taskMove ht with
    | kept hold => exact h.writes v st u (htask ▸ hold) hready
    | begun _ _ hwrite =>
      obtain ⟨-, rfl, rfl⟩ := Task.write.inj htask
      exact visit_ready_ungate hwrite hready
    | listing | patching | popped => cases htask

end

/-- **Nothing waits for a Ready cache**, once a reconcile of it is over, in every run whose pods are
let in before the cache's pods are listed. -/
theorem none_waits_for_ready {env : Env} {es : List Event} {n : Text}
    (h : Along (step env) (fun s e => inTime n s e = true) .empty es) {mc : ModelCache}
    {r : ResolveResult} (hmc : (reach env es).caches.lookup n = some mc)
    (hready : calculate mc = .ready r) (hsame : hasSpecChanged mc = false)
    (hidle : (reach env es).tasks.lookup n = none) (a : Answers) :
    (reach env (es ++ [.reconcile n a])).tasks.lookup n = none ∧
      ∀ id p, (reach env (es ++ [.reconcile n a])).pods.lookup id = some p →
        p.waitingFor ≠ some n := by
  have hphase : (reach env es).isReady n = true := by
    have hc := calculate_eq_claimed hready (fun p => by simp)
    unfold Status.claimed at hc
    split at hc <;> cases hc
    simp [isReady, hmc, ‹mc.status.phase = _›]
  have hinv : Attended n (reach env es) :=
    run_induction (Attended n) (fun s e hs hg => hs.step hg)
      ⟨fun hr => absurd hr (by simp [isReady, empty]),
        fun _ _ _ ht => absurd ht (by simp [empty])⟩ h
  have hstep : reach env (es ++ [.reconcile n a]) = reach env es := by
    rw [reach_snoc]
    simp [step, reconcile, hmc, hidle, visit, hready, visitReady, hsame, act, Visit.idle]
  rw [hstep]
  refine ⟨hidle, fun id p hp hwaits => ?_⟩
  have hatt := hinv.pods hphase id p hp hwaits
  rw [attended, hidle] at hatt
  cases hatt

/-- The patches of `twoModels` are over. -/
theorem none_waits_for_ready_first : let es := twoModels ++ [.patch "o-a".toList .answered]
    ∃ p, (reach sampleEnv (es ++ [.reconcile "o-a".toList silent])).pods.lookup 0 = some p ∧
      p.waitingFor ≠ some "o-a".toList := by
  intro es
  have hguard : Along (step sampleEnv) (fun s e => inTime "o-a".toList s e = true) .empty es := by
    decide +kernel
  have hend : ((reach sampleEnv es).caches.lookup "o-a".toList).any (fun mc =>
      (calculate mc = .ready (sampleResolution "r/o/a:rev-main".toList).result) ∧
        hasSpecChanged mc = false) = true := by
    decide +kernel
  have hpod :
      ((reach sampleEnv (es ++ [.reconcile "o-a".toList silent])).pods.lookup 0).isSome := by
    decide +kernel
  obtain ⟨mc, hmc, hboth⟩ := (any_eq_true _ _).mp hend
  obtain ⟨hready, hsame⟩ := of_decide_eq_true hboth
  obtain ⟨p, hp⟩ := isSome_iff_exists.mp hpod
  exact ⟨p, hp, (none_waits_for_ready hguard hmc hready hsame (by decide +kernel) silent).2 0 p hp⟩

/-- The same, with the pod let in after the reconcile of its cache. -/
def lateResponse : List Event :=
  twoModels.eraseIdx 5 ++ [.patch "o-a".toList .answered, .respond 0]

/-- It is there before the reconcile of the Ready cache and waits after it. -/
theorem late_pod_waits : ((reach sampleEnv lateResponse).caches.lookup "o-a".toList).any (fun mc =>
        calculate mc = .ready (sampleResolution "r/o/a:rev-main".toList).result ∧
          hasSpecChanged mc = false) = true ∧
      (reach sampleEnv lateResponse).tasks.lookup "o-a".toList = none ∧
      ((reach sampleEnv lateResponse).pods.lookup 0).isSome = true ∧
      ((reach sampleEnv (lateResponse ++ [.reconcile "o-a".toList silent])).pods.lookup 0).any
        (fun p => p.waitingFor = some "o-a".toList) = true := by
  decide +kernel

end Homelab.OciModelCache
