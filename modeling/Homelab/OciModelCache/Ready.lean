import Homelab.OciModelCache.Provenance

/-!
# What Ready promises

Two readings of the same invariant.

* A cache that is Ready, and whose observed generation is its generation, names a reference obtained
  for the spec of that generation (`ready_reflects_spec`).
* As long as specs stay as they are, a cache becomes Ready from Syncing only on a job built for
  itself (`ready_from_own_job`).

Both need the runs of their guards. A spec edited while a job runs is stamped as observed by the
write that ends the job; and a job's name is the tag of the reference alone, so that two caches can
share one.
-/

namespace Homelab.OciModelCache

open Homelab.Lib Option Cluster

/-! ## Samples -/

/-- A registry `r` and no flags. -/
def sampleEnv : Env :=
  let hub := sampleHub [] ⟨[], [], none⟩
  ⟨hub, ⟨hub.unicode, hub.digest, ['r'], []⟩⟩

def sampleSpec (repo : Text) : Spec := ⟨repo, ['r'], "main".toList, [], [], []⟩

def sampleResolution (ref : Text) : Resolution :=
  ⟨ref, "sha256:".toList ++ ref, false, "main".toList, "gguf".toList, 1, 7⟩

/-- All calls go through, and the resolver, if asked, finds nothing stored under `ref`. -/
def sampleAnswers (ref : Text) : Answers := ⟨.ok (sampleResolution ref), .answered, false, false⟩

/-- All calls go through; the resolver is down. -/
def silent : Answers := ⟨.error ⟨[], false⟩, .answered, false, false⟩

/-- A reconcile whose write is answered. -/
def reconciled (n : Text) (a : Answers) : List Event := [.reconcile n a, .write n .answered]

/-- A cache `m` resolved, its job created. -/
def toSyncing : List Event :=
  .create ['m'] (sampleSpec "o/a".toList) ::
    (reconciled ['m'] (sampleAnswers "r/o/a:rev-main".toList) ++ reconciled ['m'] silent)

/-- The job done, and the cache reconciled once more. -/
def toReady : List Event :=
  .finishJob "rev-main".toList (.complete (some (sampleResolution "r/o/a:rev-main".toList))) ::
    reconciled ['m'] silent

/-! ## The observed spec -/

/-- **Ready reflects the spec it has observed**, in every state of a run whose reconciles are
settled. -/
theorem ready_reflects_spec {env : Env} {es : List Event}
    (h : Along (step env) (Settled env) .empty es) {n : Text} {mc : ModelCache}
    (hmc : (reach env es).caches.lookup n = some mc) (hready : mc.status.phase = .ready)
    (hobs : mc.status.observedGeneration = mc.generation) :
    Sourced env es n mc.spec mc.generation mc.status.resolvedRef mc.status.digest := by
  have hright := (traced_run h).status n mc hmc hobs
  unfold Right at hright
  rw [hready] at hright
  exact hright

theorem ready_reflects_spec_copied : ∃ mc,
    (reach sampleEnv (toSyncing ++ toReady)).caches.lookup ['m'] = some mc ∧
      mc.status.phase = .ready ∧ mc.status.observedGeneration = mc.generation ∧
      Sourced sampleEnv (toSyncing ++ toReady) ['m'] mc.spec mc.generation mc.status.resolvedRef
        mc.status.digest := by
  have hsettled : Along (step sampleEnv) (Settled sampleEnv) .empty (toSyncing ++ toReady) := by
    decide +kernel
  have hend : ((reach sampleEnv (toSyncing ++ toReady)).caches.lookup ['m']).any (fun mc =>
      mc.status.phase = .ready ∧ mc.status.observedGeneration = mc.generation) = true := by
    decide +kernel
  obtain ⟨mc, hmc, hboth⟩ := (any_eq_true _ _).mp hend
  obtain ⟨hready, hobs⟩ := of_decide_eq_true hboth
  exact ⟨mc, hmc, hready, hobs, ready_reflects_spec hsettled hmc hready hobs⟩

/-- The spec edited while the job runs: the write that ends the job stamps the new generation on the
reference of the old spec. -/
def editedRun : List Event := toSyncing ++ .edit ['m'] (sampleSpec "o/b".toList) :: toReady

/-- What the resolver answers during an event, and the job an event ends. -/
def Event.asked : Event → Option (Except ResolverError Resolution)
  | .reconcile _ a => some a.resolve
  | _ => none

def Event.finished : Event → Option Text
  | .finishJob j _ => some j
  | _ => none

/-- An event of a run is at the place where its past ends. -/
lemma getElem?_of_snoc_prefix {past es : List Event} {e : Event} (h : past ++ [e] <+: es) :
    es[past.length]? = some e ∧ past = es.take past.length := by
  obtain ⟨rest, rfl⟩ := h
  simp

theorem ready_of_older_spec : ∃ mc,
    (reach sampleEnv editedRun).caches.lookup ['m'] = some mc ∧ mc.status.phase = .ready ∧
      mc.status.observedGeneration = mc.generation ∧
      ¬Sourced sampleEnv editedRun ['m'] mc.spec mc.generation mc.status.resolvedRef
        mc.status.digest := by
  have hend : ((reach sampleEnv editedRun).caches.lookup ['m']).any (fun mc =>
      mc.status.phase = .ready ∧ mc.status.observedGeneration = mc.generation ∧
        mc.spec = sampleSpec "o/b".toList) = true := by
    decide +kernel
  obtain ⟨mc, hmc, hall⟩ := (any_eq_true _ _).mp hend
  obtain ⟨hready, hobs, hspec⟩ := of_decide_eq_true hall
  refine ⟨mc, hmc, hready, hobs, ?_⟩
  rw [hspec]
  -- the resolver was asked once, before the edit; the one job was built before it
  have hresolve : ∀ k < editedRun.length, ∀ a ∈ (editedRun[k]?).bind Event.asked, a.toBool = true →
      ((reach sampleEnv (editedRun.take k)).caches.lookup ['m']).all
        (fun mc => mc.spec ≠ sampleSpec "o/b".toList) = true := by
    decide +kernel
  have hcopy : ∀ k < editedRun.length, ∀ j ∈ (editedRun[k]?).bind Event.finished,
      ((reach sampleEnv (editedRun.take k)).jobs.lookup j).all
        (fun job => job.args ≠ copyArgs [] (sampleSpec "o/b".toList)) = true := by
    decide +kernel
  rintro (⟨past, a, r, mc', hpast, hmc', hspec', -, ha, -, -⟩ |
    ⟨past, j, job, m, hpast, hjob, -, hargs, -, -⟩)
  · obtain ⟨hget, htake⟩ := getElem?_of_snoc_prefix hpast
    have hlt : past.length < editedRun.length := (List.getElem?_eq_some_iff.mp hget).1
    have hne := hresolve past.length hlt a.resolve (by rw [hget]; rfl) (by rw [ha]; rfl)
    rw [← htake, hmc'] at hne
    exact of_decide_eq_true hne hspec'
  · obtain ⟨hget, htake⟩ := getElem?_of_snoc_prefix hpast
    have hlt : past.length < editedRun.length := (List.getElem?_eq_some_iff.mp hget).1
    have hne := hcopy past.length hlt j (by rw [hget]; rfl)
    rw [← htake, hjob] at hne
    exact of_decide_eq_true hne hargs

/-! ## The own job -/

def Event.isEdit : Event → Bool
  | .edit _ _ => true
  | _ => false

/-- What a reconcile in Resolving has to find: no other cache's job under the name it derives, and
no other cache waiting for that name. -/
def OwnName (env : Env) (s : Cluster) : Event → Prop
  | .reconcile n _ => ∀ mc ∈ s.caches.lookup n, s.tasks.lookup n = none →
    (calculate mc).isResolving →
      (∀ job ∈ s.jobs.lookup (copyJobName env.cfg mc), job.modelcache = n) ∧
        ¬s.OtherAwaits n (copyJobName env.cfg mc)
  | _ => True

instance (env : Env) (s : Cluster) : (e : Event) → Decidable (OwnName env s e)
  | .reconcile _ _ => inferInstanceAs (Decidable (∀ _ ∈ _, _))
  | .create _ _ | .edit _ _ | .write _ _ | .list _ _ | .patch _ _ | .finishJob _ _ | .cleanUp _
  | .submit _ _ | .advance _ _ _ | .respond _ => inferInstanceAs (Decidable True)

/-- Specs as they were created: one generation, observed by every write; jobs with the arguments of
their cache. -/
structure Unedited (env : Env) (s : Cluster) : Prop where
  caches : ∀ n mc, s.caches.lookup n = some mc → mc.generation = 1 ∧
    (mc.status.phase = .resolving ∨ mc.status.phase = .syncing → mc.status.observedGeneration = 1)
  writes : ∀ n v st u, s.tasks.lookup n = some (.write v st u) → st.observedGeneration = 1
  jobs : ∀ j job, s.jobs.lookup j = some job → ∃ mc, s.caches.lookup job.modelcache = some mc ∧
    job.args = copyArgs env.cfg.syncMaxParallel mc.spec

section

variable {env : Env} {s : Cluster} {e : Event}

/-- Every status a visit writes is stamped with the generation it read. -/
lemma visit_write_observed {mc : ModelCache} {cfg : Config} {n : Text} {jobs : Table Text Job}
    {a : Answers} {st : Status} (h : (visit mc cfg n jobs a).write = some st) :
    st.observedGeneration = mc.generation := by
  have hv := visit_visited mc cfg n jobs a
  generalize visit mc cfg n jobs a = v at h hv
  cases hv with
  | idle | orphaned _ => simp [Visit.idle] at h
  | settled _ hobs => exact some.inj h ▸ hobs
  | resolved _ _ | hit _ _ | started _ | reported _ _ _ | unreported _ _ _ =>
    exact some.inj h ▸ nextStatus_observedGeneration _

/-- Without an edit, a cache that is there stays there with its spec. -/
lemma spec_step (he : e.isEdit = false) {n : Text} {mc : ModelCache}
    (h : s.caches.lookup n = some mc) :
    ∃ mc', (s.step env e).caches.lookup n = some mc' ∧ mc'.spec = mc.spec := by
  obtain ⟨mc', hmc'⟩ := isSome_iff_exists.mp
    (@Cluster.caches_step_isSome env s e _ (isSome_of_eq_some h))
  refine ⟨mc', hmc', ?_⟩
  cases cacheMove hmc' with
  | kept hold =>
    rw [h] at hold
    rw [some.inj hold]
  | made _ hnone =>
    rw [h] at hnone
    simp at hnone
  | edited _ => simp [Event.isEdit] at he
  | stored hold _ =>
    rw [h] at hold
    rw [← some.inj hold]

lemma unedited_step (h : Unedited env s) (he : e.isEdit = false) : Unedited env (s.step env e) where
  caches := by
    intro n mc' hmc'
    cases cacheMove hmc' with
    | kept hold => exact h.caches n mc' hold
    | made _ _ => exact ⟨rfl, fun hphase => absurd hphase (by simp [ModelCache.new, Status.empty])⟩
    | edited _ => simp [Event.isEdit] at he
    | stored hold htask => exact ⟨(h.caches n _ hold).1, fun _ => h.writes n _ _ _ htask⟩
  writes := by
    intro n v st u htask'
    cases taskMove htask' with
    | kept htask => exact h.writes n v st u htask
    | begun hmc _ hwrite => rw [visit_write_observed hwrite, (h.caches n _ hmc).1]
  jobs := by
    intro j job hjob'
    cases jobMove hjob' with
    | kept hold =>
      obtain ⟨mc, hmc, hargs⟩ := h.jobs j job hold
      obtain ⟨mc', hmc', hspec⟩ := @spec_step env s _ he _ _ hmc
      exact ⟨mc', hmc', hspec ▸ hargs⟩
    | created hmc _ _ _ _ =>
      obtain ⟨mc', hmc', hspec⟩ := @spec_step env s _ he _ _ hmc
      exact ⟨mc', hmc', by rw [hspec]; rfl⟩
    | finished hold =>
      obtain ⟨mc, hmc, hargs⟩ := h.jobs j _ hold
      obtain ⟨mc', hmc', hspec⟩ := @spec_step env s _ he _ _ hmc
      exact ⟨mc', hmc', hspec ▸ hargs⟩

lemma unedited_empty : Unedited env .empty where
  caches := fun _ _ h => absurd h (by simp [empty])
  writes := fun _ _ _ _ h => absurd h (by simp [empty])
  jobs := fun _ _ h => absurd h (by simp [empty])

lemma Unedited.settled (h : Unedited env s) (hown : OwnName env s e) : Settled env s e := by
  cases e with
  | reconcile n a =>
    intro mc hmc htask
    obtain ⟨hgen, hobs⟩ := h.caches n mc hmc
    have hsame : mc.status.phase = .resolving ∨ mc.status.phase = .syncing →
        hasSpecChanged mc = false := fun hphase =>
      hasSpecChanged_eq_false.mpr ((hobs hphase).trans hgen.symm)
    refine ⟨fun hres => ?_, fun hsync => ?_⟩
    · obtain ⟨hjobs, hother⟩ := hown mc hmc htask hres
      have hphase : mc.status.phase = .resolving := by
        cases hc : calculate mc with
        | resolving r => exact (calculate_resolving hc).1
        | pending | syncing _ _ | ready _ | failed _ | unknown _ =>
          rw [hc] at hres
          simp [State.isResolving] at hres
      refine ⟨hsame (.inl hphase), fun job hjob => ⟨hjobs job hjob, ?_⟩, hother⟩
      obtain ⟨mc', hmc', hargs⟩ := h.jobs _ job hjob
      rw [hjobs job hjob] at hmc'
      rw [mem_def, hmc'] at hmc
      rw [hargs, some.inj hmc]
    · cases hc : calculate mc with
      | syncing r j => exact hsame (.inr (calculate_syncing hc).1)
      | pending | resolving _ | ready _ | failed _ | unknown _ =>
        rw [hc] at hsync
        simp [State.isSyncing] at hsync
  | create | edit | write | list | patch | finishJob | cleanUp | submit | advance |
    respond => trivial

/-- A job built for the cache and ended is the one `buildCopyJob` made, with its end. -/
lemma job_eq_built {n : Text} {mc : ModelCache} {job : Job} {state : JobState}
    (hmodelcache : job.modelcache = n) (hargs : job.args = copyArgs env.cfg.syncMaxParallel mc.spec)
    (hstate : job.state = state) : job = { buildCopyJob env.cfg n mc with state := state } := by
  subst hmodelcache hstate
  unfold buildCopyJob
  rw [← hargs]

end

/-- **A cache becomes Ready only from its own copy job**, in every run without edits whose visits in
Resolving find their job name free or their own. -/
theorem ready_from_own_job {env : Env} {es : List Event} (hfixed : ∀ e ∈ es, e.isEdit = false)
    (h : Along (step env) (OwnName env) .empty es) {n j : Text} {mc : ModelCache}
    {r : ResolveResult} (hmc : (reach env es).caches.lookup n = some mc)
    (hc : calculate mc = .syncing r j) {a : Answers} {st : Status}
    (hwrite : (visit mc env.cfg n (reach env es).jobs a).write = some st)
    (hready : st.phase = .ready) : ∃ message, (reach env es).jobs.lookup j =
        some { buildCopyJob env.cfg n mc with state := .complete message } ∧
      Sourced env es n mc.spec mc.generation st.resolvedRef st.digest := by
  have hall := h.and (along_of_forall_mem (G := fun _ e => e.isEdit = false)
    (fun e he _ => hfixed e he) empty)
  have hunedited : Unedited env (reach env es) :=
    run_induction (Unedited env) (fun s e hs hg => unedited_step hs hg.2) unedited_empty hall
  have htraced : Traced env es (reach env es) :=
    traced_run (hall.strengthen (Unedited env) (fun s e hs hg => unedited_step hs hg.2)
      (fun s e hs hg => hs.settled hg.1) unedited_empty)
  obtain ⟨hphase, rfl, rfl⟩ := calculate_syncing hc
  obtain ⟨hgen, hobs⟩ := hunedited.caches n mc hmc
  have hright := htraced.status n mc hmc ((hobs (.inr hphase)).trans hgen.symm)
  unfold Right at hright
  rw [hphase] at hright
  obtain ⟨hresolved, hbuilt⟩ := hright
  have hv := visit_visited mc env.cfg n (reach env es).jobs a
  generalize visit mc env.cfg n (reach env es).jobs a = v at hwrite hv
  cases hv with
  | idle | orphaned _ => simp [Visit.idle] at hwrite
  | settled hp _ =>
    obtain rfl := some.inj hwrite
    rcases hp with hp | hp <;> rw [hp] at hready <;> exact absurd hready (by simp)
  | resolved hc' _ | hit hc' _ | started hc' =>
    rw [hc] at hc'
    simp at hc'
  | reported hc' hjob hstate =>
    obtain rfl := some.inj hwrite
    obtain ⟨-, -, rfl⟩ := calculate_syncing hc'
    obtain ⟨hmodelcache, hargs⟩ := hbuilt _ hjob
    obtain ⟨past, job', hpast, hjob', hsameCache, hsameArgs⟩ := htraced.message _ _ _ hjob hstate
    refine ⟨_, hjob.trans (congrArg some (job_eq_built hmodelcache hargs hstate)),
      .inr ⟨past, _, job', _, hpast, hjob', hsameCache.trans hmodelcache, hsameArgs.trans hargs,
        rfl, rfl⟩⟩
  | unreported hc' hjob hstate =>
    obtain rfl := some.inj hwrite
    obtain ⟨-, -, rfl⟩ := calculate_syncing hc'
    obtain ⟨hmodelcache, hargs⟩ := hbuilt _ hjob
    exact ⟨_, hjob.trans (congrArg some (job_eq_built hmodelcache hargs hstate)),
      .inl hresolved⟩

theorem ready_from_own_job_reported : let es := toSyncing ++ [.finishJob "rev-main".toList
      (.complete (some (sampleResolution "r/o/a:rev-main".toList)))]
    ∃ mc message, (reach sampleEnv es).caches.lookup ['m'] = some mc ∧
      (reach sampleEnv es).jobs.lookup "rev-main".toList =
        some { buildCopyJob sampleEnv.cfg ['m'] mc with state := .complete message } ∧
      Sourced sampleEnv es ['m'] mc.spec mc.generation "r/o/a:rev-main".toList
        "sha256:r/o/a:rev-main".toList := by
  intro es
  have hown : Along (step sampleEnv) (OwnName sampleEnv) .empty es := by decide +kernel
  have hend : ((reach sampleEnv es).caches.lookup ['m']).any (fun mc =>
      calculate mc = .syncing (sampleResolution "r/o/a:rev-main".toList).result "rev-main".toList ∧
        ((visit mc sampleEnv.cfg ['m'] (reach sampleEnv es).jobs silent).write).any (fun st =>
          st.phase = .ready ∧ st.resolvedRef = "r/o/a:rev-main".toList ∧
            st.digest = "sha256:r/o/a:rev-main".toList) = true) = true := by
    decide +kernel
  obtain ⟨mc, hmc, hboth⟩ := (any_eq_true _ _).mp hend
  obtain ⟨hc, hvisit⟩ := of_decide_eq_true hboth
  obtain ⟨st, hwrite, hst⟩ := (any_eq_true _ _).mp hvisit
  obtain ⟨hready, href, hdigest⟩ := of_decide_eq_true hst
  obtain ⟨message, hjob, hsourced⟩ :=
    ready_from_own_job (by decide) hown hmc hc hwrite hready
  rw [href, hdigest] at hsourced
  exact ⟨mc, message, hmc, hjob, hsourced⟩

/-- Two caches of one registry, resolved to one tag. The second finds the job of the first under its
name and takes it for its own. -/
def sharedTag : List Event :=
  .create ['a'] (sampleSpec "o/a".toList) :: .create ['b'] (sampleSpec "o/b".toList) ::
    (reconciled ['a'] (sampleAnswers "r/o/a:rev-main".toList) ++
      reconciled ['b'] (sampleAnswers "r/o/b:rev-main".toList) ++ reconciled ['a'] silent ++
      reconciled ['b'] silent ++
      [.finishJob "rev-main".toList (.complete (some (sampleResolution "r/o/a:rev-main".toList)))])

theorem ready_from_other_job : (sharedTag.all fun e => !e.isEdit) = true ∧
      ((reach sampleEnv sharedTag).jobs.lookup "rev-main".toList).any (fun job =>
        job.modelcache = ['a'] ∧ job.args = copyArgs [] (sampleSpec "o/a".toList)) = true ∧
      ((reach sampleEnv sharedTag).caches.lookup ['b']).any (fun mc =>
        mc.spec = sampleSpec "o/b".toList ∧
          calculate mc =
            .syncing (sampleResolution "r/o/b:rev-main".toList).result "rev-main".toList ∧
          (visit mc sampleEnv.cfg ['b'] (reach sampleEnv sharedTag).jobs
            silent).write.any (fun st =>
            st.phase = .ready ∧ st.resolvedRef = "r/o/a:rev-main".toList ∧
              st.digest = "sha256:r/o/a:rev-main".toList) = true) = true := by
  decide +kernel

end Homelab.OciModelCache
