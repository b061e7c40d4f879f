import Homelab.OciModelCache.Moves

/-!
# Where a reference in a status comes from

A status of a cache names a reference and a digest. They were put there from an answer of the
resolver, asked for the spec the object had, or from the message of a copy job built for it
(`Sourced`). This module follows them from there through the writes in flight into the status, along
runs in which

* a copy job is never mistaken: when a visit in Resolving finds a job under its name, it was built
  from the very spec, and no other cache waits for a job of that name;
* a visit in Resolving or Syncing finds its spec unchanged since the last write.

Each of the two can fail in the code, and then a status names what belongs to another cache or to
another spec.
-/

namespace Homelab.OciModelCache

open Homelab.Lib Option

/-- The state the cluster is in after the events `es`. -/
def reach (env : Env) (es : List Event) : Cluster := run (Cluster.step env) .empty es

lemma reach_snoc (env : Env) (es : List Event) (e : Event) :
    reach env (es ++ [e]) = (reach env es).step env e := by
  unfold reach
  rw [run_append]
  rfl

section

variable (env : Env) (es : List Event) (n : Text) (spec : Spec) (generation : Nat)
  (ref digest : Text)

/-- The resolver answered so when it was asked for the spec, at that generation. -/
def Resolved : Prop :=
  ∃ past a r mc, past ++ [.reconcile n a] <+: es ∧ (reach env past).caches.lookup n = some mc ∧
    mc.spec = spec ∧ mc.generation = generation ∧ a.resolve = .ok r ∧ r.ref = ref ∧
    r.digest = digest

/-- A job that had been built for the cache, with the arguments of the spec, ended with that
message. -/
def Copied : Prop :=
  ∃ past j job m, past ++ [.finishJob j (.complete (some m))] <+: es ∧
    (reach env past).jobs.lookup j = some job ∧ job.modelcache = n ∧
    job.args = copyArgs env.cfg.syncMaxParallel spec ∧ m.ref = ref ∧ m.digest = digest

def Sourced : Prop :=
  Resolved env es n spec generation ref digest ∨ Copied env es n spec ref digest

end

section

variable {env : Env} {es es' : List Event} {n : Text} {spec : Spec} {generation : Nat}
  {ref digest : Text}

lemma Resolved.mono (hes : es <+: es') (h : Resolved env es n spec generation ref digest) :
    Resolved env es' n spec generation ref digest := by
  obtain ⟨past, a, r, mc, hpast, hrest⟩ := h
  exact ⟨past, a, r, mc, hpast.trans hes, hrest⟩

lemma Sourced.mono (hes : es <+: es') (h : Sourced env es n spec generation ref digest) :
    Sourced env es' n spec generation ref digest := by
  rcases h with h | ⟨past, j, job, m, hpast, hrest⟩
  · exact .inl (h.mono hes)
  · exact .inr ⟨past, j, job, m, hpast.trans hes, hrest⟩

end

/-! ## The invariant -/

/-- The job was built for the cache, from the spec. -/
def Job.BuiltFor (job : Job) (env : Env) (n : Text) (spec : Spec) : Prop :=
  job.modelcache = n ∧ job.args = copyArgs env.cfg.syncMaxParallel spec

/-- The status is right for an object with that spec and generation, as far as its phase speaks of a
reference. -/
def Right (env : Env) (es : List Event) (s : Cluster) (n : Text) (mc : ModelCache) (st : Status) :
    Prop :=
  match st.phase with
  | .resolving => Resolved env es n mc.spec mc.generation st.resolvedRef st.digest
  | .syncing =>
    Resolved env es n mc.spec mc.generation st.resolvedRef st.digest ∧
      ∀ job, s.jobs.lookup st.syncJobName = some job → job.BuiltFor env n mc.spec
  | .ready => Sourced env es n mc.spec mc.generation st.resolvedRef st.digest
  | _ => True

/-- The cache waits for a job of that name, or is about to. -/
def Cluster.Awaits (s : Cluster) (n j : Text) : Prop :=
  (∃ mc, s.caches.lookup n = some mc ∧ mc.status.phase = .syncing ∧ mc.status.syncJobName = j) ∨
    ∃ v st u, s.tasks.lookup n = some (.write v st u) ∧ st.phase = .syncing ∧ st.syncJobName = j

/-- What stands behind the objects of the cluster that the events reach. -/
structure Traced (env : Env) (es : List Event) (s : Cluster) : Prop where
  reached : s = reach env es
  observed : ∀ n mc, s.caches.lookup n = some mc → mc.status.observedGeneration ≤ mc.generation
  status : ∀ n mc, s.caches.lookup n = some mc →
    mc.status.observedGeneration = mc.generation → Right env es s n mc mc.status
  write : ∀ n v st u, s.tasks.lookup n = some (.write v st u) →
    ∃ mc, s.caches.lookup n = some mc ∧ v ≤ mc.resourceVersion ∧
      (v = mc.resourceVersion → st.observedGeneration = mc.generation ∧ Right env es s n mc st)
  message : ∀ j job m, s.jobs.lookup j = some job → job.state = .complete (some m) →
    ∃ past job', past ++ [.finishJob j (.complete (some m))] <+: es ∧
      (reach env past).jobs.lookup j = some job' ∧ job'.modelcache = job.modelcache ∧
      job'.args = job.args

/-- Another cache than `n` waits for a job of that name. -/
def Cluster.OtherAwaits (s : Cluster) (n j : Text) : Prop := ∃ m, m ≠ n ∧ s.Awaits m j

/-- What a reconcile has to find: its spec as it was at the last write, once there is a reference;
no job under its name but one built from this spec; and no other cache waiting for that name. -/
def Settled (env : Env) (s : Cluster) : Event → Prop
  | .reconcile n _ => ∀ mc ∈ s.caches.lookup n, s.tasks.lookup n = none →
      ((calculate mc).isResolving → hasSpecChanged mc = false ∧
        (∀ job ∈ s.jobs.lookup (copyJobName env.cfg mc), job.BuiltFor env n mc.spec) ∧
        ¬s.OtherAwaits n (copyJobName env.cfg mc)) ∧
      ((calculate mc).isSyncing → hasSpecChanged mc = false)
  | _ => True

section

instance (job : Job) (env : Env) (n : Text) (spec : Spec) : Decidable (job.BuiltFor env n spec) :=
  inferInstanceAs (Decidable (_ ∧ _))

/-- The waiting caches, by scanning the two tables. -/
def Cluster.otherAwaits (s : Cluster) (n j : Text) : Bool :=
  s.caches.exists? (fun m mc =>
      m ≠ n && (mc.status.phase = .syncing && mc.status.syncJobName = j)) ||
    s.tasks.exists? fun m t =>
      match t with
      | .write _ st _ => m ≠ n && (st.phase = .syncing && st.syncJobName = j)
      | _ => false

lemma Cluster.otherAwaits_iff (s : Cluster) (n j : Text) :
    s.otherAwaits n j = true ↔ s.OtherAwaits n j := by
  unfold otherAwaits OtherAwaits Awaits
  rw [Bool.or_eq_true, Table.exists?_iff, Table.exists?_iff]
  constructor
  · rintro (⟨m, mc, hmc, hp⟩ | ⟨m, t, ht, hp⟩)
    · simp only [Bool.and_eq_true, decide_eq_true_eq] at hp
      exact ⟨m, hp.1, .inl ⟨mc, hmc, hp.2⟩⟩
    · cases t with
      | list _ | patch _ _ => simp at hp
      | write v st u =>
        simp only [Bool.and_eq_true, decide_eq_true_eq] at hp
        exact ⟨m, hp.1, .inr ⟨v, st, u, ht, hp.2⟩⟩
  · rintro ⟨m, hm, ⟨mc, hmc, hp⟩ | ⟨v, st, u, ht, hp⟩⟩
    · exact .inl ⟨m, mc, hmc, by simp [hm, hp]⟩
    · exact .inr ⟨m, _, ht, by simp [hm, hp]⟩

instance (s : Cluster) (n j : Text) : Decidable (s.OtherAwaits n j) :=
  decidable_of_iff _ (s.otherAwaits_iff n j)

instance (env : Env) (s : Cluster) : (e : Event) → Decidable (Settled env s e)
  | .reconcile _ _ => inferInstanceAs (Decidable (∀ _ ∈ _, _))
  | .create _ _ | .edit _ _ | .write _ _ | .list _ _ | .patch _ _ | .finishJob _ _ | .cleanUp _
  | .submit _ _ | .advance _ _ _ | .respond _ => inferInstanceAs (Decidable True)

end

/-! ## One step -/

section

variable {env : Env} {es : List Event} {s : Cluster} {e : Event} {n : Text} {mc mc' : ModelCache}
  {st : Status}

lemma hasSpecChanged_eq_false : hasSpecChanged mc = false ↔
    mc.status.observedGeneration = mc.generation := by
  unfold hasSpecChanged
  rw [bne_eq_false_iff_eq]
  exact eq_comm

/-- Only the spec and the generation of the object matter. -/
lemma Right.congr (hspec : mc'.spec = mc.spec) (hgen : mc'.generation = mc.generation)
    (h : Right env es s n mc st) : Right env es s n mc' st := by
  unfold Right at h ⊢
  rw [hspec, hgen]
  exact h

/-- A job that a waiting cache finds after a step is one it could find before, or the same one
further on: nobody else makes a job of that name. -/
lemma builtFor_step (hg : Settled env s e) {j : Text} (hawaits : s.Awaits n j) {spec : Spec}
    (hold : ∀ job, s.jobs.lookup j = some job → job.BuiltFor env n spec) {job : Job}
    (hjob : (s.step env e).jobs.lookup j = some job) : job.BuiltFor env n spec := by
  cases Cluster.jobMove hjob with
  | kept h => exact hold job h
  | finished h =>
    have hbuilt := hold _ h
    exact ⟨hbuilt.1, hbuilt.2⟩
  | created hmc htask hc hnone hj =>
    rename_i m a mcm r
    exfalso
    obtain ⟨-, -, hapart⟩ := (hg mcm hmc htask).1 (by rw [hc]; rfl)
    by_cases hn : n = m
    · -- the cache that makes the job is in Resolving, so it does not wait
      subst hn
      rcases hawaits with ⟨mc, hmc', hphase, -⟩ | ⟨v, st, u, htask', -⟩
      · rw [hmc] at hmc'
        rw [← some.inj hmc', (calculate_resolving hc).1] at hphase
        simp at hphase
      · rw [htask] at htask'
        simp at htask'
    · exact hapart ⟨n, hn, hj ▸ hawaits⟩

lemma right_step (hg : Settled env s e) (hawaits : st.phase = .syncing → s.Awaits n st.syncJobName)
    (h : Right env es s n mc st) : Right env (es ++ [e]) (s.step env e) n mc st := by
  have hpre : es <+: es ++ [e] := List.prefix_append es [e]
  unfold Right at h ⊢
  cases hphase : st.phase with
  | resolving | ready =>
    simp only [hphase] at h
    exact h.mono hpre
  | syncing =>
    simp only [hphase] at h
    exact ⟨h.1.mono hpre, fun job hjob => builtFor_step hg (hawaits hphase) h.2 hjob⟩
  | unset | pending | failed | unknown | unrecognised _ => trivial

lemma awaits_write {v : Nat} {u : Option Text} (h : s.tasks.lookup n = some (.write v st u))
    (hphase : st.phase = .syncing) : s.Awaits n st.syncJobName :=
  .inr ⟨v, st, u, h, hphase, rfl⟩

/-- The status a reconcile hands on is right for the object it read. -/
lemma right_begun (h : Traced env es s) {a : Answers} (hg : Settled env s (.reconcile n a))
    (hmc : s.caches.lookup n = some mc) (htask : s.tasks.lookup n = none)
    (hwrite : (visit mc env.cfg n s.jobs a).write = some st) :
    st.observedGeneration = mc.generation ∧
      Right env (es ++ [.reconcile n a]) (s.step env (.reconcile n a)) n mc st := by
  obtain ⟨hresolving, hsyncing⟩ := hg mc hmc htask
  have hpre : es <+: es ++ [.reconcile n a] := List.prefix_append _ _
  have hnow : ∀ r, a.resolve = .ok r → Resolved env (es ++ [.reconcile n a]) n mc.spec mc.generation
      r.ref r.digest := fun r hr =>
    ⟨es, a, r, mc, List.prefix_refl _, h.reached ▸ hmc, rfl, rfl, hr, rfl, rfl⟩
  have hv := visit_visited mc env.cfg n s.jobs a
  generalize visit mc env.cfg n s.jobs a = v at hwrite hv
  cases hv with
  | idle | orphaned _ => simp [Visit.idle] at hwrite
  | settled hphase hobs =>
    obtain rfl := some.inj hwrite
    refine ⟨hobs, ?_⟩
    unfold Right
    rcases hphase with hphase | hphase <;> rw [hphase] <;> trivial
  | resolved _ hr =>
    obtain rfl := some.inj hwrite
    exact ⟨nextStatus_observedGeneration _, hnow _ hr⟩
  | hit _ hr =>
    obtain rfl := some.inj hwrite
    exact ⟨nextStatus_observedGeneration _, .inl (hnow _ hr)⟩
  | started hc =>
    obtain rfl := some.inj hwrite
    obtain ⟨hsame, hbuilt, -⟩ := hresolving (by rw [hc]; rfl)
    obtain ⟨hphase, rfl⟩ := calculate_resolving hc
    have hright := h.status n mc hmc (hasSpecChanged_eq_false.mp hsame)
    unfold Right at hright
    rw [hphase] at hright
    refine ⟨nextStatus_observedGeneration _, hright.mono hpre, fun job hjob => ?_⟩
    cases Cluster.jobMove hjob with
    | kept hold => exact hbuilt job hold
    | created hmc' _ _ _ _ =>
      rw [hmc] at hmc'
      obtain rfl := some.inj hmc'
      exact ⟨rfl, rfl⟩
  | reported hc hjob hstate =>
    obtain rfl := some.inj hwrite
    obtain ⟨hphase, -, rfl⟩ := calculate_syncing hc
    have hright := h.status n mc hmc (hasSpecChanged_eq_false.mp (hsyncing (by rw [hc]; rfl)))
    unfold Right at hright
    rw [hphase] at hright
    obtain ⟨hmodelcache, hargs⟩ := hright.2 _ hjob
    obtain ⟨past, job', hpast, hjob', hsameCache, hsameArgs⟩ := h.message _ _ _ hjob hstate
    exact ⟨nextStatus_observedGeneration _, .inr ⟨past, _, job', _, hpast.trans hpre, hjob',
      hsameCache.trans hmodelcache, hsameArgs.trans hargs, rfl, rfl⟩⟩
  | unreported hc _ _ =>
    obtain rfl := some.inj hwrite
    obtain ⟨hphase, -, -⟩ := calculate_syncing hc
    have hright := h.status n mc hmc (hasSpecChanged_eq_false.mp (hsyncing (by rw [hc]; rfl)))
    unfold Right at hright
    rw [hphase] at hright
    exact ⟨nextStatus_observedGeneration _, .inl (hright.1.mono hpre)⟩

lemma reconcile_caches (s : Cluster) (n : Text) (a : Answers) :
    (s.step env (.reconcile n a)).caches = s.caches := by
  change (s.reconcile env n a).caches = s.caches
  unfold Cluster.reconcile
  split
  · rfl
  · split <;> rfl

/-- **One step keeps track of every reference.** -/
theorem traced_step (h : Traced env es s) (hg : Settled env s e) :
    Traced env (es ++ [e]) (s.step env e) where
  reached := by rw [reach_snoc, ← h.reached]
  observed := by
    intro n mc' hmc'
    cases Cluster.cacheMove hmc' with
    | kept hold => exact h.observed n mc' hold
    | made _ _ => exact Nat.zero_le _
    | edited hold => exact Nat.le_succ_of_le (h.observed n _ hold)
    | stored hold htask =>
      obtain ⟨mc, hmc, -, hright⟩ := h.write n _ _ _ htask
      rw [hold] at hmc
      obtain rfl := some.inj hmc
      exact le_of_eq (hright rfl).1
  status := by
    intro n mc' hmc' hobs
    cases Cluster.cacheMove hmc' with
    | kept hold =>
      exact right_step hg (fun hphase => .inl ⟨mc', hold, hphase, rfl⟩) (h.status n mc' hold hobs)
    | made _ _ => trivial
    | edited hold =>
      have hle := h.observed n _ hold
      dsimp only at hobs
      omega
    | stored hold htask =>
      obtain ⟨mc, hmc, -, hright⟩ := h.write n _ _ _ htask
      rw [hold] at hmc
      obtain rfl := some.inj hmc
      exact right_step hg (awaits_write htask) ((hright rfl).2.congr rfl rfl)
  write := by
    intro n v st u htask'
    cases Cluster.taskMove htask' with
    | kept htask =>
      obtain ⟨mc, hmc, hle, hright⟩ := h.write n v st u htask
      obtain ⟨mc', hmc'⟩ := isSome_iff_exists.mp
        (@Cluster.caches_step_isSome env s e _ (isSome_of_eq_some hmc))
      refine ⟨mc', hmc', ?_⟩
      cases Cluster.cacheMove hmc' with
      | kept hold =>
        rw [hmc] at hold
        obtain rfl := some.inj hold
        exact ⟨hle, fun hv => ⟨(hright hv).1, right_step hg (awaits_write htask) (hright hv).2⟩⟩
      | made _ hnone =>
        rw [hmc] at hnone
        simp at hnone
      | edited hold | stored hold _ =>
        -- the object has moved on, so this write will be refused
        rw [hmc] at hold
        obtain rfl := some.inj hold
        dsimp only
        exact ⟨Nat.le_succ_of_le hle, fun hv => absurd hv (by omega)⟩
    | begun hmc htask hwrite =>
      refine ⟨_, (reconcile_caches s n _).symm ▸ hmc, le_refl _, fun _ => ?_⟩
      exact right_begun h hg hmc htask hwrite
  message := by
    intro j job m hjob' hstate
    have hpre : es <+: es ++ [e] := List.prefix_append es [e]
    cases Cluster.jobMove hjob' with
    | kept hold =>
      obtain ⟨past, job', hpast, hrest⟩ := h.message j job m hold hstate
      exact ⟨past, job', hpast.trans hpre, hrest⟩
    | created => simp [buildCopyJob] at hstate
    | finished hold =>
      rename_i job₀ state
      subst hstate
      exact ⟨es, job₀, List.prefix_refl _, h.reached ▸ hold, rfl, rfl⟩

lemma traced_empty : Traced env [] .empty where
  reached := rfl
  observed := fun _ _ h => absurd h (by simp [Cluster.empty])
  status := fun _ _ h => absurd h (by simp [Cluster.empty])
  write := fun _ _ _ _ h => absurd h (by simp [Cluster.empty])
  message := fun _ _ _ h => absurd h (by simp [Cluster.empty])

end

/-- **Every state of a settled run keeps track of its references.** -/
theorem traced_run {env : Env} {es : List Event}
    (h : Along (Cluster.step env) (Settled env) .empty es) : Traced env es (reach env es) :=
  run_history (Traced env) (fun _ _ _ ht hg => traced_step ht hg) traced_empty h

end Homelab.OciModelCache
