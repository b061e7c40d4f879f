import Homelab.OciModelCache.Ready

/-!
# The scheduling gate

A pod with `hf.co/` volumes is held by one gate, and one annotation names the cache it waits for:
the first the webhook did not find Ready. The gate is removed by the reconcile that makes that cache
Ready. So a pod without the gate has only caches that have been Ready, apart from those that the
webhook found not Ready after the first such (`ungated_after_ready`).

The invariant is about one pod, from its submission on (`Gated`).
-/

namespace Homelab.OciModelCache

open Homelab.Lib List Option

/-- The cache has been in the Ready phase at some moment of the run. -/
def SeenReady (env : Env) (es : List Event) (n : Text) : Prop :=
  ∃ past mc, past <+: es ∧ (reach env past).caches.lookup n = some mc ∧ mc.status.phase = .ready

/-- The `hf.co/` references of a pod's volumes. -/
def Pod.hfRefs (p : Pod) : List HfRef := p.volumes.filterMap fun v => v.bind parse

/-- No call of this pod's admission fails. -/
def Event.spares (id : PodId) : Event → Bool
  | .advance id' fails _ => id' != id || !fails
  | _ => true

section

variable {env : Env} {es es' : List Event} {s : Cluster} {n : Text}

lemma SeenReady.mono (hes : es <+: es') (h : SeenReady env es n) : SeenReady env es' n := by
  obtain ⟨past, mc, hpast, hrest⟩ := h
  exact ⟨past, mc, hpast.trans hes, hrest⟩

lemma seenReady_now (hs : s = reach env es) {mc : ModelCache} (hmc : s.caches.lookup n = some mc)
    (hready : mc.status.phase = .ready) : SeenReady env es n :=
  ⟨es, mc, prefix_refl es, hs ▸ hmc, hready⟩

/-- Only a visit that makes its cache Ready has waiting pods ungated. -/
lemma visit_ungate_ready {mc : ModelCache} {cfg : Config} {jobs : Table Text Job} {a : Answers}
    {st : Status} {ref : Text} (hwrite : (visit mc cfg n jobs a).write = some st)
    (hungate : (visit mc cfg n jobs a).ungate = some ref) : st.phase = .ready := by
  have hv := visit_visited mc cfg n jobs a
  generalize visit mc cfg n jobs a = v at hwrite hungate hv
  cases hv with
  | idle | orphaned _ | settled _ _ | resolved _ _ | started _ =>
    simp [Visit.idle, Visit.writing, updateStatus] at hungate
  | hit _ _ | reported _ _ _ | unreported _ _ _ => exact some.inj hwrite ▸ rfl

end

/-! ## The invariant of one pod -/

section

variable (env : Env) (es : List Event)

/-- The pod still waits for the first cache it was found to lack, behind the gate, or that cache has
been Ready. -/
def Held (waitingFor : List Text) (p : Pod) : Prop :=
  ∀ w ∈ waitingFor.head?,
    (p.waitingFor = some w ∧ schedulingGateName ∈ p.schedulingGates) ∨ SeenReady env es w

/-- Each reference is of a cache noted as waited for, or of one that has been Ready. -/
def Noted (waitingFor : List Text) (refs : List HfRef) : Prop :=
  ∀ h ∈ refs, Cluster.modelCacheName env h ∈ waitingFor ∨
    SeenReady env es (Cluster.modelCacheName env h)

/-- What an admission has done so far. -/
structure Handled (s : Cluster) (a : Admission) : Prop where
  parts : ∃ handled, a.request.volumes = handled ++ a.todo ∧
    Noted env es a.waitingFor (handled.filterMap fun v => v.bind parse)
  /-- A lost race leaves an object to fetch. -/
  refetch : a.stage = .refetch → ∀ h ∈ a.current,
    (s.caches.lookup (Cluster.modelCacheName env h)).isSome

/-- The pod was let in by an admission, which waits with it. -/
structure LetIn (s : Cluster) (id : PodId) (past : List Event) (a : Admission)
    (p : Pod) : Prop where
  prior : past ++ [.respond id] <+: es
  admission : (reach env past).admissions.lookup id = some a
  done : a.todo = []
  noted : Noted env es a.waitingFor a.request.hfRefs
  held : Held env es a.waitingFor p
  listed : ∀ n ref todo q, s.tasks.lookup n = some (.patch ref todo) → (id, q) ∈ todo →
    q.waits n = true ∧ Held env es a.waitingFor q

structure Gated (id : PodId) (s : Cluster) : Prop where
  reached : s = reach env es
  writing : ∀ n v st ref, s.tasks.lookup n = some (.write v st (some ref)) → st.phase = .ready
  listing : ∀ n ref, s.tasks.lookup n = some (.list ref) → SeenReady env es n
  patching : ∀ n ref todo, s.tasks.lookup n = some (.patch ref todo) → SeenReady env es n
  admission : ∀ a, s.admissions.lookup id = some a → s.pods.lookup id = none ∧ Handled env es s a
  unlisted : s.pods.lookup id = none →
    ∀ n ref todo q, s.tasks.lookup n = some (.patch ref todo) → (id, q) ∉ todo
  pod : ∀ p, s.pods.lookup id = some p → ∃ past a, LetIn env es s id past a p

end

/-! ## One step -/

section

variable {env : Env} {es es' : List Event} {s : Cluster} {e : Event} {id : PodId} {W : List Text}
  {refs : List HfRef} {p : Pod} {a : Admission}

lemma Held.mono (hes : es <+: es') (h : Held env es W p) : Held env es' W p := by
  intro w hw
  rcases h w hw with hwaits | hseen
  · exact .inl hwaits
  · exact .inr (hseen.mono hes)

lemma Noted.mono (hes : es <+: es') {W' : List Text} (hW : W ⊆ W') (h : Noted env es W refs) :
    Noted env es' W' refs := by
  intro r hr
  rcases h r hr with hwaits | hseen
  · exact .inl (hW hwaits)
  · exact .inr (hseen.mono hes)

variable {n : Text}

lemma mem_waiting {q : Pod} (h : (id, q) ∈ s.waiting n) :
    s.pods.lookup id = some q ∧ q.waits n = true := by
  obtain ⟨hmem, hwaits⟩ := mem_filter.mp h
  obtain ⟨⟨id', q'⟩, hentry, heq⟩ := mem_map.mp hmem
  obtain ⟨rfl, rfl⟩ := Prod.mk.inj heq
  exact ⟨AList.mem_lookup_iff.mpr hentry, hwaits⟩

/-- The volume at hand is over: what is said of it joins what was said before. -/
lemma Handled.next (hes : es <+: es') {s' : Cluster} (h : Handled env es s a) {v : Option Text}
    {rest : List (Option Text)} (htodo : a.todo = v :: rest) {ref : Option Text} {W' : List Text}
    (hW : a.waitingFor ⊆ W')
    (hv : ∀ r, v.bind parse = some r → Cluster.modelCacheName env r ∈ W' ∨
      SeenReady env es' (Cluster.modelCacheName env r)) :
    Handled env es' s' (a.next ref W') where
  parts := by
    obtain ⟨handled, hvolumes, hnoted⟩ := h.parts
    refine ⟨handled ++ [v], ?_, ?_⟩
    · simp only [Admission.next, htodo, drop_succ_cons, drop_zero, append_assoc,
        singleton_append]
      rw [hvolumes, htodo]
    · intro r hr
      rw [filterMap_append, mem_append] at hr
      rcases hr with hr | hr
      · exact hnoted.mono hes hW r hr
      · obtain ⟨v', hv', hparse⟩ := mem_filterMap.mp hr
        rw [mem_singleton] at hv'
        subst hv'
        exact hv r hparse
  refetch := fun hstage => absurd hstage (by simp [Admission.next])

lemma exists_cons_of_current {r : HfRef} (h : a.current = some r) :
    ∃ v rest, a.todo = v :: rest ∧ v.bind parse = some r := by
  unfold Admission.current at h
  rcases htodo : a.todo with _ | ⟨v, rest⟩
  · rw [htodo] at h
    simp at h
  · rw [htodo] at h
    exact ⟨v, rest, rfl, h⟩

/-- A cache the webhook found Ready has been Ready. -/
lemma seenReady_ensured (hs : s = reach env es) {r : HfRef} {mc : ModelCache}
    (h : s.ensured env a (Cluster.modelCacheName env r) r = some mc)
    (hready : mc.status.phase = .ready) : SeenReady env es (Cluster.modelCacheName env r) := by
  unfold Cluster.ensured at h
  split at h
  · exact seenReady_now hs h hready
  · rw [← some.inj h] at hready
    simp [ModelCache.new, Status.empty] at hready
  · simp at h
  · exact seenReady_now hs h hready

variable {a' : Admission}

lemma handled_step (h : Gated env es id s) (hspares : e.spares id = true)
    (ha' : (s.step env e).admissions.lookup id = some a') :
    Handled env (es ++ [e]) (s.step env e) a' := by
  have hpre : es <+: es ++ [e] := prefix_append es [e]
  cases Cluster.admissionMove ha' with
  | kept hold =>
    obtain ⟨-, hhandled⟩ := h.admission a' hold
    obtain ⟨handled, hvolumes, hnoted⟩ := hhandled.parts
    refine ⟨⟨handled, hvolumes, hnoted.mono hpre (List.Subset.refl _)⟩, fun hstage r hr => ?_⟩
    exact Cluster.caches_step_isSome (hhandled.refetch hstage r hr)
  | started _ =>
    exact ⟨⟨[], rfl, fun r hr => absurd hr (by simp)⟩,
      fun hstage => absurd hstage (by simp [Admission.start])⟩
  | skipped hold htodo hskip =>
    rename_i a fails info
    obtain ⟨-, hhandled⟩ := h.admission a hold
    have hcur : a.current = none := by
      rcases hskip with hcur | hfails
      · exact hcur
      · subst hfails
        simp [Event.spares] at hspares
    obtain ⟨v, rest, hcons⟩ := exists_cons_of_ne_nil htodo
    refine hhandled.next hpre hcons (List.Subset.refl _) fun r hr => ?_
    rw [Admission.current, hcons, head?_cons, bind_some, hr] at hcur
    simp at hcur
  | waited hold hcur hnone =>
    rename_i a r fails info
    obtain ⟨-, hhandled⟩ := h.admission a hold
    obtain ⟨handled, hvolumes, hnoted⟩ := hhandled.parts
    unfold Cluster.unensured
    unfold Cluster.ensured at hnone
    rcases hstage : a.stage with _ | _ | _
    · exact ⟨⟨handled, hvolumes, hnoted.mono hpre (List.Subset.refl _)⟩,
        fun hst => absurd hst (by simp)⟩
    · refine ⟨⟨handled, hvolumes, hnoted.mono hpre (List.Subset.refl _)⟩, fun _ r' hr' => ?_⟩
      have hsame : some r' = some r := hr'.symm.trans hcur
      rw [some.inj hsame]
      apply Cluster.caches_step_isSome
      rcases hfound : s.caches.lookup (Cluster.modelCacheName env r) with _ | mc
      · rw [hstage, hfound] at hnone
        simp at hnone
      · rfl
    · -- the object of a lost race is still there
      have hfound := hhandled.refetch hstage r hcur
      rw [hstage] at hnone
      rw [show s.caches.lookup (Cluster.modelCacheName env r) = none from hnone] at hfound
      simp at hfound
  | used hold hcur hsome =>
    rename_i a r mc fails info
    obtain ⟨-, hhandled⟩ := h.admission a hold
    obtain ⟨v, rest, hcons, hparse⟩ := exists_cons_of_current hcur
    refine hhandled.next hpre hcons ?_ fun r' hr' => ?_
    · split
      · exact subset_append_left _ _
      · exact List.Subset.refl _
    · rw [hparse] at hr'
      obtain rfl := some.inj hr'
      by_cases hready : mc.status.phase = .ready
      · exact .inr ((seenReady_ensured h.reached hsome hready).mono hpre)
      · rw [if_pos hready]
        exact .inl (by simp)

variable {ref : Text}

lemma listing_step (h : Gated env es id s)
    (ht : (s.step env e).tasks.lookup n = some (.list ref)) : SeenReady env (es ++ [e]) n := by
  cases Cluster.taskMove ht with
  | kept hold => exact (h.listing n ref hold).mono (prefix_append es [e])
  | listing hmc hwrite hstored =>
    have hready := h.writing n _ _ _ hwrite
    exact seenReady_now (by rw [reach_snoc, h.reached]) hstored hready

variable {todo : List (PodId × Pod)}

lemma patching_step (h : Gated env es id s)
    (ht : (s.step env e).tasks.lookup n = some (.patch ref todo)) :
    SeenReady env (es ++ [e]) n := by
  have hpre : es <+: es ++ [e] := prefix_append es [e]
  cases Cluster.taskMove ht with
  | kept hold => exact (h.patching n ref todo hold).mono hpre
  | patching hlist => exact (h.listing n ref hlist).mono hpre
  | popped hold => exact (h.patching n ref _ hold).mono hpre

/-- A pod on a list to patch was on it before, or is listed as it stands. -/
lemma listed_cases {q : Pod} (ht : (s.step env e).tasks.lookup n = some (.patch ref todo))
    (hq : (id, q) ∈ todo) :
    (∃ todo', s.tasks.lookup n = some (.patch ref todo') ∧ (id, q) ∈ todo') ∨
      s.pods.lookup id = some q ∧ q.waits n = true := by
  cases Cluster.taskMove ht with
  | kept hold => exact .inl ⟨todo, hold, hq⟩
  | patching _ => exact .inr (mem_waiting hq)
  | popped hold => exact .inl ⟨_, hold, mem_cons_of_mem _ hq⟩

/-- Nothing but what holds the pod back can change. -/
lemma LetIn.step {past : List Event} {p' : Pod} (h : LetIn env es s id past a p)
    (hp : s.pods.lookup id = some p) (hheld : Held env es a.waitingFor p') :
    LetIn env (es ++ [e]) (s.step env e) id past a p' := by
  have hpre : es <+: es ++ [e] := prefix_append es [e]
  refine ⟨h.prior.trans hpre, h.admission, h.done, h.noted.mono hpre (List.Subset.refl _),
    hheld.mono hpre, fun n ref todo q ht hq => ?_⟩
  rcases listed_cases ht hq with ⟨todo', hold, hmem⟩ | ⟨hpod, hwaits⟩
  · obtain ⟨hwaits, hheld⟩ := h.listed n ref todo' q hold hmem
    exact ⟨hwaits, hheld.mono hpre⟩
  · rw [hp] at hpod
    obtain rfl := some.inj hpod
    exact ⟨hwaits, h.held.mono hpre⟩

/-- The admitted pod is behind the gate whenever something was found missing. -/
lemma held_admitted : Held env es a.waitingFor a.admitted := by
  intro w hw
  rcases hwaiting : a.waitingFor with _ | ⟨name, rest⟩
  · rw [hwaiting] at hw
    simp at hw
  · rw [hwaiting] at hw
    obtain rfl := some.inj hw
    exact .inl (by simp [Admission.admitted, hwaiting])

/-- A patch comes from the cache the listed pod waited for, and that cache has been Ready. -/
lemma LetIn.held_ungate {past : List Event} (h : LetIn env es s id past a p) {listed : Pod}
    (ht : s.tasks.lookup n = some (.patch ref ((id, listed) :: todo))) (hn : SeenReady env es n) :
    Held env es a.waitingFor (p.ungate listed ref) := by
  obtain ⟨hwaits, hheld⟩ := h.listed n ref _ listed ht mem_cons_self
  intro w hw
  rcases hheld w hw with ⟨hw', -⟩ | hseen
  · rw [Pod.waits, hw', getD_some, beq_iff_eq] at hwaits
    exact .inr (hwaits ▸ hn)
  · exact .inr hseen

lemma letIn_step (h : Gated env es id s) {p' : Pod}
    (hp' : (s.step env e).pods.lookup id = some p') :
    ∃ past a, LetIn env (es ++ [e]) (s.step env e) id past a p' := by
  have hpre : es <+: es ++ [e] := prefix_append es [e]
  cases Cluster.podMove hp' with
  | kept hp =>
    obtain ⟨past, a, hin⟩ := h.pod p' hp
    exact ⟨past, a, hin.step hp hin.held⟩
  | admitted ha hdone =>
    rename_i a
    obtain ⟨hnone, hhandled⟩ := h.admission a ha
    obtain ⟨handled, hvolumes, hnoted⟩ := hhandled.parts
    rw [hdone, append_nil] at hvolumes
    refine ⟨es, a,
      { prior := prefix_refl _
        admission := h.reached ▸ ha
        done := hdone
        noted := ?_
        held := held_admitted
        listed := fun n ref todo q ht hq => ?_ }⟩
    · rw [Pod.hfRefs, hvolumes]
      exact hnoted.mono hpre (List.Subset.refl _)
    · -- no list holds a pod that was not there
      rcases listed_cases ht hq with ⟨todo', hold, hmem⟩ | ⟨hpod, -⟩
      · exact absurd hmem (h.unlisted hnone n ref todo' q hold)
      · rw [hnone] at hpod
        simp at hpod
  | patched htask hp =>
    obtain ⟨past, a, hin⟩ := h.pod _ hp
    exact ⟨past, a, hin.step hp (hin.held_ungate htask (h.patching _ _ _ htask))⟩

/-- A pod under admission is not there yet. -/
lemma pods_none_of_admission (h : Gated env es id s)
    (ha' : (s.step env e).admissions.lookup id = some a') : s.pods.lookup id = none := by
  cases Cluster.admissionMove ha' with
  | kept hold | skipped hold _ _ | waited hold _ _ | used hold _ _ => exact (h.admission _ hold).1
  | started hnone => exact hnone

lemma respond_admissions (ha : s.admissions.lookup id = some a) (hdone : a.todo = []) :
    (s.respond id).admissions.lookup id = none := by
  unfold Cluster.respond
  rw [ha]
  simp [hdone]

lemma admission_step (h : Gated env es id s) (hspares : e.spares id = true)
    (ha' : (s.step env e).admissions.lookup id = some a') :
    (s.step env e).pods.lookup id = none ∧ Handled env (es ++ [e]) (s.step env e) a' := by
  have hnone := pods_none_of_admission h ha'
  refine ⟨eq_none_iff_forall_ne_some.mpr fun p hp => ?_, handled_step h hspares ha'⟩
  cases Cluster.podMove hp with
  | kept hold | patched _ hold =>
    rw [hnone] at hold
    simp at hold
  | admitted ha hdone =>
    -- the response ends the admission
    rw [show (s.step env (.respond id)).admissions.lookup id = none from
      respond_admissions ha hdone] at ha'
    simp at ha'

lemma gated_step (h : Gated env es id s) (hspares : e.spares id = true) :
    Gated env (es ++ [e]) id (s.step env e) where
  reached := by rw [reach_snoc, h.reached]
  writing := by
    intro n v st ref ht
    generalize htask : Task.write v st (some ref) = t at ht
    cases Cluster.taskMove ht with
    | kept hold => exact h.writing n v st ref (htask ▸ hold)
    | begun _ _ hwrite =>
      obtain ⟨-, rfl, hungate⟩ := Task.write.inj htask
      exact visit_ungate_ready hwrite hungate.symm
    | listing | patching | popped => simp at htask
  listing := fun n ref ht => listing_step h ht
  patching := fun n ref todo ht => patching_step h ht
  admission := fun a' ha' => admission_step h hspares ha'
  unlisted := by
    intro hnone' n ref todo q ht hq
    have hnone : s.pods.lookup id = none := by
      by_contra hsome
      have hstays := @Cluster.pods_step_isSome env s e _ (isSome_iff_ne_none.mpr hsome)
      rw [hnone'] at hstays
      simp at hstays
    rcases listed_cases ht hq with ⟨todo', hold, hmem⟩ | ⟨hpod, -⟩
    · exact h.unlisted hnone n ref todo' q hold hmem
    · rw [hnone] at hpod
      simp at hpod
  pod := fun p' hp' => letIn_step h hp'

/-! ## Whole runs -/

lemma gated_empty : Gated env [] id .empty where
  reached := rfl
  writing := fun _ _ _ _ h => absurd h (by simp [Cluster.empty])
  listing := fun _ _ h => absurd h (by simp [Cluster.empty])
  patching := fun _ _ _ h => absurd h (by simp [Cluster.empty])
  admission := fun _ h => absurd h (by simp [Cluster.empty])
  unlisted := fun _ _ _ _ _ h => absurd h (by simp [Cluster.empty])
  pod := fun _ h => absurd h (by simp [Cluster.empty])

lemma gated_run (h : ∀ e ∈ es, e.spares id = true) : Gated env es id (reach env es) :=
  run_history (fun es s => Gated env es id s) (fun _ _ _ hg hspares => gated_step hg hspares)
    gated_empty (along_of_forall_mem (fun e he _ => h e he) _)

end

/-- **No gate, no missing model but the later ones.** A pod without the gate was let in by an
admission that handled all its volumes; every cache they name has been Ready, unless the webhook
noted it as not Ready behind another one. -/
theorem ungated_after_ready {env : Env} {es : List Event} {id : PodId}
    (h : ∀ e ∈ es, e.spares id = true) {p : Pod} (hp : (reach env es).pods.lookup id = some p)
    (hgate : schedulingGateName ∉ p.schedulingGates) :
    ∃ past a, past ++ [.respond id] <+: es ∧ (reach env past).admissions.lookup id = some a ∧
      a.todo = [] ∧ ∀ r ∈ a.request.hfRefs,
        (Cluster.modelCacheName env r ∈ a.waitingFor →
          a.waitingFor.head? = some (Cluster.modelCacheName env r)) →
        SeenReady env es (Cluster.modelCacheName env r) := by
  obtain ⟨past, a, hin⟩ := (gated_run h).pod p hp
  refine ⟨past, a, hin.prior, hin.admission, hin.done, fun r hr hfirst => ?_⟩
  rcases hin.noted r hr with hnoted | hseen
  · rcases hin.held _ (hfirst hnoted) with ⟨-, hgated⟩ | hseen
    · exact absurd hgated hgate
    · exact hseen
  · exact hseen

/-- A pod with two models. -/
def samplePod : Pod := ⟨[some "hf.co/o/a".toList, some "hf.co/o/b".toList], [], none, none⟩

/-- Both caches made for it, and the first found in the registry. -/
def twoModels : List Event :=
  [.submit 0 samplePod, .advance 0 false none, .advance 0 false none, .advance 0 false none,
      .advance 0 false none, .respond 0] ++
    reconciled "o-a".toList
      ⟨.ok { sampleResolution "r/o/a:rev-main".toList with cached := true }, .answered,
        false, false⟩ ++
    [.list "o-a".toList true, .patch "o-a".toList .answered]

theorem ungated_after_ready_first : ∃ p, (reach sampleEnv twoModels).pods.lookup 0 = some p ∧
    schedulingGateName ∉ p.schedulingGates ∧
    ∃ past a, past ++ [.respond 0] <+: twoModels ∧
      (reach sampleEnv past).admissions.lookup 0 = some a ∧ a.todo = [] ∧
      ∀ r ∈ a.request.hfRefs,
        (Cluster.modelCacheName sampleEnv r ∈ a.waitingFor →
          a.waitingFor.head? = some (Cluster.modelCacheName sampleEnv r)) →
        SeenReady sampleEnv twoModels (Cluster.modelCacheName sampleEnv r) := by
  have hspares : (twoModels.all fun e => e.spares 0) = true := by decide +kernel
  have hend : ((reach sampleEnv twoModels).pods.lookup 0).any (fun p =>
      schedulingGateName ∉ p.schedulingGates) = true := by
    decide +kernel
  obtain ⟨p, hp, hgate⟩ := (any_eq_true _ _).mp hend
  have hgate' := of_decide_eq_true hgate
  exact ⟨p, hp, hgate', ungated_after_ready (all_eq_true.mp hspares) hp hgate'⟩

/-- The first cache's reconcile removes the gate; the second cache has not been Ready. -/
theorem ungated_before_second_ready :
    (∀ e ∈ twoModels, e.spares 0 = true) ∧ .submit 0 samplePod ∈ twoModels ∧
      (∃ p, (reach sampleEnv twoModels).pods.lookup 0 = some p ∧
        schedulingGateName ∉ p.schedulingGates) ∧
      ∃ r ∈ samplePod.hfRefs,
        ¬SeenReady sampleEnv twoModels (Cluster.modelCacheName sampleEnv r) := by
  have hspares : (twoModels.all fun e => e.spares 0) = true := by decide +kernel
  have hend : ((reach sampleEnv twoModels).pods.lookup 0).any (fun p =>
      schedulingGateName ∉ p.schedulingGates) = true := by
    decide +kernel
  have hnever : ∀ k ≤ twoModels.length,
      ((reach sampleEnv (twoModels.take k)).caches.lookup
        (Cluster.modelCacheName sampleEnv ⟨"o/b".toList, []⟩)).all
          (fun mc => mc.status.phase ≠ .ready) = true := by
    decide +kernel
  obtain ⟨p, hp, hgate⟩ := (any_eq_true _ _).mp hend
  refine ⟨all_eq_true.mp hspares, mem_cons_self, ⟨p, hp, of_decide_eq_true hgate⟩,
    ⟨"o/b".toList, []⟩, by decide +kernel, ?_⟩
  rintro ⟨past, mc, hpast, hmc, hready⟩
  have hne := hnever past.length hpast.length_le
  rw [← prefix_iff_eq_take.mp hpast, hmc] at hne
  exact of_decide_eq_true hne hready

end Homelab.OciModelCache
