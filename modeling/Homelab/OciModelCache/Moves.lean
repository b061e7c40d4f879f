import Homelab.OciModelCache.Cluster

/-!
# What a step can change

One lemma for each table of the cluster: a row that is there after a step was there before, or is
one of the few things a step writes, and then the lemma says from what. All invariants go through
these.
-/

namespace Homelab.OciModelCache

open Homelab.Lib Option Table

/-- The tables of the cluster. -/
inductive Kind where
  | caches | jobs | tasks | pods | admissions

/-- The tables an event may write. -/
def Event.writes : Event → Kind → Bool
  | .create .., .caches | .edit .., .caches | .advance .., .caches | .write .., .caches
  | .reconcile .., .jobs | .finishJob .., .jobs | .cleanUp .., .jobs
  | .reconcile .., .tasks | .write .., .tasks | .list .., .tasks | .patch .., .tasks
  | .patch .., .pods | .respond .., .pods
  | .submit .., .admissions | .advance .., .admissions | .respond .., .admissions => true
  | _, _ => false

/-- The other tables are as they were. -/
structure Event.Keeps (e : Event) (s s' : Cluster) : Prop where
  caches : e.writes .caches = false → s'.caches = s.caches
  jobs : e.writes .jobs = false → s'.jobs = s.jobs
  tasks : e.writes .tasks = false → s'.tasks = s.tasks
  pods : e.writes .pods = false → s'.pods = s.pods
  admissions : e.writes .admissions = false → s'.admissions = s.admissions

namespace Cluster

variable {env : Env} {s : Cluster} {e : Event}

/-! ## Frames -/

lemma create_of_none {name : Text} (h : s.caches.lookup name = none) (spec : Spec) :
    s.create name spec = { s with caches := s.caches.insert name (.new spec) } := by
  simp [create, h]

variable (name : Text) (t : Option Task) (d : Delivery)

@[simp] lemma setTask_caches : (s.setTask name t).caches = s.caches := by
  cases t <;> rfl

@[simp] lemma setTask_jobs : (s.setTask name t).jobs = s.jobs := by
  cases t <;> rfl

@[simp] lemma setTask_admissions : (s.setTask name t).admissions = s.admissions := by
  cases t <;> rfl

@[simp] lemma setTask_pods : (s.setTask name t).pods = s.pods := by
  cases t <;> rfl

lemma setTask_tasks (n : Text) (t : Option Task) :
    (s.setTask name t).tasks.lookup n = if n = name then t else s.tasks.lookup n := by
  cases t with
  | none => exact lookup_erase _ _ _
  | some t => exact lookup_insert _ _ _ _

/-- An admission writes no jobs and no reconcile. -/
lemma advance_jobs (id : PodId) (fails : Bool) (info : Option ModelInfo) :
    (s.advance env id fails info).jobs = s.jobs ∧ (s.advance env id fails info).tasks = s.tasks ∧
      (s.advance env id fails info).pods = s.pods := by
  unfold advance
  split
  · exact ⟨rfl, rfl, rfl⟩
  · split
    · exact ⟨rfl, rfl, rfl⟩
    · split
      · exact ⟨rfl, rfl, rfl⟩
      · split
        · exact ⟨rfl, rfl, rfl⟩
        · unfold ensure
          dsimp only
          split
          · exact ⟨rfl, rfl, rfl⟩
          · split
            · unfold create
              split <;> exact ⟨rfl, rfl, rfl⟩
            · exact ⟨rfl, rfl, rfl⟩

/-- An event leaves the tables it does not write as they are. -/
lemma step_keeps (env : Env) (s : Cluster) (e : Event) : e.Keeps s (s.step env e) := by
  cases e with
  | edit | finishJob | cleanUp => constructor <;> intro hw <;> first | rfl | cases hw
  | create name spec =>
    change Event.Keeps _ s (s.create name spec)
    unfold create
    split <;> constructor <;> intro hw <;> first | rfl | cases hw
  | submit id pod =>
    change Event.Keeps _ s (s.submit id pod)
    unfold submit
    split <;> constructor <;> intro hw <;> first | rfl | cases hw
  | reconcile name a =>
    change Event.Keeps _ s (s.reconcile env name a)
    unfold reconcile
    split
    · constructor <;> exact fun _ => rfl
    · split <;> constructor <;> intro hw <;> first | rfl | cases hw
  | write name d =>
    change Event.Keeps _ s (s.write name d)
    unfold write
    split
    · split <;> constructor <;> intro hw <;> first | (simp [storeStatus]; done) | cases hw
    · constructor <;> exact fun _ => rfl
  | list name ok =>
    change Event.Keeps _ s (s.list name ok)
    unfold list
    split
    · constructor <;> intro hw <;> first | simp | cases hw
    · constructor <;> exact fun _ => rfl
  | patch name d =>
    change Event.Keeps _ s (s.patch name d)
    unfold patch
    split
    · split <;> constructor <;> intro hw <;> first | (simp; done) | cases hw
    · constructor <;> intro hw <;> first | simp | cases hw
    · constructor <;> exact fun _ => rfl
  | advance id fails info =>
    obtain ⟨hjobs, htasks, hpods⟩ := @advance_jobs env s id fails info
    constructor <;> intro hw <;> first | assumption | cases hw
  | respond id =>
    change Event.Keeps _ s (s.respond id)
    unfold respond
    split
    · split <;> constructor <;> intro hw <;> first | rfl | cases hw
    · constructor <;> exact fun _ => rfl

/-- Of the caches, an admission changes at most one: it makes one that was not there. -/
lemma advance_caches (id : PodId) (fails : Bool) (info : Option ModelInfo) :
    (s.advance env id fails info).caches = s.caches ∨
      ∃ h a, s.admissions.lookup id = some a ∧ a.current = some h ∧
        s.caches.lookup (modelCacheName env h) = none ∧
        (s.advance env id fails info).caches =
          s.caches.insert (modelCacheName env h) (.new (webhookSpec env.cfg.registry h)) := by
  unfold advance
  split
  · exact .inl rfl
  · rename_i a ha
    split
    · exact .inl rfl
    · split
      · exact .inl rfl
      · rename_i h hcur
        split
        · exact .inl rfl
        · unfold ensure
          dsimp only
          split
          · exact .inl rfl
          · rename_i mc hmc
            by_cases hstage : a.stage = .create
            · rcases hfound : s.caches.lookup (modelCacheName env h) with _ | found
              · have hnew : mc = .new (webhookSpec env.cfg.registry h) := by
                  rw [ensured, hstage, hfound] at hmc
                  exact (some.inj hmc).symm
                refine .inr ⟨h, a, ha, hcur, hfound, ?_⟩
                rw [if_pos hstage, create_of_none hfound, hnew]
                rfl
              · rw [ensured, hstage, hfound] at hmc
                simp at hmc
            · rw [if_neg hstage]
              exact .inl rfl

/-! ## Caches -/

/-- The steps that make a cache: someone's, or the webhook's for the volume at hand. -/
inductive Makes (env : Env) (s : Cluster) : Event → Text → Spec → Prop where
  | byHand {n : Text} {spec : Spec} : Makes env s (.create n spec) n spec
  | byWebhook {id : PodId} {fails : Bool} {info : Option ModelInfo} {a : Admission} {h : HfRef} :
      s.admissions.lookup id = some a → a.current = some h →
      Makes env s (.advance id fails info) (modelCacheName env h) (webhookSpec env.cfg.registry h)

/-- The caches after a step. -/
inductive CachesStep (env : Env) (s : Cluster) : Event → Table Text ModelCache → Prop where
  | kept {e : Event} : CachesStep env s e s.caches
  | made {e : Event} {n : Text} {spec : Spec} : Makes env s e n spec → s.caches.lookup n = none →
      CachesStep env s e (s.caches.insert n (.new spec))
  | edited {n : Text} {spec : Spec} : CachesStep env s (.edit n spec) (s.edit n spec).caches
  | stored {n : Text} {mc : ModelCache} {d : Delivery} {st : Status} {ungate : Option Text} :
      s.caches.lookup n = some mc → s.tasks.lookup n = some (.write mc.resourceVersion st ungate) →
      CachesStep env s (.write n d) (s.storeStatus n st).caches

lemma write_caches : CachesStep env s (.write name d) (s.write name d).caches := by
  unfold write
  split
  · rename_i version st ungate ht
    split
    · exact .kept
    · rename_i hok
      rw [not_or, Bool.not_eq_false, accepts, any_eq_true] at hok
      obtain ⟨-, mc, hmc, hver⟩ := hok
      rw [setTask_caches]
      exact .stored hmc (by rw [ht, beq_iff_eq.mp hver])
  · exact .kept

lemma caches_step (e : Event) : CachesStep env s e (s.step env e).caches := by
  have hkeeps := step_keeps env s e
  cases e with
  | create name spec =>
    change CachesStep env s _ (s.create name spec).caches
    rcases hfound : s.caches.lookup name with _ | mc
    · rw [create_of_none hfound]
      exact .made .byHand hfound
    · simp only [create, hfound]
      exact .kept
  | edit name spec => exact .edited
  | write name d => exact write_caches name d
  | advance id fails info =>
    change CachesStep env s _ (s.advance env id fails info).caches
    rcases @advance_caches env s id fails info with hc | ⟨r, a, ha, hcur, hnone, hc⟩
    · rw [hc]
      exact .kept
    · rw [hc]
      exact .made (.byWebhook ha hcur) hnone
  | _ =>
    rw [hkeeps.caches rfl]
    exact .kept

/-- How a stored cache came to be as it is after a step. -/
inductive CacheMove (env : Env) (s : Cluster) (n : Text) : Event → ModelCache → Prop where
  | kept {e : Event} {mc : ModelCache} : s.caches.lookup n = some mc → CacheMove env s n e mc
  | made {e : Event} {spec : Spec} : Makes env s e n spec → s.caches.lookup n = none →
      CacheMove env s n e (.new spec)
  | edited {mc : ModelCache} {spec : Spec} : s.caches.lookup n = some mc →
      CacheMove env s n (.edit n spec)
        ⟨spec, mc.generation + 1, mc.resourceVersion + 1, mc.status⟩
  | stored {mc : ModelCache} {d : Delivery} {st : Status} {ungate : Option Text} :
      s.caches.lookup n = some mc → s.tasks.lookup n = some (.write mc.resourceVersion st ungate) →
      CacheMove env s n (.write n d) ⟨mc.spec, mc.generation, mc.resourceVersion + 1, st⟩

variable {n : Text}

lemma cacheMove {mc' : ModelCache} (h : (s.step env e).caches.lookup n = some mc') :
    CacheMove env s n e mc' := by
  have hstep : CachesStep env s e (s.step env e).caches := caches_step e
  generalize (s.step env e).caches = caches at h hstep
  cases hstep with
  | kept => exact .kept h
  | made hmakes hnone =>
    obtain ⟨rfl, rfl⟩ | ⟨-, h⟩ := of_lookup_insert h
    · exact .made hmakes hnone
    · exact .kept h
  | edited =>
    obtain ⟨rfl, mc, hmc, rfl⟩ | ⟨-, h⟩ := of_lookup_update h
    · exact .edited hmc
    · exact .kept h
  | stored hmc ht =>
    obtain ⟨rfl, mc, hmc', rfl⟩ | ⟨-, h⟩ := of_lookup_update h
    · rw [hmc] at hmc'
      obtain rfl := some.inj hmc'
      exact .stored hmc ht
    · exact .kept h

/-- No step removes a cache. -/
lemma caches_step_isSome (h : (s.caches.lookup n).isSome) :
    ((s.step env e).caches.lookup n).isSome := by
  have hstep : CachesStep env s e (s.step env e).caches := caches_step e
  generalize (s.step env e).caches = caches at hstep
  cases hstep with
  | kept => exact h
  | made hmakes hnone =>
    rw [lookup_insert]
    split
    · rfl
    · exact h
  | edited =>
    simp only [edit, lookup_update]
    split
    · rename_i hn
      subst hn
      simpa using h
    · exact h
  | stored hmc ht =>
    simp only [storeStatus, lookup_update]
    split
    · simp_all
    · exact h

/-! ## Jobs -/

/-- How a job came to be as it is after a step. -/
inductive JobMove (env : Env) (s : Cluster) (j : Text) : Event → Job → Prop where
  | kept {e : Event} {job : Job} : s.jobs.lookup j = some job → JobMove env s j e job
  /-- A visit in Resolving found no job of that name. -/
  | created {n : Text} {a : Answers} {mc : ModelCache} {r : ResolveResult} :
      s.caches.lookup n = some mc → s.tasks.lookup n = none → calculate mc = .resolving r →
      s.jobs.lookup j = none → j = copyJobName env.cfg mc →
      JobMove env s j (.reconcile n a) (buildCopyJob env.cfg n mc)
  | finished {job : Job} {state : JobState} : s.jobs.lookup j = some job →
      JobMove env s j (.finishJob j state) { job with state := state }

lemma act_jobs {j : Text} {mc : ModelCache} {a : Answers} {job : Job}
    (hmc : s.caches.lookup n = some mc) (ht : s.tasks.lookup n = none)
    (h : (s.act n mc (visit mc env.cfg n s.jobs a)).jobs.lookup j = some job) :
    JobMove env s j (.reconcile n a) job := by
  have hv := visit_visited mc env.cfg n s.jobs a
  generalize visit mc env.cfg n s.jobs a = v at h hv
  -- only the two visits of Resolving create
  have hcreated : ∀ r w u, calculate mc = .resolving r →
      (s.act n mc ⟨createdJob mc env.cfg n s.jobs, w, u⟩).jobs.lookup j = some job →
      JobMove env s j (.reconcile n a) job := by
    intro r w u hc h
    unfold createdJob at h
    split at h
    · rename_i hnone
      obtain ⟨rfl, rfl⟩ | ⟨-, h⟩ := of_lookup_insert h
      · exact .created hmc ht hc (by simpa using hnone) rfl
      · exact .kept h
    · exact .kept h
  cases hv with
  | idle | settled _ _ | resolved _ _ | hit _ _ | reported _ _ _ | unreported _ _ _ => exact .kept h
  | orphaned hc | started hc => exact hcreated _ _ _ hc h

lemma jobMove {j : Text} {job : Job} (h : (s.step env e).jobs.lookup j = some job) :
    JobMove env s j e job := by
  have hkeeps := step_keeps env s e
  cases e with
  | reconcile name a =>
    change (s.reconcile env name a).jobs.lookup j = some job at h
    unfold reconcile at h
    split at h
    · exact .kept h
    · split at h
      · exact .kept h
      · rename_i mc hmc ht
        exact act_jobs hmc (by simpa using ht) h
  | finishJob name state =>
    change (s.jobs.update name _).lookup j = some job at h
    obtain ⟨rfl, job₀, hjob, rfl⟩ | ⟨-, h⟩ := of_lookup_update h
    · split
      · exact .finished hjob
      · exact .kept hjob
    · exact .kept h
  | cleanUp name =>
    change (AList.erase name s.jobs).lookup j = some job at h
    exact .kept (of_lookup_erase h).2
  | _ =>
    rw [hkeeps.jobs rfl] at h
    exact .kept h

/-! ## Reconciles in flight -/

/-- How what is left of a reconcile came to be so after a step. -/
inductive TaskMove (env : Env) (s : Cluster) (n : Text) : Event → Task → Prop where
  | kept {e : Event} {t : Task} : s.tasks.lookup n = some t → TaskMove env s n e t
  | begun {a : Answers} {mc : ModelCache} {st : Status} : s.caches.lookup n = some mc →
      s.tasks.lookup n = none → (visit mc env.cfg n s.jobs a).write = some st →
      TaskMove env s n (.reconcile n a)
        (.write mc.resourceVersion st (visit mc env.cfg n s.jobs a).ungate)
  /-- A status was stored that waiting pods are to hear of. -/
  | listing {mc : ModelCache} {d : Delivery} {st : Status} {ref : Text} :
      s.caches.lookup n = some mc →
      s.tasks.lookup n = some (.write mc.resourceVersion st (some ref)) →
      (s.step env (.write n d)).caches.lookup n =
        some { mc with resourceVersion := mc.resourceVersion + 1, status := st } →
      TaskMove env s n (.write n d) (.list ref)
  | patching {ok : Bool} {ref : Text} : s.tasks.lookup n = some (.list ref) →
      TaskMove env s n (.list n ok) (.patch ref (s.waiting n))
  | popped {d : Delivery} {ref : Text} {id : PodId} {listed : Pod} {todo : List (PodId × Pod)} :
      s.tasks.lookup n = some (.patch ref ((id, listed) :: todo)) →
      TaskMove env s n (.patch n d) (.patch ref todo)

/-- A task is the one put in its place, or the old one under another name. -/
lemma setTask_cases {name : Text} {t : Option Task} {t' : Task}
    (h : (s.setTask name t).tasks.lookup n = some t') :
    n = name ∧ t = some t' ∨ s.tasks.lookup n = some t' := by
  rw [setTask_tasks] at h
  split at h
  · exact .inl ⟨‹_›, h⟩
  · exact .inr h

lemma write_taskMove {name : Text} {d : Delivery} {t : Task}
    (h : (s.write name d).tasks.lookup n = some t) : TaskMove env s n (.write name d) t := by
  have hwrite : s.step env (.write name d) = s.write name d := rfl
  unfold write at h hwrite
  split at h
  · rename_i version st ungate htask
    rw [htask] at hwrite
    split at h
    · rcases setTask_cases h with ⟨-, ht⟩ | ht
      · simp at ht
      · exact .kept ht
    · rename_i hok
      simp only [if_neg hok] at hwrite
      rw [not_or, Bool.not_eq_false, accepts, any_eq_true] at hok
      obtain ⟨-, mc, hmc, hver⟩ := hok
      obtain rfl := beq_iff_eq.mp hver
      rcases setTask_cases h with ⟨rfl, ht⟩ | ht
      · split at ht
        · obtain ⟨ref, rfl, rfl⟩ := map_eq_some_iff.mp ht
          refine .listing hmc htask ?_
          rw [hwrite, setTask_caches]
          simp [storeStatus, hmc]
        · simp at ht
      · exact .kept ht
  · exact .kept h

lemma taskMove {t : Task} (h : (s.step env e).tasks.lookup n = some t) : TaskMove env s n e t := by
  have hkeeps := step_keeps env s e
  cases e with
  | reconcile name a =>
    change (s.reconcile env name a).tasks.lookup n = _ at h
    unfold reconcile at h
    split at h
    · exact .kept h
    · split at h
      · exact .kept h
      · rename_i mc hmc ht
        simp only [act] at h
        split at h
        · rename_i st hst
          obtain ⟨rfl, rfl⟩ | ⟨-, h⟩ := of_lookup_insert h
          · exact .begun hmc (by simpa using ht) hst
          · exact .kept h
        · exact .kept h
  | write name d => exact write_taskMove h
  | list name ok =>
    change (s.list name ok).tasks.lookup n = _ at h
    unfold list at h
    split at h
    · rename_i ref htask
      rcases setTask_cases h with ⟨rfl, ht⟩ | ht
      · split at ht
        · obtain rfl := some.inj ht
          exact .patching htask
        · simp at ht
      · exact .kept ht
    · exact .kept h
  | patch name d =>
    change (s.patch name d).tasks.lookup n = _ at h
    unfold patch at h
    split at h
    · rename_i ref id listed todo htask
      have hpop : (s.setTask name (some (.patch ref todo))).tasks.lookup n = some t := by
        split at h <;> exact h
      rcases setTask_cases hpop with ⟨rfl, ht⟩ | ht
      · obtain rfl := some.inj ht
        exact .popped htask
      · exact .kept ht
    · rcases setTask_cases h with ⟨-, ht⟩ | ht
      · simp at ht
      · exact .kept ht
    · exact .kept h
  | _ =>
    rw [hkeeps.tasks rfl] at h
    exact .kept h

/-! ## Pods -/

/-- The pods after a step. -/
inductive PodsStep (s : Cluster) : Event → Table PodId Pod → Prop where
  | kept {e : Event} : PodsStep s e s.pods
  | admitted {id : PodId} {a : Admission} : s.admissions.lookup id = some a → a.todo = [] →
      PodsStep s (.respond id) (s.pods.insert id a.admitted)
  | patched {n : Text} {d : Delivery} {ref : Text} {id : PodId} {listed : Pod}
      {todo : List (PodId × Pod)} : s.tasks.lookup n = some (.patch ref ((id, listed) :: todo)) →
      PodsStep s (.patch n d) (s.pods.update id fun p => p.ungate listed ref)

lemma pods_step (e : Event) : PodsStep s e (s.step env e).pods := by
  have hkeeps := step_keeps env s e
  cases e with
  | patch name d =>
    change PodsStep s _ (s.patch name d).pods
    unfold patch
    split
    · rename_i ref id listed todo htask
      split
      · exact .kept
      · exact .patched htask
    · exact .kept
    · exact .kept
  | respond id =>
    change PodsStep s _ (s.respond id).pods
    unfold respond
    split
    · rename_i a ha
      split
      · rename_i htodo
        exact .admitted ha htodo
      · exact .kept
    · exact .kept
  | _ =>
    rw [hkeeps.pods rfl]
    exact .kept

/-- How a pod came to be as it is after a step. -/
inductive PodMove (s : Cluster) (id : PodId) : Event → Pod → Prop where
  | kept {e : Event} {p : Pod} : s.pods.lookup id = some p → PodMove s id e p
  | admitted {a : Admission} : s.admissions.lookup id = some a → a.todo = [] →
      PodMove s id (.respond id) a.admitted
  | patched {n : Text} {d : Delivery} {ref : Text} {listed p : Pod} {todo : List (PodId × Pod)} :
      s.tasks.lookup n = some (.patch ref ((id, listed) :: todo)) → s.pods.lookup id = some p →
      PodMove s id (.patch n d) (p.ungate listed ref)

variable {id : PodId}

lemma podMove {p : Pod} (h : (s.step env e).pods.lookup id = some p) : PodMove s id e p := by
  have hstep : PodsStep s e (s.step env e).pods := pods_step e
  generalize (s.step env e).pods = pods at h hstep
  cases hstep with
  | kept => exact .kept h
  | admitted ha htodo =>
    obtain ⟨rfl, rfl⟩ | ⟨-, h⟩ := of_lookup_insert h
    · exact .admitted ha htodo
    · exact .kept h
  | patched htask =>
    obtain ⟨rfl, p₀, hp, rfl⟩ | ⟨-, h⟩ := of_lookup_update h
    · exact .patched htask hp
    · exact .kept h

/-- No step removes a pod. -/
lemma pods_step_isSome (h : (s.pods.lookup id).isSome) :
    ((s.step env e).pods.lookup id).isSome := by
  have hstep : PodsStep s e (s.step env e).pods := pods_step e
  generalize (s.step env e).pods = pods at hstep
  cases hstep with
  | kept => exact h
  | admitted _ _ =>
    rw [lookup_insert]
    split
    · rfl
    · exact h
  | patched _ =>
    rw [lookup_update]
    split
    · rename_i hid
      subst hid
      simpa using h
    · exact h

/-! ## Admissions -/

/-- How an admission came to be as it is after a step. -/
inductive AdmissionMove (env : Env) (s : Cluster) (id : PodId) : Event → Admission → Prop where
  | kept {e : Event} {a : Admission} : s.admissions.lookup id = some a → AdmissionMove env s id e a
  | started {pod : Pod} : s.pods.lookup id = none →
      AdmissionMove env s id (.submit id pod) (.start pod)
  /-- The volume at hand has no `hf.co/` reference, or the call failed. -/
  | skipped {a : Admission} {fails : Bool} {info : Option ModelInfo} :
      s.admissions.lookup id = some a → a.todo ≠ [] → a.current = none ∨ fails = true →
      AdmissionMove env s id (.advance id fails info) a.skip
  | waited {a : Admission} {h : HfRef} {fails : Bool} {info : Option ModelInfo} :
      s.admissions.lookup id = some a → a.current = some h →
        s.ensured env a (modelCacheName env h) h = none →
      AdmissionMove env s id (.advance id fails info) (unensured a)
  | used {a : Admission} {h : HfRef} {mc : ModelCache} {fails : Bool} {info : Option ModelInfo} :
      s.admissions.lookup id = some a → a.current = some h →
      s.ensured env a (modelCacheName env h) h = some mc →
      AdmissionMove env s id (.advance id fails info)
        (a.use env.hub env.cfg info h (modelCacheName env h) mc)

lemma advance_admissionMove {id' : PodId} {fails : Bool} {info : Option ModelInfo}
    {a' : Admission} (h : (s.advance env id' fails info).admissions.lookup id = some a') :
    AdmissionMove env s id (.advance id' fails info) a' := by
  unfold advance at h
  split at h
  · exact .kept h
  · rename_i a ha
    split at h
    · exact .kept h
    · rename_i htodo
      -- whatever is put in place, it is the admission of this pod that changes
      have hset : ∀ {s' : Cluster} {b : Admission}, s'.admissions = s.admissions →
          (s'.setAdmission id' b).admissions.lookup id = some a' →
          id = id' ∧ b = a' ∨ s.admissions.lookup id = some a' := by
        intro s' b hs' hb
        simp only [setAdmission, hs'] at hb
        exact (of_lookup_insert hb).imp_right And.right
      split at h
      · rename_i hcur
        rcases hset rfl h with ⟨rfl, rfl⟩ | hold
        · exact .skipped ha htodo (.inl hcur)
        · exact .kept hold
      · rename_i r hcur
        split at h
        · rename_i hfails
          rcases hset rfl h with ⟨rfl, rfl⟩ | hold
          · exact .skipped ha htodo (.inr hfails)
          · exact .kept hold
        · unfold ensure at h
          dsimp only at h
          split at h
          · rename_i hnone
            rcases hset rfl h with ⟨rfl, rfl⟩ | hold
            · exact .waited ha hcur hnone
            · exact .kept hold
          · rename_i mc hsome
            have hsame :
                (if a.stage = .create then s.create (modelCacheName env r) mc.spec
                  else s).admissions =
                s.admissions := by
              split
              · exact (step_keeps env s (.create _ _)).admissions rfl
              · rfl
            rcases hset hsame h with ⟨rfl, rfl⟩ | hold
            · exact .used ha hcur hsome
            · exact .kept hold

lemma admissionMove {a' : Admission} (h : (s.step env e).admissions.lookup id = some a') :
    AdmissionMove env s id e a' := by
  have hkeeps := step_keeps env s e
  cases e with
  | submit id' pod =>
    change (s.submit id' pod).admissions.lookup id = _ at h
    unfold submit at h
    split at h
    · rename_i hfree
      obtain ⟨rfl, rfl⟩ | ⟨-, h⟩ := of_lookup_insert h
      · exact .started (by simpa using hfree.2)
      · exact .kept h
    · exact .kept h
  | advance id' fails info => exact advance_admissionMove h
  | respond id' =>
    change (s.respond id').admissions.lookup id = _ at h
    unfold respond at h
    split at h
    · split at h
      · exact .kept (of_lookup_erase h).2
      · exact .kept h
    · exact .kept h
  | _ =>
    rw [hkeeps.admissions rfl] at h
    exact .kept h

end Cluster

end Homelab.OciModelCache
