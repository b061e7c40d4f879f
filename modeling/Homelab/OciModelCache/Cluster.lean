import Homelab.Lib.Run
import Homelab.OciModelCache.Machine

/-!
# The operator in its cluster

The controller of `modelcache_controller.go` with `pod_ungater.go`, and the webhook of
`pod_mutator.go`, as one system: `ModelCache` objects, copy jobs and pods in the API server, one
reconcile in flight for each cache, and pods under admission.

* A reconcile reads its object and acts, then writes the status, then lists and patches waiting
  pods; between any two of these anything else happens. All status writes carry the resource version
  of the object that was read (`SSAPatch` keeps it, `Update` sends it), so the API server refuses
  one if the object has changed since.
* An admission handles one volume after another, each by a `Get`, a `Create` when there is nothing,
  and a second `Get` when the `Create` lost a race.
* How a call ends is data of its event.
* Deletion of caches by the TTL sweeper is left out.
-/

namespace Homelab.OciModelCache

open Homelab.Lib

/-! ## Pods -/

/-- Source: `pod_ungater.go`, `SchedulingGateName` -/
def schedulingGateName : Text := "oci-model-cache.jomcgi.dev/gated".toList

/-- What the webhook reads and writes of a pod. -/
structure Pod where
  /-- The image reference of each volume that has one. -/
  volumes : List (Option Text)
  schedulingGates : List Text
  /-- The annotation `oci-model-cache.jomcgi.dev/waiting-for`. -/
  waitingFor : Option Text
  /-- The annotation `oci-model-cache.jomcgi.dev/resolved-ref`. -/
  resolvedRef : Option Text
  deriving DecidableEq, Repr

abbrev PodId := Nat

/-- `pod.Annotations[AnnotationWaitingFor] == mcName`, a missing annotation reading as empty. -/
def Pod.waits (pod : Pod) (mcName : Text) : Bool := pod.waitingFor.getD [] == mcName

/-- Source: `buildUngatePatch`, from the pod that was listed. -/
def ungatedGates (listed : Pod) : List Text :=
  listed.schedulingGates.filter (· ≠ schedulingGateName)

/-- The patch, applied to the pod as it is. -/
def Pod.ungate (pod listed : Pod) (resolvedRef : Text) : Pod :=
  { pod with
    schedulingGates := ungatedGates listed
    waitingFor := none
    resolvedRef := some resolvedRef }

/-! ## Reconciles and admissions in flight -/

/-- What is left of a reconcile. -/
inductive Task where
  | write (version : Nat) (status : Status) (ungate : Option Text)
  | list (resolvedRef : Text)
  | patch (resolvedRef : Text) (todo : List (PodId × Pod))
  deriving DecidableEq, Repr

/-- Where `ensureModelCache` is for the volume at hand. -/
inductive Stage where
  | get
  | create
  | refetch
  deriving DecidableEq, Repr

/-- Source: `Handle`, between two calls. -/
structure Admission where
  request : Pod
  /-- References of the volumes handled, as rewritten. -/
  done : List (Option Text)
  todo : List (Option Text)
  stage : Stage
  waitingFor : List Text
  deriving DecidableEq, Repr

namespace Admission

def start (pod : Pod) : Admission := ⟨pod, [], pod.volumes, .get, []⟩

variable (a : Admission)

/-- On to the next volume, the one at hand left with the reference `ref`. -/
def next (ref : Option Text) (waitingFor : List Text) : Admission :=
  { a with done := a.done ++ [ref], todo := a.todo.drop 1, stage := .get, waitingFor := waitingFor }

/-- The volume at hand left as it is. -/
def skip : Admission := a.next (a.todo.head?.getD none) a.waitingFor

/-- The `hf.co/` reference at hand. -/
def current : Option HfRef :=
  a.todo.head?.bind fun v => v.bind parse

/-- The volume at hand rewritten for the cache `mc`, found or made under `name`. -/
def use (hub : Hub) (cfg : Config) (info : Option ModelInfo) (h : HfRef) (name : Text)
    (mc : ModelCache) : Admission :=
  let ref :=
    if mc.status.resolvedRef ≠ [] then mc.status.resolvedRef
    else resolveRefOf hub info h.repo cfg.registry h.file
  a.next (some ref) (if mc.status.phase ≠ .ready then a.waitingFor ++ [name] else a.waitingFor)

/-- The pod the admission lets in. -/
def admitted : Pod :=
  match a.waitingFor with
  | [] => { a.request with volumes := a.done }
  | name :: _ =>
    { a.request with
      volumes := a.done
      schedulingGates := a.request.schedulingGates ++ [schedulingGateName]
      waitingFor := some name }

end Admission

/-! ## The system -/

/-- All objects, and the calls under way. -/
structure Cluster where
  caches : Table Text ModelCache
  jobs : Table Text Job
  tasks : Table Text Task
  admissions : Table PodId Admission
  pods : Table PodId Pod

def Cluster.empty : Cluster := ⟨∅, ∅, ∅, ∅, ∅⟩

/-- One step of the API server, the controller or the webhook. -/
inductive Event where
  /-- Someone creates a cache. -/
  | create (name : Text) (spec : Spec)
  /-- Someone changes its spec. -/
  | edit (name : Text) (spec : Spec)
  /-- A reconcile starts: it reads the object and acts. -/
  | reconcile (name : Text) (a : Answers)
  | write (name : Text) (d : Delivery)
  | list (name : Text) (ok : Bool)
  | patch (name : Text) (d : Delivery)
  | finishJob (job : Text) (state : JobState)
  | cleanUp (job : Text)
  | submit (id : PodId) (pod : Pod)
  /-- One call of an admission, and what Hugging Face says if it is asked. -/
  | advance (id : PodId) (fails : Bool) (info : Option ModelInfo)
  | respond (id : PodId)

/-- The hub and the configuration. -/
structure Env where
  hub : Hub
  cfg : Config

namespace Cluster

variable (env : Env) (s : Cluster) (id : PodId) (a : Admission) (name : Text)

/-- A ModelCache is created, if the name is free. -/
def create (spec : Spec) : Cluster :=
  if (s.caches.lookup name).isNone then
    { s with caches := s.caches.insert name (.new spec) }
  else s

/-- A user edits the spec. -/
def edit (spec : Spec) : Cluster :=
  { s with
    caches := s.caches.update name fun mc =>
      { mc with
        spec := spec
        generation := mc.generation + 1
        resourceVersion := mc.resourceVersion + 1 } }

/-- A visit's job created and its status handed on. -/
def act (mc : ModelCache) (v : Visit) : Cluster :=
  { s with
    jobs :=
      match v.create with
      | some (job, j) => s.jobs.insert job j
      | none => s.jobs
    tasks :=
      match v.write with
      | some status => s.tasks.insert name (.write mc.resourceVersion status v.ungate)
      | none => s.tasks }

/-- Of one cache, one reconcile runs at a time. -/
def reconcile (a : Answers) : Cluster :=
  match s.caches.lookup name with
  | none => s
  | some mc =>
    if (s.tasks.lookup name).isSome then s
    else s.act name mc (visit mc env.cfg name s.jobs a)

def setTask : Option Task → Cluster
  | some t => { s with tasks := s.tasks.insert name t }
  | none => { s with tasks := s.tasks.erase name }

/-- The API server takes a status written at the resource version it has. -/
def accepts (version : Nat) : Bool :=
  (s.caches.lookup name).any fun mc => mc.resourceVersion == version

/-- The status subresource is written. -/
def storeStatus (status : Status) : Cluster :=
  { s with
    caches := s.caches.update name fun mc =>
      { mc with resourceVersion := mc.resourceVersion + 1, status := status } }

def write (name : Text) (d : Delivery) : Cluster :=
  match s.tasks.lookup name with
  | some (.write version status ungate) =>
    if d = .refused ∨ s.accepts name version = false then s.setTask name none
    else
      let s := s.storeStatus name status
      s.setTask name (if d = .answered then ungate.map .list else none)
  | _ => s

/-- The pods that wait for the cache. -/
def waiting : List (PodId × Pod) :=
  (s.pods.entries.map fun e => (e.1, e.2)).filter fun p => p.2.waits name

def list (name : Text) (ok : Bool) : Cluster :=
  match s.tasks.lookup name with
  | some (.list ref) => s.setTask name (if ok then some (.patch ref (s.waiting name)) else none)
  | _ => s

def patch (name : Text) (d : Delivery) : Cluster :=
  match s.tasks.lookup name with
  | some (.patch ref ((id, listed) :: todo)) =>
    let s := s.setTask name (some (.patch ref todo))
    if d = .refused then s
    else { s with pods := s.pods.update id fun pod => pod.ungate listed ref }
  | some (.patch _ []) => s.setTask name none
  | _ => s

/-- The copy job ends. -/
def finishJob (job : Text) (state : JobState) : Cluster :=
  { s with
    jobs := s.jobs.update job fun j => if j.state = .running then { j with state := state } else j }

def cleanUp (job : Text) : Cluster := { s with jobs := s.jobs.erase job }

/-- A pod is sent to the webhook. -/
def submit (pod : Pod) : Cluster :=
  if (s.admissions.lookup id).isNone ∧ (s.pods.lookup id).isNone then
    { s with admissions := s.admissions.insert id (.start pod) }
  else s

def setAdmission : Cluster :=
  { s with admissions := s.admissions.insert id a }

/-- The cache `ensureModelCache` returns in this call, if it returns one. -/
def ensured (h : HfRef) : Option ModelCache :=
  match a.stage, s.caches.lookup name with
  | .get, found => found
  | .create, none => some (.new (webhookSpec env.cfg.registry h))
  | .create, some _ => none
  | .refetch, found => found

/-- The call when no cache is returned: on to the next call, or an error. -/
def unensured : Admission :=
  match a.stage with
  | .get => { a with stage := .create }
  | .create => { a with stage := .refetch }
  | .refetch => a.skip

def modelCacheName (h : HfRef) : Text :=
  OciModelCache.modelCacheName env.cfg.unicode env.cfg.digest h.repo h.file

/-- One call of `ensureModelCache` for the reference `h`. -/
def ensure (h : HfRef) (info : Option ModelInfo) : Cluster :=
  let name := modelCacheName env h
  match s.ensured env a name h with
  | none => s.setAdmission id (unensured a)
  | some mc =>
    let s := if a.stage = .create then s.create name mc.spec else s
    s.setAdmission id (a.use env.hub env.cfg info h name mc)

/-- The webhook takes its next step for the pod. -/
def advance (fails : Bool) (info : Option ModelInfo) : Cluster :=
  match s.admissions.lookup id with
  | none => s
  | some a =>
    if a.todo = [] then s
    else
      match a.current with
      | none => s.setAdmission id a.skip
      | some h => if fails then s.setAdmission id a.skip else s.ensure env id a h info

/-- The webhook answers, and the pod is stored. -/
def respond : Cluster :=
  match s.admissions.lookup id with
  | some a =>
    if a.todo = [] then
      { s with admissions := s.admissions.erase id, pods := s.pods.insert id a.admitted }
    else s
  | none => s

/-- The cluster after an event. -/
def step : Event → Cluster
  | .create name spec => s.create name spec
  | .edit name spec => s.edit name spec
  | .reconcile name a => s.reconcile env name a
  | .write name d => s.write name d
  | .list name ok => s.list name ok
  | .patch name d => s.patch name d
  | .finishJob job state => s.finishJob job state
  | .cleanUp job => s.cleanUp job
  | .submit id pod => s.submit id pod
  | .advance id fails info => s.advance env id fails info
  | .respond id => s.respond id

end Cluster

end Homelab.OciModelCache
