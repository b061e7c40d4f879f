import Homelab.Lib.Table
import Homelab.OciModelCache.CopyJob

/-!
# The state machine of a model cache

The generated `statemachine` package and the visitor of `modelcache_controller.go`: how a reconcile
reads the state of a `ModelCache` off its status, and what it then does.

* A state is calculated from the status (`calculate`), a transition builds the next one, and
  `applyStateToStatus` writes it back.
* A visit is a function of the object it read, the jobs it can look up and what the outside answers
  (`Answers`). What it does is data (`Visit`): at most one job created, at most one status written,
  and whether waiting pods are ungated after the write.
* When a reconcile runs is left open, so the requeue intervals are left out; so are conditions,
  which nothing writes, and logs.
-/

namespace Homelab.OciModelCache

open Homelab.Lib

/-! ## `model_cache_phases.go`, `modelcache_types.go` -/

/-- The phase as the status names it. -/
inductive Phase where
  /-- The empty text of a new object. -/
  | unset
  | pending
  | resolving
  | syncing
  | ready
  | failed
  | unknown
  | unrecognised (text : Text)
  deriving DecidableEq, Repr

def Phase.text : Phase → Text
  | unset => []
  | pending => "Pending".toList
  | resolving => "Resolving".toList
  | syncing => "Syncing".toList
  | ready => "Ready".toList
  | failed => "Failed".toList
  | unknown => "Unknown".toList
  | unrecognised text => text

/-- Source: `ModelCacheStatus` -/
structure Status where
  phase : Phase
  resolvedRef : Text
  digest : Text
  resolvedRevision : Text
  format : Text
  fileCount : Int
  totalSize : Int
  syncJobName : Text
  errorMessage : Text
  permanent : Bool
  lastState : Text
  observedGeneration : Nat
  observedPhase : Text
  deriving DecidableEq, Repr

def Status.empty : Status where
  phase := .unset
  resolvedRef := []
  digest := []
  resolvedRevision := []
  format := []
  fileCount := 0
  totalSize := 0
  syncJobName := []
  errorMessage := []
  permanent := false
  lastState := []
  observedGeneration := 0
  observedPhase := []

/-- A `ModelCache`; its name is the key it is stored under. -/
structure ModelCache where
  spec : Spec
  generation : Nat
  resourceVersion : Nat
  status : Status
  deriving DecidableEq, Repr

/-- What the API server stores for a new object. -/
def ModelCache.new (spec : Spec) : ModelCache := ⟨spec, 1, 1, .empty⟩

/-! ## `model_cache_types.go` -/

/-- What a failed state keeps. -/
structure ErrorInfo where
  errorMessage : Text
  lastState : Text
  permanent : Bool
  deriving DecidableEq, Repr

/-- What a resolution gives the later states. -/
structure ResolveResult where
  digest : Text
  fileCount : Int
  format : Text
  resolvedRef : Text
  resolvedRevision : Text
  totalSize : Int
  deriving DecidableEq, Repr

/-- `Validate` of each group of fields: the error, if there is one. -/
def ErrorInfo.validate (g : ErrorInfo) : Option String :=
  if g.errorMessage = [] then some "errorMessage is required"
  else if g.lastState = [] then some "lastState is required"
  else none

def ResolveResult.validate (g : ResolveResult) : Option String :=
  if g.format = [] then some "format is required"
  else if g.resolvedRef = [] then some "resolvedRef is required"
  else if g.resolvedRevision = [] then some "resolvedRevision is required"
  else none

/-- The states of the machine. -/
inductive State where
  | pending
  | resolving (r : ResolveResult)
  | syncing (r : ResolveResult) (syncJobName : Text)
  | ready (r : ResolveResult)
  | failed (e : ErrorInfo)
  | unknown (observedPhase : Text)
  deriving DecidableEq, Repr

def State.isResolving : State → Bool
  | .resolving _ => true
  | _ => false

def State.isSyncing : State → Bool
  | .syncing _ _ => true
  | _ => false

/-- What a state needs and does not have. -/
def State.validate : State → Option String
  | .pending => none
  | .resolving r => r.validate
  | .syncing r job =>
    r.validate <|> if job = [] then some "syncJobName is required" else none
  | .ready r =>
    r.validate <|> if r.digest = [] then some "digest is required for Ready state" else none
  | .failed e => e.validate
  | .unknown p => if p = [] then some "observedPhase is required for Unknown state" else none

/-! ## `model_cache_calculator.go`, `model_cache_status.go` -/

def Status.resolveResult (s : Status) : ResolveResult where
  digest := s.digest
  fileCount := s.fileCount
  format := s.format
  resolvedRef := s.resolvedRef
  resolvedRevision := s.resolvedRevision
  totalSize := s.totalSize

/-- The state a status claims to be in, before it is validated. -/
def Status.claimed (s : Status) : State :=
  match s.phase with
  | .unset => .pending
  | .pending => .pending
  | .resolving => .resolving s.resolveResult
  | .syncing => .syncing s.resolveResult s.syncJobName
  | .ready => .ready s.resolveResult
  | .failed => .failed ⟨s.errorMessage, s.lastState, s.permanent⟩
  | .unknown => .unknown s.observedPhase
  | .unrecognised text => .unknown text

/-- Source: `Calculate`. An object about to be deleted is treated like any other. -/
def calculate (mc : ModelCache) : State :=
  match mc.status.phase with
  | .unrecognised text => .unknown text
  | phase => if mc.status.claimed.validate.isSome then .unknown phase.text else mc.status.claimed

/-- The spec is newer than what was observed. -/
def hasSpecChanged (mc : ModelCache) : Bool := mc.generation != mc.status.observedGeneration

def Status.withResult (s : Status) (r : ResolveResult) : Status :=
  { s with
    digest := r.digest
    fileCount := r.fileCount
    format := r.format
    resolvedRef := r.resolvedRef
    resolvedRevision := r.resolvedRevision
    totalSize := r.totalSize }

/-- The status that says the state. -/
def applyStateToStatus (state : State) (s : Status) : Status :=
  match state with
  | .pending => { s with phase := .pending }
  | .resolving r => { s.withResult r with phase := .resolving }
  | .syncing r job => { s.withResult r with phase := .syncing, syncJobName := job }
  | .ready r => { s.withResult r with phase := .ready }
  | .failed e =>
    { s with
      phase := .failed
      errorMessage := e.errorMessage
      lastState := e.lastState
      permanent := e.permanent }
  | .unknown p => { s with phase := .unknown, observedPhase := p }

/-! ## Jobs -/

/-- Source: `resolver.go`, `ResolveResult`, which is also what `parseResultJSON` returns. -/
structure Resolution where
  ref : Text
  digest : Text
  cached : Bool
  revision : Text
  format : Text
  fileCount : Int
  totalSize : Int
  deriving DecidableEq, Repr

def Resolution.result (r : Resolution) : ResolveResult where
  digest := r.digest
  fileCount := r.fileCount
  format := r.format
  resolvedRef := r.ref
  resolvedRevision := r.revision
  totalSize := r.totalSize

/-- How a job stands. -/
inductive JobState where
  | running
  /-- With the termination message, if it was written and is JSON. -/
  | complete (message : Option Resolution)
  | failed (reason : Text)
  deriving DecidableEq, Repr

/-- A copy job: its spec and how it stands. -/
structure Job where
  /-- The label `oci-model-cache.jomcgi.dev/modelcache`. -/
  modelcache : Text
  args : List Text
  state : JobState
  deriving DecidableEq, Repr

structure Config where
  unicode : Unicode
  digest : Digest
  registry : Text
  syncMaxParallel : Text

def copyJobName (cfg : Config) (mc : ModelCache) : Text :=
  jobName cfg.unicode cfg.digest mc.status.resolvedRef

/-- The job for a ModelCache. -/
def buildCopyJob (cfg : Config) (name : Text) (mc : ModelCache) : Job where
  modelcache := name
  args := copyArgs cfg.syncMaxParallel mc.spec
  state := .running

/-! ## `modelcache_controller.go` -/

structure ResolverError where
  message : Text
  permanent : Bool
  deriving DecidableEq, Repr

/-- How a write to the API server goes. -/
inductive Delivery where
  | answered
  | refused
  /-- The write took place, and the caller got an error. -/
  | lost
  deriving DecidableEq, Repr

/-- What the outside answers during one reconcile. -/
structure Answers where
  resolve : Except ResolverError Resolution
  /-- `Create` of the job, other than an answer that it exists. -/
  create : Delivery
  /-- `Get` of the job fails, other than because there is none. -/
  getFails : Bool
  /-- The pods of the job cannot be listed. -/
  listFails : Bool

/-- What a visit does: a job to create, a status to write, and the reference to give to waiting pods
once the status is written. -/
structure Visit where
  create : Option (Text × Job)
  write : Option Status
  ungate : Option Text

namespace Visit

def idle : Visit := ⟨none, none, none⟩

def writing (s : Status) : Visit := ⟨none, some s, none⟩

end Visit

section

variable (mc : ModelCache)

/-- Source: `updateStatus`: whatever the state came from, the generation read is observed. -/
def nextStatus (state : State) : Status :=
  applyStateToStatus state { mc.status with observedGeneration := mc.generation }

def updateStatus (state : State) : Visit := .writing (nextStatus mc state)

/-- Source: `updateStatusAndUngateWaiters` -/
def becomeReady (r : ResolveResult) : Visit :=
  ⟨none, some (nextStatus mc (.ready r)), some r.resolvedRef⟩

/-- A permanent error is stored; another is tried again. -/
def handleError (e : ResolverError) (fromPhase : Phase) : Visit :=
  if e.permanent then
    .writing { mc.status with
      phase := .failed
      lastState := fromPhase.text
      errorMessage := e.message
      permanent := true
      observedGeneration := mc.generation }
  else .idle

/-- The resolution is asked for. -/
def visitPending (a : Answers) : Visit :=
  match a.resolve with
  | .error e => handleError mc e .pending
  | .ok r => if r.cached then becomeReady mc r.result else updateStatus mc (.resolving r.result)

/-- A job that already has the name is taken for the one to create. -/
def visitResolving (cfg : Config) (name : Text) (jobs : Table Text Job) (a : Answers)
    (r : ResolveResult) : Visit :=
  let job := copyJobName cfg mc
  let create := if (jobs.lookup job).isNone then some (job, buildCopyJob cfg name mc) else none
  match a.create with
  | .answered => ⟨create, some (nextStatus mc (.syncing r job)), none⟩
  | .refused => .idle
  | .lost => ⟨create, none, none⟩

/-- Source: `parseTerminationMessage` -/
def parseTerminationMessage (a : Answers) (message : Option Resolution) : Option Resolution :=
  if a.listFails then none else message

/-- The job is created, watched or done. -/
def visitSyncing (jobs : Table Text Job) (a : Answers) (job : Text) : Visit :=
  if a.getFails then .idle
  else
    match (jobs.lookup job).map Job.state with
    | none =>
      updateStatus mc (.failed ⟨"sync job disappeared: ".toList ++ job, Phase.syncing.text, false⟩)
    | some (.complete message) =>
      match parseTerminationMessage a message with
      | none => becomeReady mc mc.status.resolveResult
      | some r => becomeReady mc r.result
    | some (.failed reason) =>
      updateStatus mc (.failed ⟨reason, Phase.syncing.text, false⟩)
    | some .running => .idle

/-- A changed spec starts over. -/
def visitReady : Visit := if hasSpecChanged mc then updateStatus mc .pending else .idle

/-- Back to pending, unless the error is permanent and the spec the same. -/
def visitFailed (e : ErrorInfo) : Visit :=
  if hasSpecChanged mc then
    .writing { mc.status with
      phase := .pending
      observedGeneration := mc.generation
      errorMessage := []
      lastState := []
      permanent := false }
  else if !e.permanent then updateStatus mc .pending
  else .idle

/-- Source: `Reconcile`, on the object it fetched. -/
def visit (cfg : Config) (name : Text) (jobs : Table Text Job) (a : Answers) : Visit :=
  match calculate mc with
  | .pending => visitPending mc a
  | .resolving r => visitResolving mc cfg name jobs a r
  | .syncing _ job => visitSyncing mc jobs a job
  | .ready _ => visitReady mc
  | .failed e => visitFailed mc e
  | .unknown _ => updateStatus mc .pending

end

/-! ## What a visit can do -/

section

variable {mc : ModelCache}

/-- A calculated state other than Unknown is what the status claims. -/
lemma calculate_eq_claimed {state : State} (h : calculate mc = state)
    (hne : ∀ p, state ≠ .unknown p) : mc.status.claimed = state := by
  unfold calculate at h
  split at h
  · exact absurd h.symm (hne _)
  · split at h
    · exact absurd h.symm (hne _)
    · exact h

lemma calculate_resolving {r : ResolveResult} (h : calculate mc = .resolving r) :
    mc.status.phase = .resolving ∧ r = mc.status.resolveResult := by
  have hc := calculate_eq_claimed h (fun p => by simp)
  unfold Status.claimed at hc
  split at hc <;> cases hc
  exact ⟨‹_›, rfl⟩

lemma calculate_syncing {r : ResolveResult} {job : Text} (h : calculate mc = .syncing r job) :
    mc.status.phase = .syncing ∧ r = mc.status.resolveResult ∧ job = mc.status.syncJobName := by
  have hc := calculate_eq_claimed h (fun p => by simp)
  unfold Status.claimed at hc
  split at hc <;> cases hc
  exact ⟨‹_›, rfl, rfl⟩

@[simp] lemma nextStatus_observedGeneration (state : State) :
    (nextStatus mc state).observedGeneration = mc.generation := by
  cases state <;> rfl

variable (mc) (cfg : Config) (name : Text) (jobs : Table Text Job) (a : Answers)

/-- The job a visit in Resolving creates, unless one has its name. -/
def createdJob : Option (Text × Job) :=
  if (jobs.lookup (copyJobName cfg mc)).isNone then
    some (copyJobName cfg mc, buildCopyJob cfg name mc)
  else none

/-- What a visit does, with where it comes from. -/
inductive Visited : Visit → Prop where
  | idle : Visited .idle
  /-- Back to Pending, or to Failed. -/
  | settled {st : Status} : st.phase = .pending ∨ st.phase = .failed →
      st.observedGeneration = mc.generation → Visited (.writing st)
  | resolved {r : Resolution} : calculate mc = .pending → a.resolve = .ok r →
      Visited (updateStatus mc (.resolving r.result))
  | hit {r : Resolution} : calculate mc = .pending → a.resolve = .ok r →
      Visited (becomeReady mc r.result)
  /-- The job was created and the controller does not know. -/
  | orphaned {r : ResolveResult} : calculate mc = .resolving r →
      Visited ⟨createdJob mc cfg name jobs, none, none⟩
  | started {r : ResolveResult} : calculate mc = .resolving r →
      Visited ⟨createdJob mc cfg name jobs,
        some (nextStatus mc (.syncing r (copyJobName cfg mc))), none⟩
  | reported {r : ResolveResult} {n : Text} {job : Job} {m : Resolution} :
      calculate mc = .syncing r n → jobs.lookup n = some job → job.state = .complete (some m) →
      Visited (becomeReady mc m.result)
  /-- No message could be read: what the status already says. -/
  | unreported {r : ResolveResult} {n : Text} {job : Job} {message : Option Resolution} :
      calculate mc = .syncing r n → jobs.lookup n = some job → job.state = .complete message →
      Visited (becomeReady mc mc.status.resolveResult)

/-- **What a visit can do.** -/
theorem visit_visited : Visited mc cfg name jobs a (visit mc cfg name jobs a) := by
  unfold visit
  split
  case _ hc =>
    unfold visitPending
    split
    · unfold handleError
      split
      · exact .settled (.inr rfl) rfl
      · exact .idle
    · split
      · exact .hit hc ‹_›
      · exact .resolved hc ‹_›
  case _ r hc =>
    unfold visitResolving
    cases a.create with
    | answered => exact .started hc
    | refused => exact .idle
    | lost => exact .orphaned hc
  case _ r n hc =>
    unfold visitSyncing
    split
    · exact .idle
    · rcases hj : jobs.lookup n with _ | job
      · exact .settled (.inr rfl) rfl
      · rcases hs : job.state with _ | message | reason
        · simp only [Option.map_some, hs]
          exact .idle
        · simp only [Option.map_some, hs]
          unfold parseTerminationMessage
          split
          · exact .unreported hc hj hs
          · rename_i hm
            split at hm
            · simp at hm
            · exact .reported hc hj (hm ▸ hs)
        · simp only [Option.map_some, hs]
          exact .settled (.inr rfl) rfl
  case _ =>
    unfold visitReady
    split
    · exact .settled (.inl rfl) rfl
    · exact .idle
  case _ e _ =>
    unfold visitFailed
    split
    · exact .settled (.inl rfl) rfl
    · split
      · exact .settled (.inl rfl) rfl
      · exact .idle
  case _ => exact .settled (.inl rfl) rfl

end

end Homelab.OciModelCache
