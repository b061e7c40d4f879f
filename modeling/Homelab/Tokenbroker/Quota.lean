import Homelab.Lib.Newest

/-!
# Quota observations

`quota.go` of the token broker, with the compare-and-swap of `quota_configmap.go`: stores that share
one durable object, and keep for each provider and each grant the newest observation.

* What `time.Parse` makes of a string, which times `json.Marshal` takes, and the SHA-256 of a
  record's JSON are parameters (`Wire`).
* A time is an instant, in nanoseconds since the zero time, and an offset.
* The durable object is the list of its contents, newest first, and its revision how many there
  were. A content is the state itself: the JSON is left out, since it is always decodable here.
* A `Put` holds its store's mutex. Between its steps, the swap and the reload after a conflict,
  other stores take theirs; whether a swap is refused, or applied and reported as failed, is data of
  the step.
* Views derived at read time (ages, pacing) are left out.
-/

namespace Homelab.Tokenbroker

open Homelab.Lib

/-! ## Observations -/

structure Time where
  instant : Int
  offset : Int
  deriving DecidableEq, Repr

namespace Time

def utc (t : Time) : Time := { t with offset := 0 }

def isZero (t : Time) : Bool := t.instant == 0

/-- Source: `time.Time.After` -/
def after (t u : Time) : Bool := decide (u.instant < t.instant)

def before (t u : Time) : Bool := decide (t.instant < u.instant)

end Time

/-- The bits of a `float64`. -/
abbrev Float64 := BitVec 64

/-- `math.IsNaN` or `math.IsInf`: all bits of the exponent are set. -/
def Float64.notFinite (x : Float64) : Bool := x.extractLsb 62 52 == 0x7ff#11

/-- Source: `quota.go`, `Window` -/
structure Window where
  name : String
  usedPercent : Float64
  windowMinutes : Int
  resetsAt : String
  deriving DecidableEq, Repr

/-- Source: `quota.go`, `Observation` -/
structure Observation where
  provider : String
  observedAt : String
  status : String
  reachedType : String
  overageStatus : String
  windows : List Window
  deriving DecidableEq, Repr

/-- Source: `quota.go`, `storedObservation` -/
structure StoredObservation where
  observation : Observation
  receivedAt : Time
  deriving DecidableEq, Repr

/-- How times are read, and the digest of a record. -/
structure Wire where
  /-- `time.Parse(time.RFC3339, s)`. -/
  parse : String → Option Time
  /-- `sha256.Sum256` of `json.Marshal`, as a number. -/
  digest : StoredObservation → Nat
  /-- `json.Marshal` takes the time; it refuses years that have no four digits. -/
  encodes : Time → Bool

namespace Wire

variable (w : Wire)

def validWindow (window : Window) : Bool :=
  !(window.name == "" || window.usedPercent.notFinite || decide (window.windowMinutes < 0)) &&
    (window.resetsAt == "" ||
      match w.parse window.resetsAt with
      | none => false
      | some reset => reset.offset == 0)

/-- Source: `quota.go`, `ValidObservation` -/
def validObservation (obs : Observation) (receivedAt : Time) : Bool :=
  (obs.status == "allowed" || obs.status == "warning" || obs.status == "rejected" ||
      (obs.status == "unknown" && !obs.windows.isEmpty)) &&
    (match w.parse obs.observedAt with
      | none => false
      | some observedAt => observedAt.offset == 0 && !observedAt.after receivedAt) &&
    !receivedAt.isZero && receivedAt.offset == 0 && obs.windows.all w.validWindow

/-- When a record was observed; a time that cannot be read is the zero time. -/
def observedAt (r : StoredObservation) : Int :=
  ((w.parse r.observation.observedAt).map (·.instant)).getD 0

/-- Source: `quota.go`, `compareRecords` -/
def compareRecords (left right : StoredObservation) : Ordering :=
  if w.observedAt left < w.observedAt right then .lt
  else if w.observedAt right < w.observedAt left then .gt
  else if left.receivedAt.before right.receivedAt then .lt
  else if left.receivedAt.after right.receivedAt then .gt
  else compare (w.digest left) (w.digest right)

/-- Source: `quota.go`, `replaceIfNewer` -/
def replaceIfNewer (records : Table String StoredObservation) (key : String)
    (candidate : StoredObservation) : Bool × Table String StoredObservation :=
  records.keepNewest w.compareRecords key candidate

end Wire

/-! ## Stores -/

/-- Source: `quota.go`, `persistedState` -/
structure PersistedState where
  observations : Table String StoredObservation
  grants : Table String StoredObservation

/-- Source: `quota.go`, `emptyState` -/
def emptyState : PersistedState := ⟨∅, ∅⟩

/-- `json.Marshal` of the state succeeds. -/
def Wire.encodesState (w : Wire) (state : PersistedState) : Bool :=
  state.observations.entries.all (fun e => w.encodes e.2.receivedAt) &&
    state.grants.entries.all fun e => w.encodes e.2.receivedAt

/-- A `Put` or `PutGrant` that has passed its validation. -/
structure Put where
  grant : String
  provider : String
  candidate : StoredObservation
  deriving DecidableEq, Repr

/-- What a `Put` would write, and whether that changes anything.
Source: `quota.go`, the first lines of the loop of `put` -/
def Wire.merge (w : Wire) (state : PersistedState) (p : Put) : Bool × PersistedState :=
  let (changed, observations) := w.replaceIfNewer state.observations p.provider p.candidate
  if p.grant = "" then (changed, { state with observations := observations })
  else
    let (changed', grants) := w.replaceIfNewer state.grants p.grant p.candidate
    (changed' || changed, ⟨observations, grants⟩)

/-- Where a `Put` stands that holds the mutex. -/
inductive Pending where
  /-- It is about to swap in `next`. -/
  | swap (next : PersistedState)
  /-- It has lost a swap and is about to reload. -/
  | load

/-- A `Put` in progress, and how many of its attempts are left after this one. -/
structure Running where
  put : Put
  attempts : Nat
  pending : Pending

/-- `running` is its mutex.
Source: `quota.go`, `Store` -/
structure Store where
  state : PersistedState
  /-- None is the empty revision of a store that has loaded nothing. -/
  revision : Option Nat
  readable : Bool
  running : Option Running

/-- What a reader of the store sees.
Source: `quota.go`, `get` and `getGrant` -/
def Store.view (s : Store) : Option PersistedState := if s.readable then some s.state else none

/-- The durable object: its content and its earlier ones. -/
structure Persistence where
  current : PersistedState
  earlier : List PersistedState

namespace Persistence

def contents (p : Persistence) : List PersistedState := p.current :: p.earlier

def revision (p : Persistence) : Nat := p.earlier.length

def write (p : Persistence) (next : PersistedState) : Persistence := ⟨next, p.contents⟩

end Persistence

/-- How a swap goes whose revision matches. One whose revision does not match is not applied. -/
inductive SwapIo where
  | ok
  | conflict
  | failed
  /-- The object is updated, and the caller is told of a conflict. -/
  | appliedConflict
  | appliedFailed
  deriving DecidableEq, Repr

inductive SwapAnswer where
  | ok
  | conflict
  | failed
  deriving DecidableEq, Repr

/-- Source: `quota_configmap.go`, `CompareAndSwap` -/
def Persistence.compareAndSwap (p : Persistence) (revision : Option Nat) (next : PersistedState)
    (io : SwapIo) : SwapAnswer × Persistence :=
  if revision = some p.revision then
    match io with
    | .ok => (.ok, p.write next)
    | .conflict => (.conflict, p)
    | .failed => (.failed, p)
    | .appliedConflict => (.conflict, p.write next)
    | .appliedFailed => (.failed, p.write next)
  else
    match io with
    | .ok | .conflict | .appliedConflict => (.conflict, p)
    | .failed | .appliedFailed => (.failed, p)

/-- The outcome of a `Put`, when it has one. -/
inductive Outcome where
  | running
  | committed
  | failed
  deriving DecidableEq, Repr

namespace Store

/-- A `Put` gives up: the store is unavailable until a write succeeds. -/
def giveUp (s : Store) : Outcome × Store := (.failed, { s with readable := false, running := none })

/-- The next attempt of a `Put`.
Source: `quota.go`, `put`, from the head of its loop to the swap -/
def attempt (w : Wire) (s : Store) (p : Put) : Nat → Outcome × Store
  | 0 => s.giveUp
  | attempts + 1 =>
    let (changed, next) := w.merge s.state p
    if !changed then (.committed, { s with running := none })
    else if w.encodesState next then
      (.running, { s with running := some ⟨p, attempts, .swap next⟩ })
    else s.giveUp

/-- Source: `quota.go`, `put`, after the swap -/
def swapped (s : Store) (r : Running) (next : PersistedState) (revision : Nat) :
    SwapAnswer → Outcome × Store
  | .ok => (.committed, ⟨next, some revision, true, none⟩)
  | .conflict => (.running, { s with running := some { r with pending := .load } })
  | .failed => s.giveUp

/-- Source: `quota.go`, `put`, after the reload -/
def loaded (w : Wire) (s : Store) (r : Running) (p : Persistence) (ok : Bool) : Outcome × Store :=
  if ok then
    attempt w { s with state := p.current, revision := some p.revision, readable := true }
      r.put r.attempts
  else s.giveUp

/-- Source: `quota.go`, `NewPersistentStore` -/
def newPersistentStore (p : Persistence) (ok : Bool) : Store :=
  if ok then ⟨p.current, some p.revision, true, none⟩ else ⟨emptyState, none, false, none⟩

end Store

/-! ## Stores that share one object -/

inductive QuotaEvent where
  | newPersistentStore (i : Nat) (ok : Bool)
  | put (i : Nat) (grant provider : String) (obs : Observation) (receivedAt : Time)
  | compareAndSwap (i : Nat) (io : SwapIo)
  | load (i : Nat) (ok : Bool)
  deriving DecidableEq, Repr

/-- The object, the stores by their numbers, and which valid `Put`s have been made and have
committed. -/
structure QuotaWorld where
  persistence : Persistence
  stores : Nat → Option Store
  puts : List Put
  committed : List Put

namespace QuotaWorld

/-- A world without stores. -/
def init (content : PersistedState) : QuotaWorld := ⟨⟨content, []⟩, fun _ => none, [], []⟩

variable (w : Wire) (q : QuotaWorld)

/-- A store after a step of its `Put`. -/
def settle (i : Nat) (p : Put) (x : Outcome × Store) : QuotaWorld :=
  { q with
    stores := Function.update q.stores i (some x.2)
    committed := if x.1 = .committed then p :: q.committed else q.committed }

/-- A `Put` with its arguments normalised.
Source: `quota.go`, the first lines of `put` -/
def candidate (grant provider : String) (obs : Observation) (receivedAt : Time) : Put :=
  ⟨grant, provider, { obs with provider := provider }, receivedAt.utc⟩

/-- A `Put` comes to a store; one that finds the mutex taken waits, so it has not begun. -/
def put (i : Nat) (p : Put) : QuotaWorld :=
  match q.stores i with
  | none => q
  | some s =>
    if s.running.isSome || p.provider == "" ||
        !w.validObservation p.candidate.observation p.candidate.receivedAt then q
    else ({ q with puts := p :: q.puts } : QuotaWorld).settle i p (s.attempt w p 5)

def compareAndSwap (i : Nat) (io : SwapIo) : QuotaWorld :=
  match q.stores i with
  | some ⟨state, revision, readable, some r⟩ =>
    match r.pending with
    | .load => q
    | .swap next =>
      let s : Store := ⟨state, revision, readable, some r⟩
      let (answer, persistence) := q.persistence.compareAndSwap revision next io
      ({ q with persistence := persistence } : QuotaWorld).settle i r.put
        (s.swapped r next persistence.revision answer)
  | _ => q

def load (i : Nat) (ok : Bool) : QuotaWorld :=
  match q.stores i with
  | some ⟨state, revision, readable, some r⟩ =>
    match r.pending with
    | .swap _ => q
    | .load =>
      let s : Store := ⟨state, revision, readable, some r⟩
      q.settle i r.put (s.loaded w r q.persistence ok)
  | _ => q

def newPersistentStore (i : Nat) (ok : Bool) : QuotaWorld :=
  match q.stores i with
  | some _ => q
  | none => { q with
      stores := Function.update q.stores i (some (Store.newPersistentStore q.persistence ok)) }

def step : QuotaEvent → QuotaWorld
  | .newPersistentStore i ok => q.newPersistentStore i ok
  | .put i grant provider obs receivedAt => q.put w i (candidate grant provider obs receivedAt)
  | .compareAndSwap i io => q.compareAndSwap i io
  | .load i ok => q.load w i ok

end QuotaWorld

end Homelab.Tokenbroker
