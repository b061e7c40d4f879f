import Mathlib.Data.List.Dedup
import Mathlib.Data.List.Sort
import Mathlib.Data.Rat.Floor
import Homelab.Embervm.Scheduler.Inflight

/-!
# Placement

`Embervm.Scheduler` picks the bricks a request may go to, and in which order, after charging every
brick with the memory the ledger holds against it; `placeAndClaim` then claims the first one that
still fits.

* `Score` is the order. Its scores are floats in the source and exact rationals here; what is
  eligible does not depend on them.
* `place` works on copies of the bricks that carry the debit and hands back the caller's own maps.
  The source finds them by their index, here each copy travels with its original.
* The demand signals to the autoscaler and the base builder are part of the result.

The hash of the sticky order, `:erlang.phash2/2`, is an argument. The reads and the claim of one
call happen at one time `now`. Sources without a file name are in `scheduler.ex`.
-/

namespace Homelab.Embervm

open List

variable {ρ : Type}

/-- What a brick must have of the workload's base: nothing, a ready base, or a ready base and a text
in a named field. -/
inductive BaseGate where
  | none
  | ready
  | readyField (field : String)
  deriving DecidableEq, Repr

/-- A placement request. `bricks` is what the source resolves first: the bricks the caller passed,
or all bricks of the capacity table.
Source: `request.ex` -/
structure Request where
  bricks : List Brick
  workload : String
  key : Option String
  /-- None skips the memory gate, which a need of 0 does not. -/
  needMib : Option Nat
  nodeId : Option String
  base : BaseGate
  requireSubnet : Bool
  recordDemand : Bool
  /-- The ledger is read and written; `inflight: false` turns it off. -/
  inflight : Bool
  exclude : List String
  deriving DecidableEq

/-! ## The order of candidates -/

namespace Score

/-- The debit on a working copy.
Source: `score.ex`, `pending_mib/1`; `scheduler.ex`, `pending_of/1` -/
def pendingOf (b : Brick) : Int := max (b.pendingMib.getD 0) 0

/-- Source: `score.ex`, `slot_ratio` in `score/1` -/
def slotRatio (b : Brick) : Rat :=
  if b.maxLiveVms = 0 then 0 else b.liveVms / b.maxLiveVms

/-- Classed bricks pack, in `[0, 1]`; wildcards and blind bricks spread, below all others.
Source: `score.ex`, `score/1` -/
def score (b : Brick) : Rat :=
  if b.wildcard? || b.blind? then
    -1 - slotRatio b
  else
    let free := if b.reservation? then b.admittableMib - pendingOf b
      else b.memHeadroomMib - pendingOf b
    let memRatio : Rat := min (max (((b.memBudgetMib - free : Int) : Rat) / b.memBudgetMib) 0) 1
    (slotRatio b + memRatio) / 2

/-- The score in thousandths, halves away from 0.
Source: `score.ex`, `rounded_score/1` -/
def roundedScore (b : Brick) : Int :=
  let x := score b * 1000
  if 0 ≤ x then (x + 1 / 2).floor else (x - 1 / 2).ceil

/-- The values of a key in the order `r`, each with the elements that have it: `Enum.group_by/2`
followed by a sort of the groups. -/
def groupSorted {α κ : Type} [DecidableEq κ] (r : κ → κ → Prop) [DecidableRel r] (key : α → κ)
    (items : List α) : List (List α) :=
  ((items.map key).dedup.insertionSort r).map fun k => items.filter (key · = k)

/-- Source: `score.ex`, `rotate/2` -/
def rotate {α : Type} (items : List α) (offset : Nat) : List α :=
  items.drop offset ++ items.take offset

variable {α : Type} (phash2 : String → Nat → Nat) (copy : α → Brick) (key : String) (items : List α)

/-- Source: `score.ex`, `rotate_sticky/2` -/
def rotateSticky : List α :=
  let sorted := items.insertionSort fun a b => (copy a).instanceId ≤ (copy b).instanceId
  rotate sorted (phash2 key sorted.length)

/-- Source: `score.ex`, `order_by_fit/2` -/
def orderByFit : List α :=
  (groupSorted (· ≤ ·) (fun a => (copy a).memBudgetMib) items).flatMap
    (rotateSticky phash2 copy key)

/-- By score, then by budget, then sticky.
Source: `score.ex`, `order/2` -/
def order : List α :=
  (groupSorted (· ≥ ·) (fun a => roundedScore (copy a)) items).flatMap
    (orderByFit phash2 copy key)

/-! The order loses no candidate and adds none. -/

variable {items : List α}

lemma mem_groupSorted {κ : Type} [DecidableEq κ] {r : κ → κ → Prop} [DecidableRel r] {f : α → κ}
    {a : α} : (∃ group ∈ groupSorted r f items, a ∈ group) ↔ a ∈ items := by
  simp only [groupSorted, mem_map, mem_insertionSort, mem_dedup]
  constructor
  · rintro ⟨_, ⟨k, -, rfl⟩, ha⟩
    exact (mem_filter.mp ha).1
  · intro ha
    exact ⟨_, ⟨f a, ⟨a, ha, rfl⟩, rfl⟩, mem_filter.mpr ⟨ha, by simp⟩⟩

lemma mem_rotateSticky {a : α} : a ∈ rotateSticky phash2 copy key items ↔ a ∈ items := by
  rw [rotateSticky, rotate, mem_append, or_comm, ← mem_append, take_append_drop,
    mem_insertionSort]

lemma mem_orderByFit {a : α} : a ∈ orderByFit phash2 copy key items ↔ a ∈ items := by
  simp only [orderByFit, mem_flatMap, mem_rotateSticky, mem_groupSorted]

lemma mem_order {a : α} : a ∈ order phash2 copy key items ↔ a ∈ items := by
  simp only [order, mem_flatMap, mem_orderByFit, mem_groupSorted]

end Score

/-! ## Filters -/

namespace Scheduler

variable (phash2 : String → Nat → Nat) (t : Inflight ρ) (now : Int) (req : Request) (b : Brick)

/-- Source: `with_pending/2` -/
def withPending (debit : Nat) : Brick :=
  match debit with
  | 0 => b
  | mib => { b with pendingMib := some (Score.pendingOf b + mib) }

/-- The memory gate.
Source: `mem_eligible?/2` -/
def memEligible? (needMib : Nat) : Bool :=
  if b.wildcard? then true
  else if b.blind? then false
  else decide (b.admittableMib - Score.pendingOf b ≥ needMib)

/-- Source: `base_ready?/2` -/
def baseReady? (workload : String) : Bool :=
  match b.workloads.lookup workload with
  | some ⟨some state, _⟩ => state.ready?
  | _ => false

/-- Source: `node_match?/2` -/
def nodeMatch? (nodeId : Option String) : Bool :=
  match nodeId with
  | none => true
  | some id => b.nodeId == id

/-- Source: `subnet_match?/2` -/
def subnetMatch? (requireSubnet : Bool) : Bool :=
  !requireSubnet || b.servingSubnetCidr != ""

/-- Source: `memory_match?/2` -/
def memoryMatch? (needMib : Option Nat) : Bool :=
  match needMib with
  | none => true
  | some need => memEligible? b need

/-- Source: `base_match?/3` -/
def baseMatch? (base : BaseGate) (workload : String) : Bool :=
  match base with
  | .none => true
  | .ready => baseReady? b workload
  | .readyField field =>
    baseReady? b workload &&
      ((b.workloads.lookup workload).bind fun w => w.fields.lookup field).any (· != "")

/-- The filters of `place`, in the source's order, on a working copy.
Source: `place/1` -/
def passes? : Bool :=
  !req.exclude.contains b.dialId && nodeMatch? b req.nodeId && subnetMatch? b req.requireSubnet &&
    decide (0 < b.availableSlots) && memoryMatch? b req.needMib &&
      baseMatch? b req.base req.workload

/-! ## Placing -/

/-- What is charged to a brick for the claims against it.
Source: `pending_fun/1` -/
def pendingFun : Nat :=
  if req.inflight then t.debitMib b.dialId b now else 0

/-- Source: `place/1` -/
def place : List Brick :=
  let copies := req.bricks.map fun b => (withPending b (pendingFun t now req b), b)
  let candidates := copies.filter fun c => passes? req c.1
  (Score.order phash2 (·.1) (req.key.getD req.workload) candidates).map (·.2)

/-- Why a request got no brick. -/
inductive PlaceError where
  | noBricks
  | capacity
  | baseMissing (configuredId : String)
  deriving DecidableEq, Repr

/-- A signal to the brick controller or the base builder. -/
inductive Demand where
  | empty (workload : String) (needMib : Nat)
  | denial (workload : String) (needMib : Nat)
  | baseMissing (workload configuredId : String)
  deriving DecidableEq, Repr

/-- A signal that `record_demand: false` suppresses. -/
def signal (demand : String → Nat → Demand) : List Demand :=
  if req.recordDemand then [demand req.workload (req.needMib.getD 0)] else []

/-- Source: `place_with_demand/1` -/
def placeWithDemand : Except PlaceError (List Brick) × List Demand :=
  match req.bricks with
  | [] => (.error .noBricks, signal req .empty)
  | _ :: _ =>
    match place phash2 t now req with
    | candidates@(_ :: _) => (.ok candidates, [])
    | [] =>
      match place phash2 t now { req with base := .none } with
      | [] => (.error .capacity, signal req .denial)
      | b :: _ =>
        (.error (.baseMissing b.configuredId), [.baseMissing req.workload b.configuredId])

/-- Source: `place_or_deny/1` -/
def placeOrDeny : Except PlaceError (List Brick) × List Demand :=
  match req.base with
  | .none =>
    match req.bricks with
    | [] => (.error .noBricks, signal req .empty)
    | _ :: _ =>
      match place phash2 t now req with
      | candidates@(_ :: _) => (.ok candidates, [])
      | [] => (.error .capacity, signal req .denial)
  | _ => placeWithDemand phash2 t now req

variable [DecidableEq ρ]

/-- The first candidate that still fits, with the rest after it, and the ledger with the claim.
Source: `claim_first/3` -/
def claimFirst (t : Inflight ρ) (now : Int) (req : Request) (ref : ρ) :
    List Brick → Option (List Brick × Inflight ρ)
  | [] => none
  | b :: rest =>
    let fresh := withPending b (pendingFun t now req b)
    if memoryMatch? fresh req.needMib then
      let t' :=
        if req.inflight then
          t.claim b.dialId ref (b.chargeMib req.needMib) (Inflight.defaultTtlMs : Int) now
        else t
      some (b :: rest, t')
    else claimFirst t now req ref rest

/-- What a call returns and signals, and the ledger it leaves. -/
structure Placement (ρ : Type) where
  result : Except PlaceError (List Brick)
  inflight : Inflight ρ
  signals : List Demand

/-- Source: `place_and_claim/2` -/
def placeAndClaim (phash2 : String → Nat → Nat) (t : Inflight ρ) (now : Int) (req : Request)
    (ref : ρ) : Placement ρ :=
  match placeOrDeny phash2 t now req with
  | (.error e, signals) => ⟨.error e, t, signals⟩
  | (.ok candidates, signals) =>
    match claimFirst t now req ref candidates with
    | some (bricks, t') => ⟨.ok bricks, t', signals⟩
    | none => ⟨.error .capacity, t, signals ++ signal req .denial⟩

end Scheduler

end Homelab.Embervm
