import Mathlib.Tactic.Common

/-!
# Bricks

A brick is one noded instance as placement sees it: the facts its last report left in the capacity
table. `Embervm.Brick` reads normalised bricks, raw facts and pool instances with the same
functions, an absent number being 0 (`num/2`); a `Brick` here has a number in every such place.
`freeSlots` and `pendingMib` are absent or not, since their readers tell the two apart.
-/

namespace Homelab.Embervm

/-- Source: `node.proto`, `BaseBuildState`; `scheduler.ex` and `dispatcher.ex`,
`base_state_ready?/1` also accept the enum as a number -/
inductive BaseState where
  | unspecified
  | none
  | building
  | ready
  | failed
  | code (n : Int)
  deriving DecidableEq, Repr

/-- Source: `scheduler.ex` and `dispatcher.ex`, `base_state_ready?/1` -/
def BaseState.ready? : BaseState → Bool
  | .ready => true
  | .code n => n == 3
  | _ => false

/-- What a brick reports about one workload: the state of its base, and its text fields by name. -/
structure BrickWorkload where
  baseState : Option BaseState
  fields : List (String × String)
  deriving DecidableEq, Repr

/-- A brick. -/
structure Brick where
  nodeId : String
  instanceId : String
  configuredId : String
  /-- Empty on a wildcard. -/
  sizeClass : String
  memHeadroomMib : Int
  memRejectFloorMib : Int
  memBudgetMib : Int
  memReservedMib : Int
  admitsOnReservation : Bool
  vmOverheadMib : Int
  /-- The daemon reports its own admission ledger. -/
  admissionReported : Bool
  /-- Signed: a negative figure admits nothing. -/
  memAdmittableMib : Int
  memInflightPlacedMib : Int
  inflightPlacedVms : Int
  liveVms : Int
  maxLiveVms : Int
  freeSlots : Option Int
  servingSubnetCidr : String
  workloads : List (String × BrickWorkload)
  /-- Set on the working copies of a placement, and by callers that carry a debit of their own. -/
  pendingMib : Option Int
  deriving DecidableEq, Repr

namespace Brick

variable (b : Brick)

/-- Source: `brick.ex`, `wildcard?/1` -/
def wildcard? : Bool := b.sizeClass == ""

/-- A classed brick without a budget: what it would admit is unknown.
Source: `brick.ex`, `blind?/1` -/
def blind? : Bool := !b.wildcard? && decide (b.memBudgetMib ≤ 0)

/-- Source: `brick.ex`, `reservation?/1` -/
def reservation? : Bool := b.admitsOnReservation

/-- The largest guest the brick would admit as one more VM.
Source: `brick.ex`, `admittable_mib/1` -/
def admittableMib : Int :=
  if b.admissionReported then
    b.memAdmittableMib
  else if b.reservation? then
    b.memBudgetMib - b.memReservedMib - b.vmOverheadMib * (b.liveVms + 1)
  else
    b.memHeadroomMib - b.memRejectFloorMib

/-- The overhead the brick's admission charges for each VM, none under the observed model.
Source: `brick.ex`, `charged_overhead_mib/1` -/
def chargedOverheadMib : Nat :=
  if b.reservation? then b.vmOverheadMib.toNat else 0

/-- What one more VM of `needMib` costs; no need costs the overhead alone.
Source: `brick.ex`, `charge_mib/2` -/
def chargeMib (needMib : Option Nat) : Nat :=
  needMib.getD 0 + b.chargedOverheadMib

/-- Source: `brick.ex`, `dial_id/1` -/
def dialId : String :=
  if b.instanceId ≠ "" then b.instanceId else b.configuredId

/-- Source: `brick.ex`, `free_slots/1` -/
def availableSlots : Int :=
  match b.freeSlots with
  | some n => n
  | none => max (b.maxLiveVms - b.liveVms) 0

end Brick

end Homelab.Embervm
