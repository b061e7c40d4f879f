import Mathlib.Data.UInt
import Homelab.Lib.Run
import Homelab.Lib.Total

/-!
# Boot admission

`pressure.go`: the gate every boot verb passes before it claims any resource, and the ledger of the
boots it let through. An admitted boot holds a ticket for its memory and one VM slot until the
driver call that boots it returns. By then the VM is in the driver's live map, or there is none.

* Memory is in the machine's numbers: `UInt64` in the ledger, so a subtraction below 0 wraps, and
  the signed predicate is computed with the wrap-around of `int64`. Numbers of VMs are plain
  integers.
* `admit` holds the ledger's mutex over two readings of the live map, of which the driver's own
  mutex covers one each: the declared memory, and later the number of VMs. So it is two steps here,
  and between them the driver may boot and destroy VMs while everything else waits for the mutex.
* A row of `boots` is one admitted boot: its ticket, and the VM the driver boots for it. What the
  source reads off the live map is a total over these rows.

A boot lands at most the memory its ticket reserved, and before the ticket is released: that is what
the boot verbs ensure (`primeAdmitMib`, `relightNeedMib`, `bundleAdmitMib`), and a boot that did
otherwise is no event here. Logs and the texts of refusals are left out.
Sources without a file name are in `pressure.go`.
-/

namespace Homelab.Noded

open Homelab.Lib

/-! ## The predicate -/

/-- The wrap-around of `int64`. -/
def int64 (x : Int) : Int := x.bmod (2 ^ 64)

/-- Source: `clampInt64` -/
def clampInt64 (v : UInt64) : Int :=
  if v.toNat > 2 ^ 63 - 1 then 2 ^ 63 - 1 else v.toNat

/-- `EMBERVM_NODED_ADMISSION_MODEL`. -/
inductive AdmissionModel where
  | observed
  | reserved
  deriving DecidableEq, Repr

/-- Source: `admissionFacts` -/
structure AdmissionFacts where
  model : AdmissionModel
  /-- 0 means unknown. -/
  budgetMib : UInt64
  headroomMib : UInt64
  headroomKnown : Bool
  claimedMib : UInt64
  live : Int
  inflightMib : UInt64
  inflightVMs : Int
  buildResidentMib : UInt64
  overheadMib : UInt64
  floorMib : UInt64
  slotCeiling : Int

namespace AdmissionFacts

variable (f : AdmissionFacts)

/-- The term of the observed headroom, where it is known.
Source: `admittableMib` -/
def observedMib : Option Int :=
  if f.headroomKnown then
    let unseen := f.inflightMib - min f.buildResidentMib f.inflightMib
    some (int64 (int64 (clampInt64 f.headroomMib - clampInt64 unseen) - clampInt64 f.floorMib))
  else none

/-- The term of the declared claims, in the reserved model with a known budget.
Source: `admittableMib` -/
def reservedMib : Option Int :=
  if f.model = .reserved ∧ f.budgetMib > 0 then
    let vms := f.live + f.inflightVMs + 1
    some (int64 (int64 (int64 (clampInt64 f.budgetMib - clampInt64 f.claimedMib)
      - clampInt64 f.inflightMib) - int64 (clampInt64 f.overheadMib * vms)))
  else none

/-- The largest guest admitted as one more VM; none without a bound.
Source: `admittableMib` -/
def admittableMib : Option Int :=
  match f.observedMib, f.reservedMib with
  | some observed, some reserved => some (if reserved < observed then reserved else observed)
  | none, bound => bound
  | bound, none => bound

/-- Source: `memAdmits` -/
def memAdmits (needMib : UInt64) : Bool :=
  match f.admittableMib with
  | none => true
  | some admittable => decide (clampInt64 needMib ≤ admittable)

/-- Source: `slotsFull` -/
def slotsFull : Bool :=
  decide (0 < f.slotCeiling) && decide (f.slotCeiling ≤ f.live + f.inflightVMs)

end AdmissionFacts

/-! ## Tickets -/

/-- Source: `rejectReason` -/
inductive RejectReason where
  | pressureMem
  | pressureTaps
  | slots
  deriving DecidableEq, Repr

/-- Source: `pressureClass` -/
inductive PressureClass where
  | memOnly
  | tapBearing
  deriving DecidableEq, Repr

/-- Source: `admissionLedger` -/
structure AdmissionLedger where
  inflightMib : UInt64
  inflightVMs : Int
  buildResidentMib : UInt64
  placedMib : UInt64
  placedVMs : Int
  refusals : Table RejectReason UInt64

/-- The VM of a boot, in the driver. -/
inductive Vm where
  /-- Not in the live map yet. -/
  | waiting
  | live (memMib : Nat)
  /-- Released, or its VMM has exited. -/
  | gone
  deriving DecidableEq, Repr

/-- Its declared memory in the live map. -/
def Vm.memMib : Vm → Nat
  | .live memMib => memMib
  | _ => 0

/-- Its entry in the live map. -/
def Vm.count : Vm → Nat
  | .live _ => 1
  | _ => 0

/-- An admitted boot: its ticket, and its VM.
Source: `admissionTicket` -/
structure Boot where
  needMib : UInt64
  placedMib : UInt64
  resident : Bool
  released : Bool
  placed : Bool
  vm : Vm
  placed_le : placedMib.toNat ≤ needMib.toNat
  placed_unreleased : placed = true → released = false
  vm_le : vm.memMib ≤ needMib.toNat

/-- A ticket as it is after its release. -/
def Boot.release (b : Boot) : Boot :=
  { b with released := true, placed := false, placed_unreleased := nofun }

/-- A ticket that no longer counts as placed. -/
def Boot.unplace (b : Boot) : Boot :=
  { b with placed := false, placed_unreleased := nofun }

/-- A build ticket whose guest has booted. -/
def Boot.markResident (b : Boot) : Boot :=
  { b with resident := true }

/-- The size a control-plane boot counts as placed.
Source: `placedShare` -/
def placedShare (declaredMib needMib : UInt64) : UInt64 :=
  if declaredMib > 0 then min declaredMib needMib else needMib

/-- A call of `admit`, with the observed headroom it reads. `declaredMib` is what the control plane
declared for a boot it placed, none for a node-local boot; every boot verb passes its
`placedShare`. -/
structure AdmitCall where
  needMib : UInt64
  declaredMib : Option UInt64
  pressureClass : PressureClass
  headroomMib : UInt64

/-- Source: the `placed` argument of the calls of `admit` -/
def AdmitCall.placedMib (call : AdmitCall) : UInt64 :=
  (call.declaredMib.map (placedShare · call.needMib)).getD 0

lemma placedShare_le (declaredMib needMib : UInt64) :
    placedShare declaredMib needMib ≤ needMib := by
  unfold placedShare
  split
  · change (if declaredMib ≤ needMib then declaredMib else needMib) ≤ needMib
    split
    · assumption
    · exact UInt64.le_refl _
  · exact UInt64.le_refl _

lemma AdmitCall.placedMib_le (call : AdmitCall) : call.placedMib.toNat ≤ call.needMib.toNat := by
  unfold placedMib
  rcases call.declaredMib with _ | declaredMib
  · exact Nat.zero_le _
  · exact UInt64.le_iff_toNat_le.mp (placedShare_le declaredMib call.needMib)

/-- The ticket `admit` returns.
Source: `admit` -/
def AdmitCall.ticket (call : AdmitCall) : Boot where
  needMib := call.needMib
  placedMib := call.placedMib
  resident := false
  released := false
  placed := decide (call.placedMib > 0)
  vm := .waiting
  placed_le := call.placedMib_le
  placed_unreleased _ := rfl
  vm_le := Nat.zero_le _

/-! ## The node -/

/-- What a node is configured with. `memory.max` is a number of bytes that `strconv.ParseInt`
accepts. -/
structure AdmissionConfig where
  model : AdmissionModel
  memoryMax : Fin (2 ^ 63)
  reserveMib : UInt64
  overheadMib : UInt64
  floorMib : UInt64
  slotCeiling : Nat

/-- Source: `budget.go`, `parseMemBudgetMib` -/
def AdmissionConfig.budgetMib (cfg : AdmissionConfig) : UInt64 :=
  let maxMib := UInt64.ofNat (cfg.memoryMax / 2 ^ 20)
  if maxMib ≤ cfg.reserveMib then 0 else maxMib - cfg.reserveMib

/-- A call of `admit` that holds the mutex and has read the declared memory of the live map. -/
structure Admitting where
  call : AdmitCall
  claimedMib : UInt64

/-- The ledger, the admitted boots, and the call that holds the mutex between its two readings. -/
structure Admission where
  ledger : AdmissionLedger
  boots : Registry Boot
  admitting : Option Admitting

namespace Admission

/-- A daemon starts with an empty live map. -/
def start : Admission :=
  ⟨⟨0, 0, 0, 0, 0, ∅⟩, Registry.emptyAt 0, none⟩

variable (l : AdmissionLedger) (cfg : AdmissionConfig) (s : Admission)

/-- Source: `driver.go`, `ClaimedMib` -/
def claimedMib : UInt64 := UInt64.ofNat (s.boots.rows.total (·.vm.memMib))

/-- Source: `driver.go`, `LiveCount` -/
def liveCount : Nat := s.boots.rows.total (·.vm.count)

/-- The facts at the end of the two readings.
Source: `admissionFactsLocked` -/
def admissionFacts (a : Admitting) : AdmissionFacts where
  model := cfg.model
  budgetMib := cfg.budgetMib
  headroomMib := a.call.headroomMib
  headroomKnown := decide (a.call.headroomMib > 0)
  claimedMib := a.claimedMib
  live := s.liveCount
  inflightMib := s.ledger.inflightMib
  inflightVMs := s.ledger.inflightVMs
  buildResidentMib := s.ledger.buildResidentMib
  overheadMib := cfg.overheadMib
  floorMib := if cfg.floorMib > 0 then cfg.floorMib else 512
  slotCeiling := cfg.slotCeiling

/-- Source: the switch of `admit` -/
def rejects (f : AdmissionFacts) (call : AdmitCall) (tapsExhausted : Bool) : Option RejectReason :=
  if f.slotsFull then some .slots
  else if !f.memAdmits call.needMib then some .pressureMem
  else if call.pressureClass = .tapBearing ∧ tapsExhausted then some .pressureTaps
  else none

/-- Source: the counting of `noteRefusalLocked` -/
def noteRefusal (reason : RejectReason) : AdmissionLedger :=
  { l with refusals := l.refusals.insert reason ((l.refusals.lookup reason).getD 0 + 1) }

/-- The reservation of an admitted boot in the ledger.
Source: `admit` -/
def reserve (call : AdmitCall) : AdmissionLedger :=
  let l := { l with
    inflightMib := l.inflightMib + call.needMib
    inflightVMs := l.inflightVMs + 1 }
  if call.placedMib > 0 then
    { l with placedMib := l.placedMib + call.placedMib, placedVMs := l.placedVMs + 1 }
  else l

/-- `admit` takes the mutex and reads the declared memory of the live map. -/
def lockAdmit (call : AdmitCall) : Admission :=
  match s.admitting with
  | some _ => s
  | none => { s with admitting := some ⟨call, s.claimedMib⟩ }

/-- `admit` reads the number of live VMs, decides and gives the mutex back.
Source: `admit` -/
def finishAdmit (tapsExhausted : Bool) : Admission :=
  match s.admitting with
  | none => s
  | some a =>
    match rejects (s.admissionFacts cfg a) a.call tapsExhausted with
    | some reason => { s with ledger := noteRefusal s.ledger reason, admitting := none }
    | none =>
      { ledger := reserve s.ledger a.call
        boots := s.boots.register a.call.ticket
        admitting := none }

/-- Source: `unplaceLocked`, the ledger's side -/
def unplace (b : Boot) : AdmissionLedger :=
  if b.placed then { l with placedMib := l.placedMib - b.placedMib, placedVMs := l.placedVMs - 1 }
  else l

/-- Source: `release`, the ledger's side -/
def giveBack (b : Boot) : AdmissionLedger :=
  let l := { l with
    inflightMib := l.inflightMib - b.needMib
    inflightVMs := l.inflightVMs - 1 }
  let l := if b.resident then { l with buildResidentMib := l.buildResidentMib - b.needMib } else l
  unplace l b

/-- A step on a ticket that needs the mutex: it waits while `admit` holds it. -/
def onTicket (ticket : Nat) (f : Boot → Option (AdmissionLedger × Boot)) : Admission :=
  match s.admitting, s.boots.rows.lookup ticket with
  | none, some b =>
    match f b with
    | some (ledger, b') => { s with ledger := ledger, boots := s.boots.modify ticket fun _ => b' }
    | none => s
  | _, _ => s

/-- A release after the first has no effect.
Source: `release` -/
def release (s : Admission) (ticket : Nat) : Admission :=
  s.onTicket ticket fun b => if b.released then none else some (giveBack s.ledger b, b.release)

/-- Source: `rpcEnded` -/
def rpcEnded (ticket : Nat) : Admission :=
  s.onTicket ticket fun b => some (unplace s.ledger b, b.unplace)

/-- Source: `buildGuestBooted` -/
def buildGuestBooted (ticket : Nat) : Admission :=
  s.onTicket ticket fun b =>
    if b.resident || b.released then none
    else some ({ s.ledger with buildResidentMib := s.ledger.buildResidentMib + b.needMib },
      b.markResident)

/-- The driver puts the VM of a boot into its live map: the boot holds its ticket, and the VM is no
larger than the ticket says. It does not need the ledger's mutex.
Source: `driver.go`, `track` -/
def boot (ticket memMib : Nat) : Admission :=
  { s with boots := s.boots.modify ticket fun b =>
      if h : b.released = false ∧ b.vm = .waiting ∧ memMib ≤ b.needMib.toNat then
        { b with vm := .live memMib, vm_le := h.2.2 }
      else b }

/-- The VM of a boot leaves the live map, or its VMM exits.
Source: `driver.go`, `Release` -/
def destroy (ticket : Nat) : Admission :=
  { s with boots := s.boots.modify ticket fun b =>
      match b.vm with
      | .live _ => { b with vm := .gone, vm_le := Nat.zero_le _ }
      | _ => b }

/-- The steps of a node. -/
inductive Event where
  | lockAdmit (call : AdmitCall)
  | finishAdmit (tapsExhausted : Bool)
  | release (ticket : Nat)
  | rpcEnded (ticket : Nat)
  | buildGuestBooted (ticket : Nat)
  | boot (ticket memMib : Nat)
  | destroy (ticket : Nat)

def step : Event → Admission
  | .lockAdmit call => s.lockAdmit call
  | .finishAdmit tapsExhausted => s.finishAdmit cfg tapsExhausted
  | .release ticket => s.release ticket
  | .rpcEnded ticket => s.rpcEnded ticket
  | .buildGuestBooted ticket => s.buildGuestBooted ticket
  | .boot ticket memMib => s.boot ticket memMib
  | .destroy ticket => s.destroy ticket

end Admission

end Homelab.Noded
