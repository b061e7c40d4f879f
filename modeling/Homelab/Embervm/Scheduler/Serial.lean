import Homelab.Embervm.Scheduler

/-!
# Serial placement

Requests served one after the other, each claim in the ledger before the next request is placed.

* `Eligible` is what a chosen brick satisfies, and `chosen_eligible` that it does: it is one of the
  caller's own maps and passes every filter with the debit of the moment.
* `serial_within_admittable`: the claims on a classed brick of known capacity stay within what it
  admitted at the snapshot.

A reporting brick's debit is net of the boots it reports as placed in flight, by amount. Where the
ledger holds no claims for those boots, the reported amount cancels new claims instead, and the
bound is exceeded by it (`reported_boots_hide_claims`). So the ledger has to cover what the brick
reports; the other conditions are that requests state a need, use the ledger, bring refs of their
own, and that no claim expires meanwhile.
-/

namespace Homelab.Embervm.Scheduler

open Homelab.Lib List Inflight

variable {ρ : Type} [DecidableEq ρ]

/-! ## What is chosen -/

/-- A brick the caller passed that passes the filters of the request, charged with its debit. -/
def Eligible (t : Inflight ρ) (now : Int) (req : Request) (b : Brick) : Prop :=
  b ∈ req.bricks ∧ passes? req (withPending b (pendingFun t now req b)) = true

omit [DecidableEq ρ] in
lemma mem_place {phash2 : String → Nat → Nat} {t : Inflight ρ} {now : Int} {req : Request}
    {b : Brick} : b ∈ place phash2 t now req ↔ Eligible t now req b := by
  simp only [place, mem_map, Score.mem_order, mem_filter, Eligible]
  constructor
  · rintro ⟨c, ⟨⟨b', hb', rfl⟩, hpass⟩, rfl⟩
    exact ⟨hb', hpass⟩
  · rintro ⟨hb, hpass⟩
    exact ⟨_, ⟨⟨b, hb, rfl⟩, hpass⟩, rfl⟩

section

variable {phash2 : String → Nat → Nat} {t : Inflight ρ} {now : Int} {req : Request}
  {candidates : List Brick} {signals : List Demand}

omit [DecidableEq ρ] in
lemma placeWithDemand_ok (h : placeWithDemand phash2 t now req = (.ok candidates, signals)) :
    candidates = place phash2 t now req := by
  unfold placeWithDemand at h
  split at h
  · cases h
  · split at h
    next hplace =>
      cases h
      exact hplace.symm
    · split at h <;> cases h

omit [DecidableEq ρ] in
lemma placeOrDeny_ok (h : placeOrDeny phash2 t now req = (.ok candidates, signals)) :
    candidates = place phash2 t now req := by
  unfold placeOrDeny at h
  split at h
  · split at h
    · cases h
    · split at h
      next hplace =>
        cases h
        exact hplace.symm
      · cases h
  · exact placeWithDemand_ok h

/-- The claim of a call: on the head of what it returns, which is a candidate that passes the memory
gate on a second look. -/
lemma claimFirst_some {ref : ρ} {bricks : List Brick} {t' : Inflight ρ}
    (h : claimFirst t now req ref candidates = some (bricks, t')) :
    ∃ b rest, bricks = b :: rest ∧ b ∈ candidates ∧
      memoryMatch? (withPending b (pendingFun t now req b)) req.needMib = true ∧
      t' = if req.inflight then
        t.claim b.dialId ref (b.chargeMib req.needMib) (defaultTtlMs : Int) now else t := by
  induction candidates with
  | nil => cases h
  | cons c rest ih =>
    simp only [claimFirst] at h
    split at h
    next hfits =>
      cases h
      exact ⟨c, rest, rfl, mem_cons_self, hfits, rfl⟩
    · obtain ⟨b, rest', hbricks, hmem, hrest⟩ := ih h
      exact ⟨b, rest', hbricks, mem_cons_of_mem c hmem, hrest⟩

/-- What a call does: it fails and leaves the ledger, or it claims an eligible brick. -/
lemma placeAndClaim_cases (phash2 : String → Nat → Nat) (t : Inflight ρ) (now : Int) (req : Request)
    (ref : ρ) : (∃ e, (placeAndClaim phash2 t now req ref).result = .error e ∧
        (placeAndClaim phash2 t now req ref).inflight = t) ∨
      ∃ b rest, (placeAndClaim phash2 t now req ref).result = .ok (b :: rest) ∧
        Eligible t now req b ∧
        (placeAndClaim phash2 t now req ref).inflight = if req.inflight then
          t.claim b.dialId ref (b.chargeMib req.needMib) (defaultTtlMs : Int) now
          else t := by
  rcases hplace : placeOrDeny phash2 t now req with ⟨_ | candidates, signals⟩
  · left
    rw [placeAndClaim, hplace]
    exact ⟨_, rfl, rfl⟩
  · rcases hclaim : claimFirst t now req ref candidates with _ | ⟨bricks, t'⟩
    · left
      simp only [placeAndClaim, hplace, hclaim]
      exact ⟨.capacity, rfl, trivial⟩
    · right
      obtain ⟨b, rest, rfl, hmem, -, rfl⟩ := claimFirst_some hclaim
      rw [placeOrDeny_ok hplace, mem_place] at hmem
      simp only [placeAndClaim, hplace, hclaim]
      exact ⟨b, rest, rfl, hmem, rfl⟩

end

/-! ## Serving a list of requests -/

/-- A call of `place_and_claim`. -/
structure PlaceCall (ρ : Type) where
  req : Request
  ref : ρ
  now : Int

/-- The ledger, the time of the last call, and the bricks chosen so far with the needs they were
chosen for. -/
structure Serving (ρ : Type) where
  inflight : Inflight ρ
  clock : Int
  chosen : List (Brick × Nat)

/-- The head of a result, which is the brick that was claimed. -/
def claimed? (result : Except PlaceError (List Brick)) : Option Brick :=
  match result with
  | .ok (b :: _) => some b
  | _ => none

@[simp] lemma claimed?_error (e : PlaceError) : claimed? (.error e) = none := rfl

variable (b : Brick) (debit : Nat)

@[simp] lemma claimed?_ok_cons (rest : List Brick) : claimed? (.ok (b :: rest)) = some b := rfl

def Serving.step (phash2 : String → Nat → Nat) (s : Serving ρ) (call : PlaceCall ρ) : Serving ρ :=
  let placed := placeAndClaim phash2 s.inflight call.now call.req call.ref
  { inflight := placed.inflight
    clock := call.now
    chosen := s.chosen ++
      ((claimed? placed.result).map fun b => (b, call.req.needMib.getD 0)).toList }

/-- The needs of the claims on a brick. -/
def Serving.needs (s : Serving ρ) (b : Brick) : List Nat :=
  (s.chosen.filter fun c => c.1 = b).map (·.2)

/-- The request states a need and uses the ledger, its ref is new to the ledger, and no claim has
expired since the last call. -/
structure Serial (s : Serving ρ) (call : PlaceCall ρ) : Prop where
  need : call.req.needMib.isSome
  inflight : call.req.inflight = true
  fresh : ∀ e ∈ s.inflight.rows.entries, e.1.2 ≠ call.ref
  unexpired : ∀ e ∈ s.inflight.rows.entries, e.2.Unexpired s.clock → e.2.Unexpired call.now

instance (s : Serving ρ) (call : PlaceCall ρ) : Decidable (Serial s call) :=
  decidable_of_iff (call.req.needMib.isSome ∧ call.req.inflight = true ∧
      (∀ e ∈ s.inflight.rows.entries, e.1.2 ≠ call.ref) ∧
      ∀ e ∈ s.inflight.rows.entries, e.2.Unexpired s.clock → e.2.Unexpired call.now)
    ⟨fun h => ⟨h.1, h.2.1, h.2.2.1, h.2.2.2⟩, fun h => ⟨h.need, h.inflight, h.fresh, h.unexpired⟩⟩

variable {call : PlaceCall ρ} {s : Serving ρ}

lemma Serial.lookup_eq_none (h : Serial s call) (dialId : String) :
    s.inflight.rows.lookup (dialId, call.ref) = none := by
  rw [Option.eq_none_iff_forall_not_mem]
  intro row hrow
  exact h.fresh _ (AList.mem_lookup_iff.mp hrow) rfl

lemma Serving.needs_step (phash2 : String → Nat → Nat) (s : Serving ρ) {need : Nat}
    (hneed : call.req.needMib = some need) (b : Brick) : (s.step phash2 call).needs b = s.needs b ++
      if claimed? (placeAndClaim phash2 s.inflight call.now call.req call.ref).result = some b
        then [need] else [] := by
  unfold needs step
  rw [filter_append, map_append, hneed]
  congr 1
  rcases claimed? (placeAndClaim phash2 s.inflight call.now call.req call.ref).result with _ | c
  · rfl
  · by_cases h : c = b <;> simp [h]

/-- The claims on a brick are in the ledger, beside what the brick nets off, and within what it
admits. -/
structure Within (b : Brick) (s : Serving ρ) : Prop where
  inLedger : nettedMib b + ((s.needs b).sum + (s.needs b).length * b.chargedOverheadMib) ≤
    s.inflight.pendingMib b.dialId s.clock
  admitted : s.needs b ≠ [] → ((s.needs b).sum : Int) +
    ((s.needs b).length - 1) * b.chargedOverheadMib ≤ b.admittableMib

lemma pendingOf_withPending :
    Score.pendingOf (withPending b debit) = Score.pendingOf b + debit := by
  unfold withPending
  split
  · exact (Int.add_zero _).symm
  · have hnonneg : 0 ≤ Score.pendingOf b := le_max_right _ _
    simp only [Score.pendingOf] at hnonneg ⊢
    simp only [Option.getD_some]
    omega

@[simp] lemma admittableMib_withPending :
    (withPending b debit).admittableMib = b.admittableMib := by
  unfold withPending
  split <;> rfl

@[simp] lemma wildcard?_withPending : (withPending b debit).wildcard? = b.wildcard? := by
  unfold withPending
  split <;> rfl

@[simp] lemma blind?_withPending : (withPending b debit).blind? = b.blind? := by
  unfold withPending
  split <;> rfl

omit [DecidableEq ρ] in
/-- A classed brick of known capacity that is eligible admits the need on top of its debit. -/
lemma Eligible.admits {t : Inflight ρ} {now : Int} {req : Request} {b : Brick} {need : Nat}
    (h : Eligible t now req b) (hclassed : b.wildcard? = false) (hknown : b.blind? = false)
    (hneed : req.needMib = some need) :
    (need : Int) + pendingFun t now req b ≤ b.admittableMib := by
  have hpass := h.2
  simp only [passes?, Bool.and_eq_true] at hpass
  have hmem := hpass.1.2
  simp only [memoryMatch?, hneed, memEligible?, wildcard?_withPending, hclassed, blind?_withPending,
    hknown, admittableMib_withPending, pendingOf_withPending, Bool.false_eq_true, if_false,
    decide_eq_true_eq] at hmem
  have hnonneg : 0 ≤ Score.pendingOf b := le_max_right _ _
  omega

lemma pendingMib_le_of_serial (h : Serial s call) (dialId : String) :
    s.inflight.pendingMib dialId s.clock ≤ s.inflight.pendingMib dialId call.now := by
  rw [pendingMib_eq, pendingMib_eq]
  apply memOf_mono
  rintro key row hrow ⟨hdial, hunexpired⟩
  exact ⟨hdial, h.unexpired _ (AList.mem_lookup_iff.mp hrow) hunexpired⟩

lemma Within.step {b : Brick} (h : Within b s) (hserial : Serial s call)
    (hclassed : b.wildcard? = false) (hknown : b.blind? = false) (phash2 : String → Nat → Nat) :
    Within b (s.step phash2 call) := by
  obtain ⟨need, hneed⟩ := Option.isSome_iff_exists.mp hserial.need
  have hneeds := Serving.needs_step phash2 s hneed b
  have hpending := h.inLedger.trans (pendingMib_le_of_serial hserial b.dialId)
  rcases placeAndClaim_cases phash2 s.inflight call.now call.req call.ref with
    ⟨e, hresult, hledger⟩ | ⟨c, rest, hresult, heligible, hledger⟩
  · -- nothing is claimed
    rw [hresult, claimed?_error, if_neg (by simp), append_nil] at hneeds
    constructor
    · rw [hneeds, Serving.step, hledger]
      exact hpending
    · rw [hneeds]
      exact h.admitted
  · rw [hresult, claimed?_ok_cons] at hneeds
    rw [if_pos hserial.inflight] at hledger
    have htotal := pendingMib_claim hserial.lookup_eq_none c.dialId (c.chargeMib call.req.needMib)
      (show 0 < defaultTtlMs by decide) call.now b.dialId
    by_cases hcb : c = b
    · subst hcb
      rw [if_pos rfl] at hneeds htotal
      have hadmits := heligible.admits hclassed hknown hneed
      have hdebit := s.inflight.pendingMib_le_debitMib c.dialId c call.now
      rw [pendingFun, if_pos hserial.inflight] at hadmits
      have hcharge : c.chargeMib call.req.needMib = need + c.chargedOverheadMib := by
        rw [hneed]
        rfl
      constructor
      · rw [hneeds, Serving.step, hledger, sum_append, length_append, sum_singleton,
          length_singleton, Nat.add_mul, Nat.one_mul]
        change _ ≤ pendingMib (claim _ _ _ _ _ _) _ call.now
        omega
      · intro _
        rw [hneeds, sum_append, length_append, sum_singleton, length_singleton]
        rw [Int.natCast_add, Int.natCast_add, Int.natCast_one, Int.add_sub_cancel]
        omega
    · rw [if_neg (by simpa using hcb), append_nil] at hneeds
      constructor
      · rw [hneeds, Serving.step, hledger]
        exact hpending.trans (htotal ▸ Nat.le_add_right _ _)
      · rw [hneeds]
        exact h.admitted

/-- **Serial placement stays within what a brick admits.** Requests are served one after the other
from any ledger `t` at any time `t₀`. Each states a need, uses the ledger and brings a ref of its
own, and no claim expires meanwhile. Then the needs of the claims on a classed brick of known
capacity, and the overheads between them, are at most what the brick admits, provided the ledger
covers the boots the brick reports as placed in flight. And whatever a request is, the brick chosen
for it is one the caller passed, eligible at that moment. -/
theorem serial_within_admittable (phash2 : String → Nat → Nat) (t : Inflight ρ) (t₀ : Int)
    (calls : List (PlaceCall ρ)) (hserial : Along (Serving.step phash2) Serial ⟨t, t₀, []⟩ calls) :
    (∀ b : Brick, b.wildcard? = false → b.blind? = false →
      nettedMib b ≤ t.pendingMib b.dialId t₀ →
      let needs := (run (Serving.step phash2) ⟨t, t₀, []⟩ calls).needs b
      needs ≠ [] →
        (needs.sum : Int) + (needs.length - 1) * b.chargedOverheadMib ≤ b.admittableMib) ∧
    ∀ (t' : Inflight ρ) (now : Int) (req : Request) (ref : ρ) (b : Brick) (rest : List Brick),
      (placeAndClaim phash2 t' now req ref).result = .ok (b :: rest) → Eligible t' now req b := by
  constructor
  · intro b hclassed hknown hcovered
    have hstart : Within b (⟨t, t₀, []⟩ : Serving ρ) := by
      constructor
      · simpa [Serving.needs] using hcovered
      · intro hne
        exact absurd rfl hne
    refine (run_induction (Within b) (fun s call h hcall => ?_) hstart hserial).admitted
    exact h.step hcall hclassed hknown phash2
  · intro t' now req ref b rest hresult
    rcases placeAndClaim_cases phash2 t' now req ref with
      ⟨e, herror, -⟩ | ⟨c, rest', hok, heligible, -⟩
    · rw [hresult] at herror
      cases herror
    · rw [hresult] at hok
      cases hok
      exact heligible

/-- A brick of class `8gi` that reports its own admission: 1000 MiB admittable beside `placedMib`
placed in flight. -/
def reportingBrick (placedMib : Int) : Brick where
  nodeId := "node"
  instanceId := "node/pod"
  configuredId := "node"
  sizeClass := "8gi"
  memHeadroomMib := 4096
  memRejectFloorMib := 256
  memBudgetMib := 8192
  memReservedMib := 0
  admitsOnReservation := false
  vmOverheadMib := 0
  admissionReported := true
  memAdmittableMib := 1000
  memInflightPlacedMib := placedMib
  inflightPlacedVms := if placedMib = 0 then 0 else 1
  liveVms := 1
  maxLiveVms := 10
  freeSlots := none
  servingSubnetCidr := ""
  workloads := []
  pendingMib := none

/-- A request for 400 MiB on one brick, at time `ref`. -/
def request400 (b : Brick) (ref : Nat) : PlaceCall Nat where
  req :=
    { bricks := [b], workload := "fn", key := none, needMib := some 400, nodeId := none,
      base := .none, requireSubnet := false, recordDemand := true, inflight := true, exclude := [] }
  ref := ref
  now := ref

/-- Of three requests for 400 MiB a brick that admits 1000 gets two. -/
theorem serial_within_admittable_of_three : ((run (Serving.step fun _ _ => 0) ⟨create, 0, []⟩
        ((range 3).map (request400 (reportingBrick 0)))).needs (reportingBrick 0)) = [400, 400] ∧
      ((400 + 400 : Nat) : Int) + (2 - 1) * 0 ≤ 1000 := by
  have hneeds : ((run (Serving.step fun _ _ => 0) ⟨create, 0, []⟩
      ((range 3).map (request400 (reportingBrick 0)))).needs (reportingBrick 0)) =
        [400, 400] := by
    decide +kernel
  refine ⟨hneeds, ?_⟩
  have hbound := (serial_within_admittable (fun _ _ => 0) create 0
    ((range 3).map (request400 (reportingBrick 0))) (by decide +kernel)).1 (reportingBrick 0)
    (by decide) (by decide) (by decide)
  rw [hneeds] at hbound
  exact hbound (by decide)

/-- The brick reports a boot of 500 MiB placed in flight for which the ledger has no claim. It
admits 1000 MiB, and three serial requests for 400 are all claimed on it. -/
theorem reported_boots_hide_claims : Along (Serving.step fun _ _ => 0) Serial ⟨create, 0, []⟩
      ((range 3).map (request400 (reportingBrick 500))) ∧
    let needs := (run (Serving.step fun _ _ => 0) ⟨create, 0, []⟩
      ((range 3).map (request400 (reportingBrick 500)))).needs (reportingBrick 500)
    needs = [400, 400, 400] ∧ (reportingBrick 500).wildcard? = false ∧
      (reportingBrick 500).blind? = false ∧
      ¬ (needs.sum : Int) + (needs.length - 1) * (reportingBrick 500).chargedOverheadMib ≤
        (reportingBrick 500).admittableMib := by
  decide +kernel

end Homelab.Embervm.Scheduler
