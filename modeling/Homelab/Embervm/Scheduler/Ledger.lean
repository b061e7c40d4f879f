import Homelab.Embervm.Scheduler.Inflight

/-!
# The in-flight ledger is exact

The table forgets: a row is deleted when its claim is released, lands or goes with its brick, and
at some time after it has expired. A `Ledger` runs the operations on the table and beside it keeps
every claim ever made, with what became of it.

* `Claim.next` is what an operation means for one claim, in terms of claims alone.
* `Booked`: the rows are the standing claims, without some that have expired. An operation acts on
  rows as `Claim.next` acts on claims (`apply_rows`), so every step keeps it (`booked_step`).
* `settled_le_reportSeq`: a settled row carries a sequence number the brick's counter has reached.
  A report raises the counter first, so it finds every settled row of its brick; and `drop`, which
  resets the counter, leaves no row behind.
-/

namespace Homelab.Embervm

open Homelab.Lib Table

attribute [local instance] timeOrder

/-! ## Claims -/

/-- What became of a claim. -/
inductive Fate where
  | standing
  | released
  /-- Its brick and ref were claimed again, which replaces it. -/
  | replaced
  /-- Its brick was forgotten. -/
  | dropped
  /-- It was settled and a report that counts landed VMs followed. -/
  | landed
  deriving DecidableEq, Repr

/-- A claim. -/
structure Claim (ρ : Type) where
  dialId : String
  ref : ρ
  charge : Nat
  expiresAt : WithTop Int
  settled : Bool
  fate : Fate
  deriving DecidableEq

/-- An operation on the ledger, with the time it reads. -/
inductive InflightOp (ρ : Type) where
  | claim (dialId : String) (ref : ρ) (memMib : Int) (ttlMs : WithTop Int) (now : Int)
  | settle (dialId : String) (ref : ρ) (holdMs now : Int)
  | release (dialId : String) (ref : ρ)
  | releaseRef (ref : ρ)
  | observeReport (dialId : String) (countsLanded : Bool)
  | drop (dialId : String)
  | sweep (now : Int)

variable {ρ : Type}

/-- The time an operation reads, if it reads one. -/
def InflightOp.now : InflightOp ρ → Option Int
  | .claim _ _ _ _ now => some now
  | .settle _ _ _ now => some now
  | .sweep now => some now
  | _ => none

/-- The claim an operation makes. -/
def InflightOp.opened : InflightOp ρ → Option (Claim ρ)
  | .claim dialId ref memMib ttlMs now =>
    some ⟨dialId, ref, memMib.toNat, now + ttlMs, false, .standing⟩
  | _ => none

/-- The claim a row stands for. -/
def Claim.ofRow (e : (String × ρ) × InflightRow) : Claim ρ :=
  ⟨e.1.1, e.1.2, e.2.memMib, e.2.expiresAt, e.2.settledAfter.isSome, .standing⟩

namespace Claim

variable (c : Claim ρ) (op : InflightOp ρ)

/-- The claim counts against the brick: it is unreleased, not landed and unexpired. -/
def Counts (dialId : String) (now : Int) : Prop :=
  c.fate = .standing ∧ c.dialId = dialId ∧ (now : WithTop Int) < c.expiresAt

instance (c : Claim ρ) (dialId : String) (now : Int) : Decidable (c.Counts dialId now) :=
  inferInstanceAs (Decidable (_ ∧ _))

variable [DecidableEq ρ]

/-- What an operation makes of a standing claim. -/
def act : InflightOp ρ → Claim ρ
  | .claim dialId ref _ _ _ =>
    if c.dialId = dialId ∧ c.ref = ref then { c with fate := .replaced } else c
  | .settle dialId ref holdMs now =>
    if c.dialId = dialId ∧ c.ref = ref then
      { c with
        settled := true
        expiresAt := min c.expiresAt ((now + holdMs : Int) : WithTop Int) }
    else c
  | .release dialId ref =>
    if c.dialId = dialId ∧ c.ref = ref then { c with fate := .released } else c
  | .releaseRef ref => if c.ref = ref then { c with fate := .released } else c
  | .observeReport dialId countsLanded =>
    if countsLanded ∧ c.dialId = dialId ∧ c.settled then { c with fate := .landed } else c
  | .drop dialId => if c.dialId = dialId then { c with fate := .dropped } else c
  | .sweep _ => c

/-- What an operation makes of a claim: a claim that is gone stays as it is. -/
def next : Claim ρ :=
  if c.fate = .standing then c.act op else c

/-- A standing claim after an operation, if it is still standing. -/
def stay (c : Claim ρ) : Option (Claim ρ) :=
  if (c.act op).fate = .standing then some (c.act op) else none

/-- No operation moves an expiry later. -/
lemma act_expiresAt_le : (c.act op).expiresAt ≤ c.expiresAt := by
  cases op <;> simp only [act]
  case settle => split <;> simp
  case sweep => exact le_rfl
  all_goals split <;> exact le_rfl

end Claim

/-! ## Runs -/

/-- The table, every claim ever made, and the latest time read. -/
structure Ledger (ρ : Type) where
  inflight : Inflight ρ
  claims : List (Claim ρ)
  clock : Int

variable [DecidableEq ρ]

/-- Runs an operation on the table. -/
def Inflight.apply (t : Inflight ρ) : InflightOp ρ → Inflight ρ
  | .claim dialId ref memMib ttlMs now => t.claim dialId ref memMib ttlMs now
  | .settle dialId ref holdMs now => t.settle dialId ref holdMs now
  | .release dialId ref => t.release dialId ref
  | .releaseRef ref => t.releaseRef ref
  | .observeReport dialId countsLanded => t.observeReport dialId countsLanded
  | .drop dialId => t.drop dialId
  | .sweep now => (t.sweep now).2

namespace Ledger

/-- A ledger whose table was created at time `now`. -/
def start (now : Int) : Ledger ρ := ⟨Inflight.create, [], now⟩

variable (l : Ledger ρ) (op : InflightOp ρ)

def step : Ledger ρ where
  inflight := l.inflight.apply op
  claims := l.claims.map (·.next op) ++ op.opened.toList
  clock := op.now.getD l.clock

/-- The clock does not run backwards. -/
def OnTime : Prop :=
  ∀ now ∈ op.now, l.clock ≤ now

instance (l : Ledger ρ) (op : InflightOp ρ) : Decidable (OnTime l op) :=
  inferInstanceAs (Decidable (∀ now ∈ op.now, l.clock ≤ now))

/-- The standing claims. -/
def standing (claims : List (Claim ρ)) : Multiset (Claim ρ) :=
  (claims.filter fun c => c.fate = .standing : List (Claim ρ))

/-- The rows of the table are the standing claims, without some that have expired. -/
def Booked : Prop :=
  ∃ swept : Multiset (Claim ρ),
    standing l.claims = l.inflight.rows.bag.map Claim.ofRow + swept ∧
      ∀ c ∈ swept, c.expiresAt ≤ (l.clock : WithTop Int)

lemma standing_map_next (claims : List (Claim ρ)) (op : InflightOp ρ) :
    standing (claims.map (·.next op)) = (standing claims).filterMap (Claim.stay op) := by
  unfold standing
  congr 1
  induction claims with
  | nil => rfl
  | cons c claims ih =>
    by_cases h : c.fate = .standing
    · have hnext : c.next op = c.act op := if_pos h
      by_cases h' : (c.act op).fate = .standing <;> simp [hnext, Claim.stay, h, h', ih]
    · have hnext : c.next op = c := if_neg h
      simp [hnext, h, ih]

lemma standing_step : standing (l.step op).claims =
      (standing l.claims).filterMap (Claim.stay op) + (op.opened.toList : Multiset (Claim ρ)) := by
  have hopened : op.opened.toList.filter (fun c => c.fate = .standing) = op.opened.toList := by
    cases op <;> simp [InflightOp.opened]
  rw [← standing_map_next]
  unfold standing step
  rw [List.filter_append, hopened, Multiset.coe_add]

variable {rows : Multiset ((String × ρ) × InflightRow)} (p : (String × ρ) × InflightRow → Prop)

/-- An operation that keeps the rows with `p` and rewrites them by `g`. -/
lemma filterMap_stay [DecidablePred p] (g : (String × ρ) × InflightRow → (String × ρ) × InflightRow)
    (h : ∀ e ∈ rows, (Claim.ofRow e).stay op = if p e then some (Claim.ofRow (g e)) else none) :
    (rows.map Claim.ofRow).filterMap (Claim.stay op) = ((rows.filter p).map g).map Claim.ofRow := by
  induction rows using Multiset.induction with
  | empty => rfl
  | cons e rows ih =>
    have hrest := ih fun e' he' => h e' (Multiset.mem_cons_of_mem he')
    have he := h e (Multiset.mem_cons_self e rows)
    rw [Multiset.map_cons]
    split_ifs at he with hp
    · rw [Multiset.filterMap_cons_some _ _ _ he, Multiset.filter_cons_of_pos _ hp,
        Multiset.map_cons, Multiset.map_cons, hrest]
    · rw [Multiset.filterMap_cons_none _ _ he, Multiset.filter_cons_of_neg _ hp, hrest]

/-- A sweep parts the rows by their expiry. -/
lemma bag_sweepExpired (t : Inflight ρ) (now : Int) : t.rows.bag = (t.sweepExpired now).rows.bag +
      t.rows.bag.filter fun e => e.2.expiresAt ≤ (now : WithTop Int) := by
  have hkept : (t.sweepExpired now).rows.bag =
      t.rows.bag.filter fun e => ¬ e.2.expiresAt ≤ (now : WithTop Int) := by
    rw [Inflight.sweepExpired, bag_deleteWhere]
    simp only [decide_eq_false_iff_not]
  rw [hkept, add_comm, Multiset.filter_add_not]

variable {t : Inflight ρ} {row : InflightRow} {key : String × ρ}

omit [DecidableEq ρ] in
/-- The rows of a brick that a report lands are its settled rows. -/
lemma landedBy_iff (dialId : String)
    (hseq : ∀ n, row.settledAfter = some n → n ≤ t.reportSeq key.1) :
    Inflight.landedBy dialId (t.reportSeq dialId + 1) key row = true ↔
      key.1 = dialId ∧ row.settledAfter.isSome := by
  unfold Inflight.landedBy
  rw [Bool.and_eq_true, beq_iff_eq]
  apply and_congr_right
  rintro rfl
  rcases h : row.settledAfter with _ | n
  · simp
  · simpa using Nat.lt_succ_of_le (hseq n h)

/-- No row carries a report sequence its brick has not reached. -/
def SeqBounded (t : Inflight ρ) : Prop :=
  ∀ key row n, t.rows.lookup key = some row → row.settledAfter = some n → n ≤ t.reportSeq key.1

variable {op : InflightOp ρ}

/-- The rows an operation leaves, where it keeps the rows with `p`, rewrites them by `g` and makes
no claim. -/
lemma acts_as_stay [DecidablePred p] (g : (String × ρ) × InflightRow → (String × ρ) × InflightRow)
    (hbag : (t.apply op).rows.bag = (rows.filter p).map g) (hopened : op.opened = none)
    (h : ∀ e ∈ rows, (Claim.ofRow e).stay op = if p e then some (Claim.ofRow (g e)) else none) :
    (t.apply op).rows.bag.map Claim.ofRow =
      (rows.map Claim.ofRow).filterMap (Claim.stay op) +
        (op.opened.toList : Multiset (Claim ρ)) := by
  rw [hbag, filterMap_stay op p g h, hopened]
  exact (add_zero _).symm

/-- The operation acts on the rows as it acts on claims, after it has swept expired rows. -/
def ActsAsOnClaims (t : Inflight ρ) (op : InflightOp ρ) : Prop :=
  ∃ kept swept : Multiset ((String × ρ) × InflightRow), t.rows.bag = kept + swept ∧
    (∀ e ∈ swept, ∃ now, op.now = some now ∧ e.2.expiresAt ≤ (now : WithTop Int)) ∧
    (t.apply op).rows.bag.map Claim.ofRow =
      (kept.map Claim.ofRow).filterMap (Claim.stay op) +
        (op.opened.toList : Multiset (Claim ρ))

/-- An operation that removes the rows without `p`, and sweeps nothing. -/
lemma acts_of_filter [DecidablePred p]
    (hbag : (t.apply op).rows.bag = t.rows.bag.filter p) (hopened : op.opened = none)
    (h : ∀ e ∈ t.rows.bag, (Claim.ofRow e).stay op = if p e then some (Claim.ofRow e) else none) :
    ActsAsOnClaims t op :=
  ⟨_, 0, (add_zero _).symm, by simp, acts_as_stay p id (by rw [Multiset.map_id, hbag]) hopened h⟩

lemma apply_rows (t : Inflight ρ) (op : InflightOp ρ) (hseq : SeqBounded t) :
    ActsAsOnClaims t op := by
  cases op with
  | claim dialId ref memMib ttlMs now =>
    refine ⟨_, _, bag_sweepExpired t now, ?_, ?_⟩
    · exact fun e he => ⟨now, rfl, (Multiset.mem_filter.mp he).2⟩
    · rw [filterMap_stay _ (fun e => e.1 ≠ (dialId, ref)) id]
      · change (bag (AList.insert (dialId, ref) _ (t.sweepExpired now).rows)).map _ = _
        rw [bag_insert, Multiset.map_cons, Multiset.map_id, ← Multiset.singleton_add,
          Multiset.add_comm]
        rfl
      · rintro ⟨⟨d, r⟩, row⟩ -
        by_cases h : d = dialId ∧ r = ref <;> simp [Claim.stay, Claim.act, Claim.ofRow, h]
  | settle dialId ref holdMs now =>
    refine ⟨_, 0, (add_zero _).symm, by simp, acts_as_stay (fun _ => True)
      (fun e => if e.1 = (dialId, ref) then (e.1, e.2.settle (now + holdMs) (t.reportSeq dialId))
        else e) ?_ rfl ?_⟩
    · rw [Multiset.filter_true]
      exact bag_update _ _ _
    · rintro ⟨⟨d, r⟩, row⟩ -
      by_cases h : d = dialId ∧ r = ref <;>
        simp [Claim.stay, Claim.act, Claim.ofRow, InflightRow.settle, h]
  | release dialId ref =>
    refine acts_of_filter (fun e => e.1 ≠ (dialId, ref)) (bag_erase _ _) rfl ?_
    rintro ⟨⟨d, r⟩, row⟩ -
    by_cases h : d = dialId ∧ r = ref <;> simp [Claim.stay, Claim.act, Claim.ofRow, h]
  | releaseRef ref =>
    refine acts_of_filter (fun e => (e.1.2 == ref) = false) (bag_deleteWhere _ _) rfl ?_
    rintro ⟨⟨d, r⟩, row⟩ -
    by_cases h : r = ref <;> simp [Claim.stay, Claim.act, Claim.ofRow, h]
  | observeReport dialId countsLanded =>
    cases countsLanded with
    | false =>
      refine acts_of_filter (fun _ => True) (Multiset.filter_true _).symm rfl ?_
      rintro e -
      simp [Claim.stay, Claim.act, Claim.ofRow]
    | true =>
      refine acts_of_filter
        (fun e => Inflight.landedBy dialId (t.reportSeq dialId + 1) e.1 e.2 = false)
        (bag_deleteWhere _ _) rfl ?_
      rintro ⟨key, row⟩ he
      have hlanded := landedBy_iff dialId (hseq key row · (mem_bag.mp he))
      by_cases h : key.1 = dialId ∧ row.settledAfter.isSome
      · simp [Claim.stay, Claim.act, Claim.ofRow, h, hlanded.mpr h]
      · have hnot := mt hlanded.mp h
        simp [Claim.stay, Claim.act, Claim.ofRow, h, hnot]
  | drop dialId =>
    refine acts_of_filter (fun e => (e.1.1 == dialId) = false) (bag_deleteWhere _ _) rfl ?_
    rintro ⟨⟨d, r⟩, row⟩ -
    by_cases h : d = dialId <;> simp [Claim.stay, Claim.act, Claim.ofRow, h]
  | sweep now =>
    refine ⟨_, _, bag_sweepExpired t now, ?_, acts_as_stay (fun _ => True) id ?_ rfl ?_⟩
    · exact fun e he => ⟨now, rfl, (Multiset.mem_filter.mp he).2⟩
    · rw [Multiset.filter_true, Multiset.map_id]
      rfl
    · rintro e -
      simp [Claim.stay, Claim.act, Claim.ofRow]

/-! ## What every run keeps -/

/-- A delete keeps the sequence numbers in bounds. -/
lemma SeqBounded.deleteWhere (h : SeqBounded t) (p : String × ρ → InflightRow → Bool) :
    SeqBounded { t with rows := t.rows.deleteWhere p } := by
  intro key row n hrow
  rw [lookup_deleteWhere, Option.filter_eq_some_iff] at hrow
  exact h key row n hrow.1

lemma SeqBounded.apply (h : SeqBounded t) (op : InflightOp ρ) : SeqBounded (t.apply op) := by
  cases op with
  | claim dialId ref memMib ttlMs now =>
    intro key row n hrow hn
    obtain ⟨-, rfl⟩ | ⟨-, hrow⟩ := of_lookup_insert hrow
    · cases hn
    · exact h.deleteWhere _ key row n hrow hn
  | settle dialId ref holdMs now =>
    intro key row n hrow hn
    obtain ⟨rfl, old, -, rfl⟩ | ⟨-, hrow⟩ := of_lookup_update hrow
    · cases hn
      exact Nat.le_refl _
    · exact h key row n hrow hn
  | release dialId ref =>
    intro key row n hrow hn
    exact h key row n (of_lookup_erase hrow).2 hn
  | releaseRef ref => exact h.deleteWhere _
  | observeReport dialId countsLanded =>
    have hseq : SeqBounded
        { t with reportSeqs := t.reportSeqs.insert dialId (t.reportSeq dialId + 1) } := by
      intro key row n hrow hn
      have hle := h key row n hrow hn
      unfold Inflight.reportSeq at hle ⊢
      rw [lookup_insert]
      split
      next hkey =>
        rw [hkey] at hle
        exact Nat.le_succ_of_le hle
      · exact hle
    cases countsLanded with
    | false => exact hseq
    | true => exact hseq.deleteWhere _
  | drop dialId =>
    -- the counter of the brick is gone, and so is every row of it
    intro key row n hrow hn
    rw [Inflight.apply, Inflight.drop, lookup_deleteWhere, Option.filter_eq_some_iff] at hrow
    have hle := h key row n hrow.1 hn
    have hkey : key.1 ≠ dialId := by simpa using hrow.2
    unfold Inflight.apply Inflight.drop Inflight.reportSeq
    rwa [lookup_erase, if_neg hkey]
  | sweep now => exact h.deleteWhere _

variable {l : Ledger ρ}

lemma clock_le_step (htime : OnTime l op) : l.clock ≤ (l.step op).clock := by
  rcases h : op.now with _ | now
  · rw [step, h]
    exact le_rfl
  · rw [step, h]
    exact htime now h

lemma booked_step (htime : OnTime l op) (hseq : SeqBounded l.inflight) (h : Booked l) :
    Booked (l.step op) := by
  obtain ⟨gone, hbooks, hgone⟩ := h
  obtain ⟨kept, swept, hrows, hswept, happly⟩ := apply_rows l.inflight op hseq
  -- what has been swept so far, as the operation leaves it
  refine ⟨(swept.map Claim.ofRow + gone).filterMap (Claim.stay op), ?_, ?_⟩
  · rw [standing_step, hbooks, hrows]
    change _ = (l.inflight.apply op).rows.bag.map Claim.ofRow + _
    rw [happly, Multiset.map_add]
    simp only [Multiset.filterMap_add]
    ac_rfl
  · intro c hc
    obtain ⟨c₀, hmem, hstay⟩ := (Multiset.mem_filterMap _ _).mp hc
    have hc₀ : c.expiresAt ≤ c₀.expiresAt := by
      unfold Claim.stay at hstay
      split at hstay
      · cases hstay
        exact c₀.act_expiresAt_le op
      · cases hstay
    rcases Multiset.mem_add.mp hmem with hmem | hmem
    · obtain ⟨e, he, rfl⟩ := Multiset.mem_map.mp hmem
      obtain ⟨now, hnow, hexp⟩ := hswept e he
      have hclock : (l.step op).clock = now := by
        rw [step, hnow]
        rfl
      rw [hclock]
      exact hc₀.trans hexp
    · have hclock := WithTop.coe_le_coe.mpr (clock_le_step htime)
      exact hc₀.trans ((hgone c₀ hmem).trans hclock)

lemma booked_run (t₀ : Int) {ops : List (InflightOp ρ)} (htime : Along step OnTime (start t₀) ops) :
    SeqBounded (run step (start t₀ : Ledger ρ) ops).inflight ∧
      Booked (run step (start t₀ : Ledger ρ) ops) := by
  have hstart : SeqBounded (start t₀ : Ledger ρ).inflight ∧ Booked (start t₀ : Ledger ρ) := by
    constructor
    · intro key row n hrow
      cases hrow
    · exact ⟨0, rfl, fun c hc => absurd hc (Multiset.notMem_zero c)⟩
  refine run_induction (fun l => SeqBounded l.inflight ∧ Booked l)
    (fun l op h hop => ?_) hstart htime
  exact ⟨h.1.apply op, booked_step hop h.1 h.2⟩

/-! ## Exactness -/

omit [DecidableEq ρ] in
lemma Booked.pendingMib (h : Booked l) (dialId : String) {now : Int} (hnow : l.clock ≤ now) :
    l.inflight.pendingMib dialId now =
      ((l.claims.filter fun c => c.Counts dialId now).map (·.charge)).sum := by
  obtain ⟨swept, hbooks, hswept⟩ := h
  have hstanding : ((l.claims.filter fun c => c.Counts dialId now : List (Claim ρ)) : Multiset _) =
      (standing l.claims).filter fun c => c.dialId = dialId ∧
        (now : WithTop Int) < c.expiresAt := by
    rw [standing, Multiset.filter_coe, List.filter_filter]
    congr 2
    funext c
    rw [← Bool.decide_and, decide_eq_decide]
    exact and_comm
  have hexpired :
      (swept.filter fun c => c.dialId = dialId ∧ (now : WithTop Int) < c.expiresAt) = 0 := by
    apply Multiset.filter_eq_nil.mpr
    rintro c hc ⟨-, hlt⟩
    have hle : c.expiresAt ≤ (now : WithTop Int) :=
      (hswept c hc).trans (WithTop.coe_le_coe.mpr hnow)
    exact absurd hlt (not_lt.mpr hle)
  rw [Inflight.pendingMib_eq, ← Multiset.sum_coe, ← Multiset.map_coe, hstanding, hbooks,
    Multiset.filter_add, hexpired, add_zero, Multiset.filter_map, Multiset.map_map]
  rfl

lemma Booked.claim_of_row (h : Booked l) (hrow : l.inflight.rows.lookup key = some row) :
    Claim.ofRow (key, row) ∈ l.claims := by
  obtain ⟨swept, hbooks, -⟩ := h
  have hmem : Claim.ofRow (key, row) ∈ standing l.claims := by
    rw [hbooks]
    exact Multiset.mem_add.mpr (Or.inl (Multiset.mem_map_of_mem _ (mem_bag.mpr hrow)))
  exact (List.mem_filter.mp (Multiset.mem_coe.mp hmem)).1

/-- What a report leaves in the table. -/
lemma SeqBounded.observeReport (h : SeqBounded t) (dialId : String) (countsLanded : Bool)
    (key : String × ρ) (row : InflightRow) :
    (t.observeReport dialId countsLanded).rows.lookup key = some row ↔
      t.rows.lookup key = some row ∧
        ¬ (countsLanded ∧ key.1 = dialId ∧ row.settledAfter.isSome) := by
  cases countsLanded with
  | false => simp [Inflight.observeReport]
  | true =>
    simp only [Inflight.observeReport, if_true, lookup_deleteWhere,
      Option.filter_eq_some_iff, true_and]
    apply and_congr_right
    intro hrow
    rw [Bool.not_eq_true', ← landedBy_iff dialId (h key row · hrow), Bool.not_eq_true]

/-- **The ledger is exact.** After any operations on any bricks and refs, with a clock that does not
run backwards:

* the pending total of a brick is the sum of the charges of its claims that are unreleased,
  unexpired and not landed;
* a report that counts landed VMs removes exactly the rows of its brick that were settled before,
  any other report none; and each row is a claim that was made, settled when that claim was;
* settling moves no expiry later. -/
theorem books_exact (t₀ : Int) (ops : List (InflightOp ρ))
    (htime : Along step OnTime (start t₀) ops) :
    let l := run step (start t₀) ops
    (∀ dialId now, l.clock ≤ now → l.inflight.pendingMib dialId now =
        ((l.claims.filter fun c => c.Counts dialId now).map (·.charge)).sum) ∧
      (∀ dialId countsLanded key row,
        (l.inflight.observeReport dialId countsLanded).rows.lookup key = some row ↔
          l.inflight.rows.lookup key = some row ∧
            ¬ (countsLanded ∧ key.1 = dialId ∧ row.settledAfter.isSome)) ∧
      (∀ key row, l.inflight.rows.lookup key = some row → Claim.ofRow (key, row) ∈ l.claims) ∧
      (∀ dialId ref holdMs now key row,
        (l.inflight.settle dialId ref holdMs now).rows.lookup key = some row →
          ∃ old, l.inflight.rows.lookup key = some old ∧ row.expiresAt ≤ old.expiresAt) := by
  obtain ⟨hseq, hbooked⟩ := booked_run t₀ htime
  refine ⟨fun dialId now => hbooked.pendingMib dialId, hseq.observeReport,
    fun key row => hbooked.claim_of_row, ?_⟩
  intro dialId ref holdMs now key row hrow
  obtain ⟨rfl, old, hold, rfl⟩ | ⟨-, hrow⟩ := of_lookup_update hrow
  · exact ⟨old, hold, min_le_left _ _⟩
  · exact ⟨row, hrow, le_rfl⟩

/-- A claim of 512 MiB settled and landed, another in flight and one of another brick released: 256
MiB are pending. -/
theorem books_exact_after_report :
    (run step (start 0) [.claim "node/a" 1 512 200000 10, .claim "node/a" 2 256 200000 20,
      .claim "node/b" 3 128 200000 30, .settle "node/a" 1 5000 40, .release "node/b" 3,
      .observeReport "node/a" true] : Ledger Nat).inflight.pendingMib "node/a" 50 = 256 := by
  refine ((books_exact 0 _ ?_).1 "node/a" 50 (by decide)).trans (by decide +kernel)
  decide

end Ledger

end Homelab.Embervm
