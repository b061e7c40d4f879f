import Mathlib.Order.Compare
import Mathlib.Order.Basic
import Mathlib.Data.Int.Order.Basic
import Homelab.Lib.Run
import Homelab.Tokenbroker.Quota

/-!
# Quota observations converge

The durable object only goes up in the order of `compareRecords`, whatever stores do to it, since a
store can write only on top of the content it has merged into: its revision stands for that content.
What a store has in memory is behind the object, so a `Put` that finds nothing to change has been
covered already. Once all `Put`s have committed, the object holds the newest record for each key.
-/

namespace Homelab.Tokenbroker

open Homelab.Lib Function Table

/-! ## The order of records -/

namespace Wire

variable (w : Wire)

lemma compareRecords_eq : w.compareRecords = compareLex (compareOn w.observedAt)
    (compareLex (compareOn fun r => r.receivedAt.instant) (compareOn w.digest)) := by
  funext left right
  unfold compareRecords compareLex compareOn Time.before Time.after
  rcases lt_trichotomy (w.observedAt left) (w.observedAt right) with h | h | h
  · rw [if_pos h, compare_lt_iff_lt.mpr h]
    rfl
  · rw [h, if_neg (lt_irrefl _), if_neg (lt_irrefl _), compare_eq_iff_eq.mpr rfl]
    simp only [decide_eq_true_eq]
    rcases lt_trichotomy left.receivedAt.instant right.receivedAt.instant with h' | h' | h'
    · rw [if_pos h', compare_lt_iff_lt.mpr h']
      rfl
    · rw [h', if_neg (lt_irrefl _), if_neg (lt_irrefl _), compare_eq_iff_eq.mpr rfl]
      rfl
    · rw [if_neg (lt_asymm h'), if_pos h', compare_gt_iff_gt.mpr h']
      rfl
  · rw [if_neg (lt_asymm h), if_pos h, compare_gt_iff_gt.mpr h]
    rfl

instance : Std.TransCmp w.compareRecords := by
  rw [compareRecords_eq]
  infer_instance

/-- Two records that are not newer than each other have one digest. -/
lemma digest_eq {a b : StoredObservation} (hab : NotNewer w.compareRecords a b)
    (hba : NotNewer w.compareRecords b a) : w.digest a = w.digest b := by
  have heq : w.compareRecords a b = .eq := Std.OrientedCmp.isLE_antisymm hab hba
  rw [compareRecords_eq, compareLex_eq_eq, compareLex_eq_eq] at heq
  exact compare_eq_iff_eq.mp heq.2.2

end Wire

/-! ## States -/

section

variable (w : Wire)

/-- No record of the one is newer than that of the other. -/
def PersistedState.Behind (s t : PersistedState) : Prop :=
  s.observations.Behind w.compareRecords t.observations ∧ s.grants.Behind w.compareRecords t.grants

/-- The state has records that a `Put` does not beat. -/
def PersistedState.Covers (s : PersistedState) (p : Put) : Prop :=
  (∃ r, s.observations.lookup p.provider = some r ∧ NotNewer w.compareRecords p.candidate r) ∧
    (p.grant ≠ "" → ∃ r, s.grants.lookup p.grant = some r ∧ NotNewer w.compareRecords p.candidate r)

/-- A record of the provider: it was in `first`, or is the candidate of a `Put`. -/
def Observed (first : PersistedState) (puts : List Put) (provider : String)
    (r : StoredObservation) : Prop :=
  first.observations.lookup provider = some r ∨ ∃ p ∈ puts, p.provider = provider ∧ p.candidate = r

/-- A record of the grant. -/
def Granted (first : PersistedState) (puts : List Put) (grant : String)
    (r : StoredObservation) : Prop :=
  first.grants.lookup grant = some r ∨ ∃ p ∈ puts, p.grant ≠ "" ∧ p.grant = grant ∧ p.candidate = r

/-- The state holds nothing else. -/
structure PersistedState.Only (first : PersistedState) (puts : List Put)
    (s : PersistedState) : Prop where
  observations : ∀ k r, s.observations.lookup k = some r → Observed first puts k r
  grants : ∀ k r, s.grants.lookup k = some r → Granted first puts k r

end

namespace PersistedState

variable {w : Wire} {s t u : PersistedState} {p : Put}

lemma Behind.refl (s : PersistedState) : s.Behind w s := ⟨.refl _, .refl _⟩

lemma Behind.trans (h : s.Behind w t) (h' : t.Behind w u) : s.Behind w u :=
  ⟨h.1.trans h'.1, h.2.trans h'.2⟩

lemma Covers.mono (h : s.Covers w p) (hst : s.Behind w t) : t.Covers w p := by
  obtain ⟨⟨r, hr, hle⟩, hgrant⟩ := h
  obtain ⟨r', hr', hle'⟩ := hst.1 _ r hr
  refine ⟨⟨r', hr', hle.trans hle'⟩, fun hne => ?_⟩
  obtain ⟨g, hg, hgle⟩ := hgrant hne
  obtain ⟨g', hg', hgle'⟩ := hst.2 _ g hg
  exact ⟨g', hg', hgle.trans hgle'⟩

lemma Only.mono {first : PersistedState} {puts puts' : List Put} (h : Only first puts s)
    (hsub : ∀ p ∈ puts, p ∈ puts') : Only first puts' s where
  observations k r hr := (h.observations k r hr).imp id fun ⟨p, hp, hk⟩ => ⟨p, hsub p hp, hk⟩
  grants k r hr := (h.grants k r hr).imp id fun ⟨p, hp, hk⟩ => ⟨p, hsub p hp, hk⟩

variable (s)

lemma merge_of_no_grant (h : p.grant = "") : w.merge s p =
    ((w.replaceIfNewer s.observations p.provider p.candidate).1,
      ⟨(w.replaceIfNewer s.observations p.provider p.candidate).2, s.grants⟩) := if_pos h

lemma merge_of_grant (h : p.grant ≠ "") : w.merge s p =
    ((w.replaceIfNewer s.grants p.grant p.candidate).1 ||
        (w.replaceIfNewer s.observations p.provider p.candidate).1,
      ⟨(w.replaceIfNewer s.observations p.provider p.candidate).2,
        (w.replaceIfNewer s.grants p.grant p.candidate).2⟩) := if_neg h

/-- A merge goes up. -/
lemma behind_merge (p : Put) : s.Behind w (w.merge s p).2 := by
  by_cases hgrant : p.grant = ""
  · rw [merge_of_no_grant s hgrant]
    exact ⟨behind_keepNewest _ _ _, .refl _⟩
  · rw [merge_of_grant s hgrant]
    exact ⟨behind_keepNewest _ _ _, behind_keepNewest _ _ _⟩

lemma covers_merge (p : Put) : (w.merge s p).2.Covers w p := by
  by_cases hgrant : p.grant = ""
  · rw [merge_of_no_grant s hgrant]
    exact ⟨lookup_keepNewest_self .., fun hne => absurd hgrant hne⟩
  · rw [merge_of_grant s hgrant]
    exact ⟨lookup_keepNewest_self .., fun _ => lookup_keepNewest_self ..⟩

variable {s}

lemma Only.merge {first : PersistedState} {puts : List Put} (h : Only first puts s)
    (hp : p ∈ puts) :
    Only first puts (w.merge s p).2 := by
  have hobservations (k : String) (r : StoredObservation)
      (hr : (w.replaceIfNewer s.observations p.provider p.candidate).2.lookup k = some r) :
      Observed first puts k r := by
    rcases lookup_keepNewest_cases hr with hold | ⟨rfl, rfl⟩
    · exact h.observations k r hold
    · exact .inr ⟨p, hp, rfl, rfl⟩
  by_cases hgrant : p.grant = ""
  · rw [merge_of_no_grant s hgrant]
    exact ⟨hobservations, h.grants⟩
  · rw [merge_of_grant s hgrant]
    refine ⟨hobservations, fun k r hr => ?_⟩
    rcases lookup_keepNewest_cases hr with hold | ⟨rfl, rfl⟩
    · exact h.grants k r hold
    · exact .inr ⟨p, hp, hgrant, rfl, rfl⟩

/-- A merge that changes nothing finds the `Put` covered. -/
lemma covers_of_unchanged (h : (w.merge s p).1 = false) : s.Covers w p := by
  have hcovered : ∀ (records : Table String StoredObservation) (key : String),
      (w.replaceIfNewer records key p.candidate).1 = false →
        ∃ r, records.lookup key = some r ∧ NotNewer w.compareRecords p.candidate r := by
    intro records key hfalse
    unfold Wire.replaceIfNewer at hfalse
    rcases keepNewest_cases w.compareRecords records key p.candidate with
      ⟨r, hr, hle, -⟩ | ⟨-, hkeep⟩
    · exact ⟨r, hr, hle⟩
    · rw [hkeep] at hfalse
      cases hfalse
  by_cases hgrant : p.grant = ""
  · rw [merge_of_no_grant s hgrant] at h
    exact ⟨hcovered _ _ h, fun hne => absurd hgrant hne⟩
  · rw [merge_of_grant s hgrant, Bool.or_eq_false_iff] at h
    exact ⟨hcovered _ _ h.2, fun _ => hcovered _ _ h.1⟩

end PersistedState

/-! ## The invariant -/

/-- The object is as it was, or has been written once, upwards. -/
def Persistence.Grows (w : Wire) (object object' : Persistence) : Prop :=
  object' = object ∨ ∃ next, object' = object.write next ∧ object.current.Behind w next

/-- A store and the object: its memory is behind the object, its revision stands for what it has in
memory, what it shows has been durable, and a swap it prepares is a merge into its memory. -/
structure Store.Sound (w : Wire) (object : Persistence) (puts : List Put) (s : Store) : Prop where
  behind : s.state.Behind w object.current
  revision : ∀ r, s.revision = some r →
    r ≤ object.revision ∧ (r = object.revision → s.state = object.current)
  durable : s.readable = true → s.state ∈ object.contents
  put : ∀ r, s.running = some r → r.put ∈ puts
  swap : ∀ r next, s.running = some r → r.pending = .swap next → next = (w.merge s.state r.put).2

/-- The invariant of stores that share an object whose content was `first`. -/
structure QuotaWorld.Sound (w : Wire) (first : PersistedState) (q : QuotaWorld) : Prop where
  stores : ∀ i s, q.stores i = some s → s.Sound w q.persistence q.puts
  covered : ∀ p ∈ q.committed, q.persistence.current.Covers w p
  only : PersistedState.Only first q.puts q.persistence.current
  first : first.Behind w q.persistence.current

/-- Nothing has gone back. -/
structure QuotaWorld.Forward (w : Wire) (q q' : QuotaWorld) : Prop where
  object : q.persistence.current.Behind w q'.persistence.current
  stores : ∀ i s, q.stores i = some s → ∃ s', q'.stores i = some s' ∧ s.state.Behind w s'.state

lemma QuotaWorld.Forward.refl {w : Wire} (q : QuotaWorld) : q.Forward w q :=
  ⟨.refl _, fun _ s hs => ⟨s, hs, .refl _⟩⟩

lemma QuotaWorld.Forward.trans {w : Wire} {q₁ q₂ q₃ : QuotaWorld} (h : q₁.Forward w q₂)
    (h' : q₂.Forward w q₃) : q₁.Forward w q₃ := by
  refine ⟨h.object.trans h'.object, fun i s hs => ?_⟩
  obtain ⟨s', hs', hle⟩ := h.stores i s hs
  obtain ⟨s'', hs'', hle'⟩ := h'.stores i s' hs'
  exact ⟨s'', hs'', hle.trans hle'⟩

namespace Persistence

variable {w : Wire} {object object' : Persistence}

lemma Grows.behind (h : object.Grows w object') : object.current.Behind w object'.current := by
  rcases h with rfl | ⟨next, rfl, hnext⟩
  · exact .refl _
  · exact hnext

/-- A swap that goes through was made with the object's revision. -/
lemma compareAndSwap_cases (p : Persistence) (revision : Option Nat)
    (next : PersistedState) (io : SwapIo) :
    (∃ answer, p.compareAndSwap revision next io = (answer, p) ∧ answer ≠ .ok) ∨
      revision = some p.revision ∧ ∃ answer,
        p.compareAndSwap revision next io = (answer, p.write next) := by
  unfold compareAndSwap
  split_ifs with h
  · cases io with
    | ok | appliedConflict | appliedFailed => exact .inr ⟨h, _, rfl⟩
    | conflict | failed => exact .inl ⟨_, rfl, nofun⟩
  · cases io <;> exact .inl ⟨_, rfl, nofun⟩

end Persistence

namespace Store.Sound

variable {w : Wire} {object : Persistence} {puts : List Put} {s : Store}

/-- Another store has taken a step. -/
lemma mono (h : s.Sound w object puts) {object' : Persistence} {puts' : List Put}
    (hobject : object.Grows w object') (hputs : ∀ p ∈ puts, p ∈ puts') :
      s.Sound w object' puts' := by
  refine ⟨h.behind.trans hobject.behind, ?_, ?_, fun r hr => hputs _ (h.put r hr), h.swap⟩
  · intro r hr
    obtain ⟨hle, heq⟩ := h.revision r hr
    rcases hobject with rfl | ⟨next, rfl, -⟩
    · exact ⟨hle, heq⟩
    · have hlt : r < (object.write next).revision := Nat.lt_succ_of_le hle
      exact ⟨Nat.le_of_lt hlt, fun hr => absurd hr (Nat.ne_of_lt hlt)⟩
  · intro hreadable
    rcases hobject with rfl | ⟨next, rfl, -⟩
    · exact h.durable hreadable
    · exact List.mem_cons_of_mem _ (h.durable hreadable)

lemma giveUp (h : s.Sound w object puts) : s.giveUp.2.Sound w object puts :=
  ⟨h.behind, h.revision, nofun, nofun, nofun⟩

/-- A store whose memory is the object's content. -/
lemma of_current {readable : Bool} {running : Option Running}
    (hput : ∀ r, running = some r → r.put ∈ puts)
    (hswap : ∀ r next, running = some r → r.pending = .swap next →
      next = (w.merge object.current r.put).2) :
    (⟨object.current, some object.revision, readable, running⟩ : Store).Sound w object puts where
  behind := .refl _
  revision := by
    rintro r ⟨⟩
    exact ⟨Nat.le_refl _, fun _ => rfl⟩
  durable _ := List.mem_cons_self
  put := hput
  swap := hswap

end Store.Sound

/-- The next attempt of a `Put` ends it, or prepares to swap in the merge. -/
lemma Store.attempt_cases (w : Wire) (s : Store) (p : Put) (n : Nat) : s.attempt w p n = s.giveUp ∨
      (w.merge s.state p).1 = false ∧ s.attempt w p n = (.committed, { s with running := none }) ∨
      ∃ m, s.attempt w p n =
        (.running, { s with running := some ⟨p, m, .swap (w.merge s.state p).2⟩ }) := by
  cases n with
  | zero => exact .inl rfl
  | succ n =>
    unfold Store.attempt
    rcases w.merge s.state p with ⟨_ | _, next⟩
    · exact .inr (.inl ⟨rfl, rfl⟩)
    · by_cases hencodes : w.encodesState next = true
      · exact .inr (.inr ⟨n, by simp [hencodes]⟩)
      · exact .inl (by simp [hencodes])

/-- An attempt leaves the memory as it is, and one that ends the `Put` well finds it covered. -/
lemma Store.Sound.attempt {w : Wire} {object : Persistence} {puts : List Put} {s : Store}
    (h : s.Sound w object puts) {p : Put} (hp : p ∈ puts) (n : Nat) :
    (s.attempt w p n).2.Sound w object puts ∧ (s.attempt w p n).2.state = s.state ∧
      ((s.attempt w p n).1 = .committed → object.current.Covers w p) := by
  rcases s.attempt_cases w p n with hcase | ⟨hunchanged, hcase⟩ | ⟨m, hcase⟩ <;> rw [hcase]
  · exact ⟨h.giveUp, rfl, nofun⟩
  · refine ⟨⟨h.behind, h.revision, h.durable, nofun, nofun⟩, rfl, fun _ => ?_⟩
    exact (PersistedState.covers_of_unchanged hunchanged).mono h.behind
  · refine ⟨⟨h.behind, h.revision, h.durable, ?_, ?_⟩, rfl, nofun⟩
    · rintro r ⟨⟩
      exact hp
    · rintro r next ⟨⟩ ⟨⟩
      rfl

/-! ## Steps -/

namespace QuotaWorld

variable {w : Wire} {first : PersistedState} {q : QuotaWorld}

section

variable (h : q.Sound w first)
include h

/-- What a step of a store's `Put` has to show. -/
lemma Sound.settle {i : Nat} {s : Store} (hs : q.stores i = some s)
    {object : Persistence} {puts : List Put} (hobject : q.persistence.Grows w object)
    (hputs : ∀ p ∈ q.puts, p ∈ puts) (honly : PersistedState.Only first puts object.current)
    {p : Put} {x : Outcome × Store} (hx : x.2.Sound w object puts)
    (hle : s.state.Behind w x.2.state)
    (hcovers : x.1 = .committed → object.current.Covers w p) :
    (({ q with persistence := object, puts := puts } : QuotaWorld).settle i p x).Sound w first ∧
      q.Forward w (({ q with persistence := object, puts := puts } : QuotaWorld).settle i p x) := by
  refine ⟨⟨?_, ?_, honly, h.first.trans hobject.behind⟩, hobject.behind, ?_⟩
  · intro j t ht
    change update q.stores i (some x.2) j = some t at ht
    rw [update_apply] at ht
    split at ht
    · cases ht
      exact hx
    · exact (h.stores j t ht).mono hobject hputs
  · intro p' hp'
    change p' ∈ (if x.1 = .committed then p :: q.committed else q.committed) at hp'
    split at hp'
    · rename_i hcommitted
      rcases List.mem_cons.mp hp' with rfl | hold
      · exact hcovers hcommitted
      · exact (h.covered p' hold).mono hobject.behind
    · exact (h.covered p' hp').mono hobject.behind
  · intro j t ht
    change ∃ t', update q.stores i (some x.2) j = some t' ∧ t.state.Behind w t'.state
    rw [update_apply]
    split
    · rename_i hj
      subst hj
      rw [hs] at ht
      cases ht
      exact ⟨x.2, rfl, hle⟩
    · exact ⟨t, ht, .refl _⟩

lemma Sound.newPersistentStore (i : Nat) (ok : Bool) :
    (q.newPersistentStore i ok).Sound w first ∧ q.Forward w (q.newPersistentStore i ok) := by
  unfold QuotaWorld.newPersistentStore
  rcases hs : q.stores i with _ | s
  · have hnew : (Store.newPersistentStore q.persistence ok).Sound w q.persistence q.puts := by
      cases ok with
      | true => exact .of_current nofun nofun
      | false => exact ⟨⟨nofun, nofun⟩, nofun, nofun, nofun, nofun⟩
    refine ⟨⟨?_, h.covered, h.only, h.first⟩, .refl _, ?_⟩
    · intro j t ht
      change update q.stores i _ j = some t at ht
      rw [update_apply] at ht
      split at ht
      · cases ht
        exact hnew
      · exact h.stores j t ht
    · intro j t ht
      change ∃ t', update q.stores i _ j = some t' ∧ t.state.Behind w t'.state
      rw [update_apply, if_neg (by rintro rfl; rw [hs] at ht; cases ht)]
      exact ⟨t, ht, .refl _⟩
  · exact ⟨h, .refl q⟩

lemma Sound.put (i : Nat) (p : Put) : (q.put w i p).Sound w first ∧ q.Forward w (q.put w i p) := by
  unfold QuotaWorld.put
  rcases hs : q.stores i with _ | s
  · exact ⟨h, .refl q⟩
  · dsimp only
    split
    · exact ⟨h, .refl q⟩
    · have hputs : ∀ p' ∈ q.puts, p' ∈ p :: q.puts := fun _ => List.mem_cons_of_mem _
      have hstore := (h.stores i s hs).mono (.inl rfl) hputs
      obtain ⟨hx, hstate, hcovers⟩ := hstore.attempt List.mem_cons_self 5
      refine h.settle hs (.inl rfl) hputs (h.only.mono hputs) hx ?_ hcovers
      rw [hstate]
      exact .refl _

lemma Sound.load (i : Nat) (ok : Bool) :
    (q.load w i ok).Sound w first ∧ q.Forward w (q.load w i ok) := by
  unfold QuotaWorld.load
  rcases hs : q.stores i with _ | ⟨state, revision, readable, _ | r⟩
  · exact ⟨h, .refl q⟩
  · exact ⟨h, .refl q⟩
  · dsimp only
    rcases hpending : r.pending with next | _
    · exact ⟨h, .refl q⟩
    · have hstore := h.stores i _ hs
      cases ok with
      | false => exact h.settle hs (.inl rfl) (fun _ => id) h.only hstore.giveUp (.refl _) nofun
      | true =>
        -- what has been loaded is the object's content, so memory goes up to it
        have hloaded : Store.Sound w q.persistence q.puts
            ⟨q.persistence.current, some q.persistence.revision, true, some r⟩ :=
          .of_current hstore.put fun r' next hr' hnext => by
            cases hr'
            rw [hpending] at hnext
            cases hnext
        obtain ⟨hx, hstate, hcovers⟩ := hloaded.attempt (hstore.put r rfl) r.attempts
        exact h.settle hs (.inl rfl) (fun _ => id) h.only hx (hstate ▸ hstore.behind) hcovers

lemma Sound.compareAndSwap (i : Nat) (io : SwapIo) :
    (q.compareAndSwap i io).Sound w first ∧ q.Forward w (q.compareAndSwap i io) := by
  unfold QuotaWorld.compareAndSwap
  rcases hs : q.stores i with _ | ⟨state, revision, readable, _ | r⟩
  · exact ⟨h, .refl q⟩
  · exact ⟨h, .refl q⟩
  · dsimp only
    rcases hpending : r.pending with next | _
    · have hstore := h.stores i _ hs
      have hnext : next = (w.merge state r.put).2 := hstore.swap r next rfl hpending
      dsimp only
      rcases q.persistence.compareAndSwap_cases revision next io with
        ⟨answer, hcase, hanswer⟩ | ⟨hrevision, answer, hcase⟩ <;> rw [hcase]
      · cases answer with
        | ok => exact absurd rfl hanswer
        | conflict =>
          refine h.settle hs (.inl rfl) (fun _ => id) h.only
            ⟨hstore.behind, hstore.revision, hstore.durable, ?_, ?_⟩ (.refl _) nofun
          · rintro r' ⟨⟩
            exact hstore.put r rfl
          · rintro r' next' ⟨⟩ ⟨⟩
        | failed => exact h.settle hs (.inl rfl) (fun _ => id) h.only hstore.giveUp (.refl _) nofun
      · -- the revision is the object's, so what was merged into is the object's content
        have hcurrent : state = q.persistence.current := (hstore.revision _ hrevision).2 rfl
        have hgrows : q.persistence.Grows w (q.persistence.write next) := by
          refine .inr ⟨next, rfl, ?_⟩
          rw [hnext, ← hcurrent]
          exact PersistedState.behind_merge state r.put
        have honly : PersistedState.Only first q.puts (q.persistence.write next).current := by
          change PersistedState.Only first q.puts next
          rw [hnext, hcurrent]
          exact h.only.merge (hstore.put r rfl)
        have hstore' := hstore.mono hgrows fun _ => id
        cases answer with
        | ok =>
          refine h.settle hs hgrows (fun _ => id) honly
            (Store.Sound.of_current nofun nofun) ?_ fun _ => ?_
          · rw [hcurrent]
            exact hgrows.behind
          · change next.Covers w r.put
            rw [hnext]
            exact PersistedState.covers_merge state r.put
        | conflict =>
          refine h.settle hs hgrows (fun _ => id) honly
            ⟨hstore'.behind, hstore'.revision, hstore'.durable, ?_, ?_⟩ (.refl _) nofun
          · rintro r' ⟨⟩
            exact hstore.put r rfl
          · rintro r' next' ⟨⟩ ⟨⟩
        | failed => exact h.settle hs hgrows (fun _ => id) honly hstore'.giveUp (.refl _) nofun
    · exact ⟨h, .refl q⟩

lemma Sound.step (e : QuotaEvent) : (q.step w e).Sound w first ∧ q.Forward w (q.step w e) := by
  cases e with
  | newPersistentStore i ok => exact h.newPersistentStore i ok
  | put i grant provider obs receivedAt => exact h.put i _
  | compareAndSwap i io => exact h.compareAndSwap i io
  | load i ok => exact h.load i ok

end

variable (first)

lemma Sound.init : (QuotaWorld.init first).Sound w first :=
  ⟨nofun, nofun, ⟨fun _ _ => .inl, fun _ _ => .inl⟩, .refl _⟩

/-! ## Runs -/

lemma sound_run (events : List QuotaEvent) : (Lib.run (step w) (init first) events).Sound w first :=
  run_invariant (Sound w first) (fun _ e h => (h.step e).1) (.init first) events

lemma forward_run (events : List QuotaEvent) {m n : Nat} (hmn : m ≤ n) :
    (Lib.run (step w) (init first) (events.take m)).Forward w
      (Lib.run (step w) (init first) (events.take n)) :=
  run_progress (G := fun _ _ => True) (Sound w first) (Forward w) .refl (fun _ _ _ => .trans)
    (fun _ e h _ => h.step e) (.init first) (along_of_forall_mem (fun _ _ _ => trivial) _) hmn

variable {first}

/-- No two of the records that occur have one digest. -/
def CollisionFree (w : Wire) (first : PersistedState) (q : QuotaWorld) : Prop :=
  ∀ a b, (∃ k, Observed first q.puts k a ∨ Granted first q.puts k a) →
    (∃ k, Observed first q.puts k b ∨ Granted first q.puts k b) → w.digest a = w.digest b → a = b

/-- Once all `Put`s have committed, the object holds the newest records. -/
lemma Sound.newest (h : q.Sound w first) (hdigest : q.CollisionFree w first)
    (hcommitted : ∀ p ∈ q.puts, p ∈ q.committed) :
    q.persistence.current.observations.IsNewest w.compareRecords (Observed first q.puts) ∧
      q.persistence.current.grants.IsNewest w.compareRecords (Granted first q.puts) := by
  constructor
  · refine isNewest_of_covers h.only.observations ?_ fun k a b ha hb hab hba => ?_
    · rintro k r (hr | ⟨p, hp, rfl, rfl⟩)
      · exact h.first.1 k r hr
      · exact (h.covered p (hcommitted p hp)).1
    · exact hdigest a b ⟨k, .inl ha⟩ ⟨k, .inl hb⟩ (w.digest_eq hab hba)
  · refine isNewest_of_covers h.only.grants ?_ fun k a b ha hb hab hba => ?_
    · rintro k r (hr | ⟨p, hp, hne, rfl, rfl⟩)
      · exact h.first.2 k r hr
      · exact (h.covered p (hcommitted p hp)).2 hne
    · exact hdigest a b ⟨k, .inr ha⟩ ⟨k, .inr hb⟩ (w.digest_eq hab hba)

/-- What a reader sees has been durable. -/
lemma Sound.view (h : q.Sound w first) {i : Nat} {s : Store} {v : PersistedState}
    (hs : q.stores i = some s) (hv : s.view = some v) : v ∈ q.persistence.contents := by
  unfold Store.view at hv
  split at hv
  · rename_i hreadable
    cases hv
    exact (h.stores i s hs).durable hreadable
  · cases hv

lemma Forward.view {q' : QuotaWorld} (h : q.Forward w q') {i : Nat} {s s' : Store}
    {v v' : PersistedState} (hs : q.stores i = some s) (hs' : q'.stores i = some s')
    (hv : s.view = some v) (hv' : s'.view = some v') : v.Behind w v' := by
  have hstate : ∀ {s : Store} {v}, s.view = some v → s.state = v := by
    intro s v hv
    unfold Store.view at hv
    split at hv
    · exact Option.some.inj hv
    · cases hv
  obtain ⟨t, ht, hle⟩ := h.stores i s hs
  rw [hs'] at ht
  cases ht
  rwa [hstate hv, hstate hv'] at hle

/-- **Quota observations converge and never go back.** Stores share an object, whose content was
`first`, and take any steps. The comparison of records is a total preorder; the durable records only
go up in it; once all `Put`s have committed, the object holds for each provider and each grant the
newest of the records there have been; what a store shows has been durable, and never goes back. -/
theorem quota_converges (w : Wire) (first : PersistedState) (events : List QuotaEvent) :
    let world n := Lib.run (step w) (init first) (events.take n)
    (∀ a, NotNewer w.compareRecords a a) ∧
    (∀ a b c, NotNewer w.compareRecords a b → NotNewer w.compareRecords b c →
      NotNewer w.compareRecords a c) ∧
    (∀ a b, NotNewer w.compareRecords a b ∨ NotNewer w.compareRecords b a) ∧
    (∀ m n, m ≤ n → (world m).persistence.current.Behind w (world n).persistence.current) ∧
    (∀ n, (world n).CollisionFree w first → (∀ p ∈ (world n).puts, p ∈ (world n).committed) →
      (world n).persistence.current.observations.IsNewest w.compareRecords
          (Observed first (world n).puts) ∧
        (world n).persistence.current.grants.IsNewest w.compareRecords
          (Granted first (world n).puts)) ∧
    (∀ n i s v, (world n).stores i = some s → s.view = some v →
      v ∈ (world n).persistence.contents) ∧
    (∀ m n i s s' v v', m ≤ n → (world m).stores i = some s → (world n).stores i = some s' →
      s.view = some v → s'.view = some v' → v.Behind w v') := by
  intro world
  have hsound n : (world n).Sound w first := sound_run first _
  refine ⟨.refl, fun _ _ _ => .trans, fun a b => ?_,
    fun m n hmn => (forward_run first events hmn).object,
    fun n => (hsound n).newest, fun n i s v => (hsound n).view,
    fun m n i s s' v v' hmn => (forward_run first events hmn).view⟩
  by_cases h : NotNewer w.compareRecords a b
  · exact .inl h
  · exact .inr (.of_not h)

/-- A wire that reads two times; the digest is the time of receipt. -/
def minutesWire : Wire where
  parse s := if s = "10" then some ⟨10, 0⟩ else if s = "12" then some ⟨12, 0⟩ else none
  digest r := r.receivedAt.instant.toNat
  encodes _ := true

/-- Two stores put an observation each. The second loses its first swap; its second one is applied
and reported as a conflict, so that it finds its own record when it reloads. -/
def contendedPuts : List QuotaEvent :=
  [.newPersistentStore 0 true, .newPersistentStore 1 true,
    .put 0 "team" "codex" ⟨"", "10", "allowed", "", "", []⟩ ⟨11, 0⟩,
    .put 1 "" "codex" ⟨"", "12", "warning", "", "", []⟩ ⟨13, 0⟩,
    .compareAndSwap 0 .ok, .compareAndSwap 1 .ok, .load 1 true,
    .compareAndSwap 1 .appliedConflict, .load 1 true]

theorem quota_converges_contended :
    let world := Lib.run (step minutesWire) (init emptyState) contendedPuts
    world.puts.length = 2 ∧ world.CollisionFree minutesWire emptyState ∧
      (∀ p ∈ world.puts, p ∈ world.committed) ∧
      world.persistence.current.observations.IsNewest minutesWire.compareRecords
        (Observed emptyState world.puts) ∧
      world.persistence.current.grants.IsNewest minutesWire.compareRecords
        (Granted emptyState world.puts) := by
  have hdigest : (Lib.run (step minutesWire) (init emptyState) contendedPuts).CollisionFree
      minutesWire emptyState := by
    have hputs : ∀ p ∈ (Lib.run (step minutesWire) (init emptyState) contendedPuts).puts,
        ∀ p' ∈ (Lib.run (step minutesWire) (init emptyState) contendedPuts).puts,
        minutesWire.digest p.candidate = minutesWire.digest p'.candidate →
          p.candidate = p'.candidate := by decide +kernel
    rintro a b ⟨_, (⟨⟨⟩⟩ | ⟨p, hp, -, rfl⟩) | (⟨⟨⟩⟩ | ⟨p, hp, -, -, rfl⟩)⟩
      ⟨_, (⟨⟨⟩⟩ | ⟨p', hp', -, rfl⟩) | (⟨⟨⟩⟩ | ⟨p', hp', -, -, rfl⟩)⟩ heq
    all_goals exact hputs p hp p' hp' heq
  have hcommitted : ∀ p ∈ (Lib.run (step minutesWire) (init emptyState) contendedPuts).puts,
      p ∈ (Lib.run (step minutesWire) (init emptyState)
        contendedPuts).committed := by decide +kernel
  exact ⟨by decide +kernel, hdigest, hcommitted,
    (quota_converges minutesWire emptyState contendedPuts).2.2.2.2.1 9 hdigest hcommitted⟩

/-- **No committed observation is lost.** Whatever stores do once a `Put` has committed, the object
has for its provider, and for its grant if it names one, a record that is not older. -/
theorem committed_put_kept (w : Wire) (first : PersistedState)
    (events : List QuotaEvent) (m n : Nat)
    (hmn : m ≤ n) (p : Put) (hp : p ∈ (Lib.run (step w) (init first) (events.take m)).committed) :
    (Lib.run (step w) (init first) (events.take n)).persistence.current.Covers w p := by
  have hcovered := (sound_run first (events.take m)).covered p hp
  exact hcovered.mono (forward_run first events hmn).object

theorem committed_put_kept_contended : (Lib.run (step minutesWire) (init emptyState)
      contendedPuts).persistence.current.Covers minutesWire
        ⟨"team", "codex", ⟨"codex", "10", "allowed", "", "", []⟩, ⟨11, 0⟩⟩ :=
  committed_put_kept minutesWire emptyState contendedPuts 5 9 (by decide) _ (by decide +kernel)

end QuotaWorld

end Homelab.Tokenbroker
