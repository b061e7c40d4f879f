import Homelab.Tokenbroker.Broker.Roles

/-!
# Refreshes are single-flight

A grant has at most one refresh, the call that has set `refreshing`, and only that one calls the
provider. The invariant relates the flags and the traffic to the phases of all calls, and every
operation keeps it.
-/

namespace Homelab.Tokenbroker

open Homelab.Lib Function

/-! ## What operations leave as it was -/

namespace BrokerState

variable (s : BrokerState) (token name : String)

lemma setGrant_grants (n : String) (f : GrantState → GrantState) :
    (s.setGrant name f).grants n = if n = name then f (s.grants name) else s.grants n := by
  exact update_apply ..

/-- A grant's state is changed in other respects. -/
lemma setGrant_refreshing (f : GrantState → GrantState)
    (hf : ∀ st, (f st).refreshing = st.refreshing) (n : String) :
    ((s.setGrant name f).grants n).refreshing = (s.grants n).refreshing := by
  rw [setGrant_grants]
  split
  · rename_i hn
    rw [hf, hn]
  · rfl

@[simp] lemma own_grants : (s.own token name).grants = s.grants := by
  unfold own
  split <;> rfl

@[simp] lemma own_traffic : (s.own token name).traffic = s.traffic := by
  unfold own
  split <;> rfl

@[simp] lemma own_secrets : (s.own token name).secrets = s.secrets := by
  unfold own
  split <;> rfl

@[simp] lemma own_retries : (s.own token name).retries = s.retries := by
  unfold own
  split <;> rfl

@[simp] lemma own_clock : (s.own token name).clock = s.clock := by
  unfold own
  split <;> rfl

lemma receive_cases (name : String) (token : Option String) (answer : ProviderAnswer) :
    (∃ r, answer = .granted r ∧ s.receive name token answer =
        ({ s with traffic := .answered name token answer :: s.traffic } : BrokerState).own
          r.refreshToken name) ∨
      ∃ e, answer = .refused e ∧
        s.receive name token answer =
          { s with traffic := .answered name token answer :: s.traffic } := by
  cases answer with
  | granted r => exact .inl ⟨r, rfl, rfl⟩
  | refused e => exact .inr ⟨e, rfl, rfl⟩

lemma takeStash_cases (name : String) (loaded : Grant) :
    (∃ stash, (s.grants name).authoritative = some stash ∧ loaded.lastRefresh < stash.lastRefresh ∧
        s.takeStash name loaded = (stash, s)) ∨
      (∀ stash, (s.grants name).authoritative = some stash →
        stash.lastRefresh ≤ loaded.lastRefresh) ∧
        (s.takeStash name loaded).1 = loaded ∧
          (s.takeStash name loaded).2 =
            s.setGrant name fun st => { st with authoritative := none } := by
  unfold takeStash
  rcases hstash : (s.grants name).authoritative with _ | stash
  · refine .inr ⟨nofun, rfl, ?_⟩
    have hsame : ({ s.grants name with authoritative := none } : GrantState) = s.grants name := by
      rw [← hstash]
    rw [setGrant, hsame, update_eq_self]
  · by_cases hahead : loaded.lastRefresh < stash.lastRefresh
    · exact .inl ⟨stash, rfl, hahead, if_pos hahead⟩
    · refine .inr ⟨?_, ?_⟩
      · rintro _ ⟨⟩
        exact Nat.le_of_not_lt hahead
      · dsimp only
        rw [if_neg hahead]
        exact ⟨rfl, rfl⟩

/-- A round of the retries has saved a grant, or has done nothing. -/
lemma retry_cases (k : Nat) (io : SaveIo) :
    s.retry k io = s ∨ ∃ g ∈ s.retries, ∃ retries, (∀ r ∈ retries, r ∈ s.retries) ∧
      s.retry k io = { (s.save g io).2 with retries := retries } := by
  unfold retry
  rcases hk : s.retries[k]? with _ | g
  · exact .inl rfl
  · refine .inr ⟨g, List.mem_of_getElem? hk, ?_⟩
    dsimp only
    split
    · exact ⟨s.retries, fun _ => id, rfl⟩
    · exact ⟨s.retries.eraseIdx k, fun r => List.mem_of_mem_eraseIdx, rfl⟩

end BrokerState

/-! ## Single flight -/

/-- A grant has one refresh at most, and only that one calls the provider. -/
structure Single (s : BrokerState) (p : Nat → RefreshPhase) : Prop where
  unique : ∀ i j name, (p i).grant? = some name → (p j).grant? = some name → i = j
  held : ∀ i name, (p i).grant? = some name → (s.grants name).refreshing = true
  calling : ∀ i name, (p i).calling? = some name → inFlight name s.traffic = 1
  quiet : ∀ name, (∀ i, (p i).calling? ≠ some name) → inFlight name s.traffic = 0

namespace Single

variable {s s' : BrokerState} {p : Nat → RefreshPhase} {i : Nat} {ph : RefreshPhase} {name : String}
  (h : Single s p)
include h

/-- An operation that neither begins nor ends anything. -/
lemma neutral
    (hsame : (∀ n, (s'.grants n).refreshing = (s.grants n).refreshing) ∧ s'.traffic = s.traffic)
    (hgrant : ph.grant? = (p i).grant?) (hcalling : ph.calling? = (p i).calling?) :
    Single s' (update p i ph) := by
  obtain ⟨hunique, hheld, hcall, hquiet⟩ := h
  obtain ⟨hrefreshing, htraffic⟩ := hsame
  constructor <;> simp only [update_apply, htraffic, hrefreshing] <;> grind

/-- A refresh begins. -/
lemma beginRefresh (hfree : p i = .free) (hidle : (s.grants name).refreshing = false)
    (hset : (s'.grants name).refreshing = true)
    (hrefreshing : ∀ n, n ≠ name → (s'.grants n).refreshing = (s.grants n).refreshing)
    (htraffic : s'.traffic = s.traffic) (hgrant : ph.grant? = some name)
    (hcalling : ph.calling? = none) : Single s' (update p i ph) := by
  obtain ⟨hunique, hheld, hcall, hquiet⟩ := h
  have hnone : (p i).calling? = none := by rw [hfree]; rfl
  constructor <;> simp only [update_apply, htraffic] <;> grind

/-- A refresh ends. -/
lemma endRefresh (hi : (p i).grant? = some name) (hcalling : (p i).calling? = none)
    (hrefreshing : ∀ n, n ≠ name → (s'.grants n).refreshing = (s.grants n).refreshing)
    (htraffic : s'.traffic = s.traffic) : Single s' (update p i .free) := by
  obtain ⟨hunique, hheld, hcall, hquiet⟩ := h
  have hfree : RefreshPhase.free.grant? = none := rfl
  have hfree' : RefreshPhase.free.calling? = none := rfl
  constructor <;> simp only [update_apply, htraffic] <;> grind

/-- The provider is called. -/
lemma send (hi : (p i).grant? = some name) (hcalling : (p i).calling? = none)
    (hrefreshing : ∀ n, (s'.grants n).refreshing = (s.grants n).refreshing) {token : Option String}
    (htraffic : s'.traffic = .sent name token :: s.traffic) (hgrant : ph.grant? = some name)
    (hcalling' : ph.calling? = some name) : Single s' (update p i ph) := by
  obtain ⟨hunique, hheld, hcall, hquiet⟩ := h
  have hgrants := @RefreshPhase.grant_of_calling
  have hflight : ∀ n, inFlight n s'.traffic = inFlight n s.traffic + if name = n then 1 else 0 := by
    intro n
    rw [htraffic]
    rfl
  constructor <;> simp only [update_apply, hrefreshing, hflight] <;> grind

/-- The provider answers. -/
lemma receive (hi : (p i).calling? = some name)
    (hrefreshing : ∀ n, (s'.grants n).refreshing = (s.grants n).refreshing) {token : Option String}
    {answer : ProviderAnswer} (htraffic : s'.traffic = .answered name token answer :: s.traffic)
    (hgrant : ph.grant? = some name) (hcalling' : ph.calling? = none) :
    Single s' (update p i ph) := by
  obtain ⟨hunique, hheld, hcall, hquiet⟩ := h
  have hgrants := @RefreshPhase.grant_of_calling
  have hflight : ∀ n, inFlight n s'.traffic = inFlight n s.traffic - if name = n then 1 else 0 := by
    intro n
    rw [htraffic]
    rfl
  constructor <;> simp only [update_apply, hrefreshing, hflight] <;> grind

lemma inFlight_le (name : String) : inFlight name s.traffic ≤ 1 := by
  by_cases hcalling : ∃ i, (p i).calling? = some name
  · obtain ⟨i, hi⟩ := hcalling
    exact Nat.le_of_eq (h.calling i name hi)
  · rw [h.quiet name fun i hi => hcalling ⟨i, hi⟩]
    exact Nat.zero_le 1

lemma step {o : BrokerOp} (hmay : (p i).may o) (io : BrokerIo) :
    Single (s.exec o io).2 (update p i ((p i).next o (s.exec o io).1)) := by
  cases o with
  | loadGrant name =>
    refine h.neutral ⟨fun _ => rfl, rfl⟩ ?_ ?_ <;> rcases p i with _ | _ <;>
      rcases (s.exec (.loadGrant name) io).1 with _ | _ <;> rfl
  | beginRefresh name =>
    change Single (s.beginRefresh name).2
      (update p i (if (s.beginRefresh name).1 = true then .begun name else p i))
    unfold BrokerState.beginRefresh
    by_cases hbusy : (s.grants name).refreshing = true
    · rw [if_pos hbusy]
      exact h.neutral ⟨fun _ => rfl, rfl⟩ rfl rfl
    · rw [if_neg hbusy]
      refine h.beginRefresh hmay (by simpa using hbusy) ?_ (fun n hn => ?_) rfl rfl rfl
      · rw [BrokerState.setGrant_grants, if_pos rfl]
      · rw [BrokerState.setGrant_grants, if_neg hn]
  | takeStash name d =>
    have hphase : p i = .loaded name d := hmay
    refine h.neutral ?_ (by rw [hphase]; rfl) (by rw [hphase]; rfl)
    change (∀ n, ((s.takeStash name d).2.grants n).refreshing = _) ∧
      (s.takeStash name d).2.traffic = _
    rcases s.takeStash_cases name d with ⟨stash, -, -, hcase⟩ | ⟨-, -, hcase⟩ <;> rw [hcase]
    · exact ⟨fun _ => rfl, rfl⟩
    · exact ⟨s.setGrant_refreshing name (fun st => { st with authoritative := none })
        fun _ => rfl, rfl⟩
  | send name token =>
    obtain ⟨chosen, ⟨hphase, -⟩ | ⟨hphase, -⟩⟩ := hmay <;> rw [hphase] <;>
      exact h.send (by rw [hphase]; rfl) (by rw [hphase]; rfl) (fun _ => rfl) rfl rfl rfl
  | receive name token =>
    obtain ⟨chosen, hphase⟩ := hmay
    have hcalling : (p i).calling? = some name := by rw [hphase]; rfl
    obtain ⟨htraffic, hgrants⟩ : (s.receive name token io.answer).traffic =
        .answered name token io.answer :: s.traffic ∧
          (s.receive name token io.answer).grants = s.grants := by
      rcases s.receive_cases name token io.answer with ⟨r, -, hcase⟩ | ⟨e, -, hcase⟩ <;> rw [hcase]
      · exact ⟨BrokerState.own_traffic .., BrokerState.own_grants ..⟩
      · exact ⟨rfl, rfl⟩
    obtain ⟨hgrant, hover⟩ := RefreshPhase.receive_sent name chosen token io.answer
    rw [hphase]
    exact h.receive hcalling (fun n => by rw [← hgrants]; rfl) htraffic hgrant hover
  | setNeedsLogin name value =>
    exact h.neutral
      ⟨s.setGrant_refreshing name (fun st => { st with needsLogin := value }) fun _ => rfl,
      rfl⟩ rfl rfl
  | now =>
    refine h.neutral ⟨fun _ => rfl, rfl⟩ ?_ ?_ <;> rcases p i with _ | _ <;> rfl
  | saveGrantIfNewer g =>
    have hphase : p i = _ := hmay
    refine h.neutral ⟨fun _ => rfl, rfl⟩ ?_ ?_ <;> rw [hphase] <;>
      rcases (s.exec (.saveGrantIfNewer g) io).1 with _ | _ | _ <;> rfl
  | stash name g =>
    obtain ⟨hphase, -⟩ : p i = _ ∧ _ := hmay
    exact h.neutral
      ⟨s.setGrant_refreshing name (fun st => { st with authoritative := some g }) fun _ => rfl,
      rfl⟩ (by rw [hphase]; rfl) (by rw [hphase]; rfl)
  | endRefresh name result =>
    obtain ⟨hgrant, hcalling, -⟩ := hmay
    refine h.endRefresh hgrant hcalling (fun n hn => ?_) rfl
    change ((s.endRefresh name result).grants n).refreshing = _
    unfold BrokerState.endRefresh
    rw [BrokerState.setGrant_grants, if_neg hn]
  | saveGrant g =>
    refine h.neutral ?_ rfl rfl
    unfold BrokerState.exec BrokerState.saveGrant
    dsimp only
    split
    · exact ⟨fun _ => rfl, rfl⟩
    · rw [BrokerState.own_grants, BrokerState.own_traffic]
      exact ⟨fun _ => rfl, rfl⟩
  | retry k =>
    refine h.neutral ?_ rfl rfl
    change (∀ n, ((s.retry k io.save).grants n).refreshing = _) ∧ (s.retry k io.save).traffic = _
    rcases s.retry_cases k io.save with hcase | ⟨g, -, retries, -, hcase⟩ <;> rw [hcase] <;>
      exact ⟨fun _ => rfl, rfl⟩
  | awaitRefresh name | lastToken name => exact h.neutral ⟨fun _ => rfl, rfl⟩ rfl rfl

end Single

end Homelab.Tokenbroker
