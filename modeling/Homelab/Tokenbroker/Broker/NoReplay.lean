import Homelab.Lib.WriteBehind
import Homelab.Tokenbroker.Broker.SingleFlight

/-!
# Spent refresh tokens are not replayed

A grant's refresh token is in its Secret or, while a save of the rotated one is still being tried,
in the stash (`places`). A refresh picks the newest of the two, and as long as that token has not
been replaced at the provider the next call is made with a good one. The phases of a refresh suspend
this only between the provider's answer and the end of the save.

One path does not look at the stash: when the provider answers that the token was reused, the grant
is loaded again and its token is used. If the store is behind the stash then, that token has been
replaced (`NotBehind` is what excludes this).
-/

namespace Homelab.Tokenbroker

open Homelab.Lib Function List Option Prod RefreshPhase

/-! ## Where a grant's token is -/

/-- A refresh token and the time it is from. -/
abbrev Credential := String × Nat

def Grant.credential (g : Grant) : Credential := (g.tokenBundle.refreshToken, g.lastRefresh)

def Secret.credential (s : Secret) : Credential := (s.refreshToken, s.lastRefresh.getD 0)

namespace BrokerState

variable (s : BrokerState)

/-- The credential in the store, the stash, and the saves in the background. -/
def places (name : String) : Places Credential where
  stored := ((s.secrets.lookup name).map Secret.credential).getD ("", 0)
  stash := (s.grants name).authoritative.map Grant.credential
  late := { c | ∃ g ∈ s.retries, g.name = name ∧ g.credential = c }

/-- The token has not been replaced, and is the grant's; or there is none. -/
def Good (name token : String) : Prop :=
  token = "" ∨ (∀ e ∈ s.traffic, e.replaces token = false) ∧ (token, name) ∈ s.owners

/-- The newest credential of a grant that has no rotated token on its way. -/
structure Settled (name : String) (cur : Credential) : Prop where
  holds : (s.places name).Holds snd cur
  good : s.Good name cur.1

/-- What is known of a grant whose refresh is in the given phase. -/
def GrantOk (name : String) : RefreshPhase → Prop
  | .free | .begun _ | .done _ => ∃ cur, s.Settled name cur
  | .loaded _ d => ∃ cur, s.Settled name cur ∧
      Places.Holds snd { s.places name with stored := d.credential } cur ∧
        d.lastRefresh ≤ (s.places name).stored.2
  | .chosen _ token => ∃ cur, s.Settled name cur ∧ cur.1 = token
  | .sent _ old token => ∃ cur, s.Settled name cur ∧ cur.1 = old ∧ ∀ t, token = some t →
    t = old ∧ t ≠ ""
  | .reused _ token => ∃ cur, s.Settled name cur ∧ cur.1 = token ∧ token ≠ "" ∧
    (s.places name).stored = cur
  | .again _ token => ∃ cur, s.Settled name cur ∧ cur.1 = token ∧ token ≠ ""
  | .rotated _ token => s.Good name token
  | .stamped _ token now =>
    s.Good name token ∧ (s.places name).Pending snd (token, now) ∧ 0 < now ∧ now ≤ s.clock

variable {s} {name : String} {s' : BrokerState}

lemma places_congr (hsecret : s'.secrets.lookup name = s.secrets.lookup name)
    (hstash : (s'.grants name).authoritative = (s.grants name).authoritative)
    (hretries : s'.retries = s.retries) : s'.places name = s.places name := by
  unfold places
  rw [hsecret, hstash, hretries]

lemma own_places (token owner : String) : (s.own token owner).places name = s.places name :=
  places_congr (by simp) (by simp) (by simp)

lemma setGrant_places (s : BrokerState) (name : String) (f : GrantState → GrantState)
    (hf : ∀ st, (f st).authoritative = st.authoritative) (n : String) :
    (s.setGrant name f).places n = s.places n := by
  refine places_congr rfl ?_ rfl
  rw [setGrant_grants]
  split
  · rename_i hn
    rw [hf, hn]
  · rfl

lemma stored_of_lookup {secret : Secret} (h : s.secrets.lookup name = some secret) :
    (s.places name).stored = secret.credential := by
  unfold places
  rw [h]
  rfl

/-- What has been loaded is what is stored. -/
lemma stored_of_loadGrant {ok : Bool} {d : Grant} (h : s.secrets.loadGrant name ok = some d) :
    (s.places name).stored = d.credential := by
  unfold SecretStore.loadGrant at h
  split at h
  · rename_i hlookup
    split at h
    · cases h
      rw [stored_of_lookup hlookup]
      rfl
    · cases h
  · cases h

/-- A save changes nothing, or puts the grant's credential into the store. -/
lemma save_cases (s : BrokerState) (g : Grant) (io : SaveIo) :
    (s.save g io).2 = s ∧ (s.save g io).1 ≠ .ok ∧
        ((s.save g io).1 = .notNewer → ¬ (s.places g.name).Takes snd g.credential) ∨
      (s.places g.name).Takes snd g.credential ∧ (s.save g io).1 ≠ .notNewer ∧
        (s.save g io).2.places g.name = { s.places g.name with stored := g.credential } ∧
          ∀ n, n ≠ g.name → (s.save g io).2.places n = s.places n := by
  unfold save SecretStore.saveGrantIfNewer
  rcases hlast : (s.secrets.lookup g.name).bind (·.lastRefresh) with _ | last
  · cases io <;> exact .inl ⟨rfl, nofun, nofun⟩
  obtain ⟨secret, hlookup, hsecret⟩ := bind_eq_some_iff.mp hlast
  have hstored : (s.places g.name).stored.2 = last := by
    rw [stored_of_lookup hlookup, Secret.credential, hsecret]
    rfl
  cases io with
  | failed => exact .inl ⟨rfl, nofun, nofun⟩
  | ok | appliedFailed =>
    dsimp only
    by_cases hnot : last ≠ 0 ∧ ¬ last < g.lastRefresh
    · rw [if_pos hnot]
      refine .inl ⟨rfl, nofun, fun _ htakes => ?_⟩
      unfold Places.Takes at htakes
      rw [hstored] at htakes
      exact htakes.elim hnot.1 hnot.2
    · rw [if_neg hnot]
      refine .inr ⟨?_, nofun, ?_, fun n hn => ?_⟩
      · unfold Places.Takes
        rw [hstored]
        rcases Decidable.not_and_iff_not_or_not.mp hnot with hzero | hlt
        · exact .inl (not_not.mp hzero)
        · exact .inr (not_not.mp hlt)
      · unfold places
        simp [Secret.data, Secret.credential, Grant.credential]
      · exact places_congr (AList.lookup_insert_ne hn) rfl rfl

/-- A round of the retries is an arrival. -/
lemma retry_arrives (s : BrokerState) (k : Nat) (io : SaveIo)
    (hlate : ∀ g ∈ s.retries, 0 < g.lastRefresh) (n : String) :
    Places.Arrives snd (s.places n) ((s.retry k io).places n) := by
  rcases s.retry_cases k io with hcase | ⟨g, hg, retries, hsub, hcase⟩ <;> rw [hcase]
  · exact .refl _
  have hlate' : (({ (s.save g io).2 with retries := retries } : BrokerState).places n).late ⊆
      (s.places n).late := by
    rintro c ⟨r, hr, hname, hc⟩
    exact ⟨r, hsub r hr, hname, hc⟩
  refine ⟨rfl, hlate', ?_⟩
  change ((s.save g io).2.places n).stored = _ ∨ _
  rcases s.save_cases g io with ⟨hsame, -⟩ | ⟨htakes, -, hname, hothers⟩
  · rw [hsame]
    exact .inl rfl
  · by_cases hn : n = g.name
    · refine .inr ?_
      change ((s.save g io).2.places n).stored ∈ _ ∧
        (s.places n).Takes _ ((s.save g io).2.places n).stored ∧
        0 < ((s.save g io).2.places n).stored.2
      rw [hn, hname]
      exact ⟨⟨g, hg, rfl, rfl⟩, htakes, hlate g hg⟩
    · rw [hothers n hn]
      exact .inl rfl

variable {p : RefreshPhase}

/-- Elsewhere something happens: late writes arrive, other tokens are replaced, time passes. -/
lemma GrantOk.mono (h : s.GrantOk name p)
    (hplaces : Places.Arrives snd (s.places name) (s'.places name))
    (hgood : ∀ token, s.Good name token → s'.Good name token) (hclock : s.clock ≤ s'.clock) :
    s'.GrantOk name p := by
  have hsettled {cur} (h : s.Settled name cur) : s'.Settled name cur :=
    ⟨h.holds.arrives hplaces, hgood _ h.good⟩
  cases p with
  | free | begun _ | done _ =>
    obtain ⟨cur, hcur⟩ := h
    exact ⟨cur, hsettled hcur⟩
  | loaded _ d =>
    obtain ⟨cur, hcur, hloaded, hle⟩ := h
    refine ⟨cur, hsettled hcur, ?_, Nat.le_trans hle hplaces.stored_le⟩
    exact hloaded.arrives ⟨hplaces.stash, hplaces.late, .inl rfl⟩
  | chosen _ token | sent _ _ token | again _ token =>
    obtain ⟨cur, hcur, hrest⟩ := h
    exact ⟨cur, hsettled hcur, hrest⟩
  | reused _ token =>
    obtain ⟨cur, hcur, htoken, hne, hstored⟩ := h
    exact ⟨cur, hsettled hcur, htoken, hne, hcur.holds.stored_arrives hstored hplaces⟩
  | rotated _ token => exact hgood _ h
  | stamped _ token now =>
    exact ⟨hgood _ h.1, h.2.1.arrives hplaces, h.2.2.1, Nat.le_trans h.2.2.2 hclock⟩

/-- Outside the save of a rotated token the grant is settled. -/
lemma GrantOk.settled (h : s.GrantOk name p) (hrotated : ∀ n token, p ≠ .rotated n token)
    (hstamped : ∀ n token now, p ≠ .stamped n token now) : ∃ cur, s.Settled name cur := by
  cases p with
  | free | begun _ | done _ => exact h
  | loaded _ _ | chosen _ _ | sent _ _ _ | reused _ _ | again _ _ =>
    obtain ⟨cur, hcur, -⟩ := h
    exact ⟨cur, hcur⟩
  | rotated n token => exact absurd rfl (hrotated n token)
  | stamped n token now => exact absurd rfl (hstamped n token now)

variable {token owner : String}

/-- A token stays good while nothing that is answered replaces it. -/
lemma Good.mono (h : s.Good name token) (howners : s.owners ⊆ s'.owners)
    (htraffic : ∀ e ∈ s'.traffic, e.replaces token = false ∨ e ∈ s.traffic) :
      s'.Good name token := by
  rcases h with hempty | ⟨hunspent, howned⟩
  · exact .inl hempty
  · exact .inr ⟨fun e he => (htraffic e he).elim id (hunspent e), howners howned⟩

lemma Good.own (h : s.Good name token) (issued : String) :
    (s.own issued owner).Good name token := by
  refine h.mono ?_ fun e he => .inr (own_traffic s issued owner ▸ he)
  unfold BrokerState.own
  split
  · exact Subset.refl _
  · exact subset_cons_self _ _

/-! ## Conditions on a run -/

/-- The token has not been replaced and has not been given to another grant. -/
def Unspent (s : BrokerState) (name token : String) : Prop :=
  (∀ e ∈ s.traffic, e.replaces token = false) ∧ ∀ a ∈ s.owners, a.1 = token → a.2 = name

lemma good_own {s : BrokerState} (h : token = "" ∨ s.Unspent name token) :
    (s.own token name).Good name token := by
  unfold own
  split
  · rename_i hempty
    exact .inl hempty
  · rename_i hne
    exact .inr ⟨(h.resolve_left hne).1, mem_cons_self⟩

/-- A token that no other grant has been given is given to one. -/
lemma owners_own {s : BrokerState} (h : token = "" ∨ s.Unspent name token)
    (howners : ∀ a ∈ s.owners, ∀ b ∈ s.owners, a.1 = b.1 → a.1 = "" ∨ a.2 = b.2) :
    ∀ a ∈ (s.own token name).owners, ∀ b ∈ (s.own token name).owners,
      a.1 = b.1 → a.1 = "" ∨ a.2 = b.2 := by
  unfold own
  split
  · exact howners
  rename_i hne
  have howned := (h.resolve_left hne).2
  rintro a ha b hb hab
  rcases mem_cons.mp ha with rfl | ha <;> rcases mem_cons.mp hb with rfl | hb
  · exact .inr rfl
  · exact .inr (howned b hb hab.symm).symm
  · exact .inr (howned a ha hab)
  · exact howners a ha b hb hab

/-- What the provider issues for the grant is unspent. -/
def HonestAnswer (s : BrokerState) (name : String) : ProviderAnswer → Prop
  | .granted r => r.refreshToken = "" ∨ s.Unspent name r.refreshToken
  | .refused _ => True

/-- The tokens that the provider issues and that are saved from outside are unspent, and what is
saved from outside is not from the future. -/
def Honest (s : BrokerState) : BrokerOp → BrokerIo → Prop
  | .receive name _, io => s.HonestAnswer name io.answer
  | .saveGrant g, io =>
    (g.tokenBundle.refreshToken = "" ∨ s.Unspent g.name g.tokenBundle.refreshToken) ∧
      g.lastRefresh ≤ s.clock + io.tick
  | _, _ => True

/-- When the provider answers that a token was reused, the store is not behind the stash. -/
def NotBehind (s : BrokerState) : BrokerOp → BrokerIo → Prop
  | .receive name (some _), io => io.answer = .refused .refreshTokenReused →
      ∀ g ∈ (s.grants name).authoritative, g.lastRefresh ≤ (s.places name).stored.2
  | _, _ => True

instance (s : BrokerState) (name token : String) : Decidable (s.Unspent name token) :=
  inferInstanceAs (Decidable (_ ∧ _))

instance (s : BrokerState) (name : String) : (answer : ProviderAnswer) →
    Decidable (s.HonestAnswer name answer)
  | .granted _ => inferInstanceAs (Decidable (_ ∨ _))
  | .refused _ => isTrue trivial

instance (s : BrokerState) : (o : BrokerOp) → (io : BrokerIo) → Decidable (s.Honest o io)
  | .receive name _, io => inferInstanceAs (Decidable (s.HonestAnswer name io.answer))
  | .saveGrant _, _ => inferInstanceAs (Decidable (_ ∧ _))
  | .loadGrant _, _ | .beginRefresh _, _ | .awaitRefresh _, _ | .takeStash _ _, _ | .send _ _, _
  | .setNeedsLogin _ _, _ | .now, _ | .saveGrantIfNewer _, _ | .stash _ _, _ | .endRefresh _ _, _
  | .lastToken _, _ | .retry _, _ => isTrue trivial

instance (s : BrokerState) : (o : BrokerOp) → (io : BrokerIo) → Decidable (s.NotBehind o io)
  | .receive _ (some _), _ => inferInstanceAs (Decidable (_ → _))
  | .receive _ none, _ | .saveGrant _, _
  | .loadGrant _, _ | .beginRefresh _, _ | .awaitRefresh _, _ | .takeStash _ _, _ | .send _ _, _
  | .setNeedsLogin _ _, _ | .now, _ | .saveGrantIfNewer _, _ | .stash _ _, _ | .endRefresh _ _, _
  | .lastToken _, _ | .retry _, _ => isTrue trivial

end BrokerState

/-! ## The invariant -/

/-- The broker and the phases of its calls. -/
structure BrokerSound (s : BrokerState) (p : Nat → RefreshPhase) : Prop where
  single : Single s p
  noReplay : NoReplay s.traffic
  within : ∀ name, (s.places name).Within snd s.clock
  owners : ∀ a ∈ s.owners, ∀ b ∈ s.owners, a.1 = b.1 → a.1 = "" ∨ a.2 = b.2
  idle : ∀ name, (∀ i, (p i).grant? ≠ some name) → s.GrantOk name .free
  busy : ∀ i name, (p i).grant? = some name → s.GrantOk name (p i)

/-- What a step has to do to be sound, once it is known to keep the calls apart. -/
def Sustains (s' : BrokerState) (p' : Nat → RefreshPhase) : Prop := Single s' p' → BrokerSound s' p'

/-- What a step on one grant does to the broker, but for that grant's refresh. -/
structure Moves (s s' : BrokerState) (name : String) : Prop where
  noReplay : NoReplay s'.traffic
  clock : s.clock ≤ s'.clock
  owners : ∀ a ∈ s'.owners, ∀ b ∈ s'.owners, a.1 = b.1 → a.1 = "" ∨ a.2 = b.2
  within : (s'.places name).Within snd s'.clock
  others : ∀ n, n ≠ name → Places.Arrives snd (s.places n) (s'.places n) ∧
    ∀ token, s.Good n token → s'.Good n token

namespace BrokerSound

open BrokerState

variable {s s' : BrokerState} {p : Nat → RefreshPhase} {i : Nat} {ph : RefreshPhase} {name : String}
  (h : BrokerSound s p)
include h

/-- What is known of the grant that a call refreshes. -/
lemma at_phase (hphase : p i = ph) (hph : ph.grant? = some name) :
    (p i).grant? = some name ∧ s.GrantOk name ph := by
  subst hphase
  exact ⟨hph, h.busy i name hph⟩

/-- A step on one grant, after which the calls on the others are where they were: what is to be
shown of that grant. -/
lemma touch {p' : Nat → RefreshPhase} (name : String) (hmoves : Moves s s' name)
    (hsame : ∀ j n, n ≠ name → (p j).grant? = some n ∨ (p' j).grant? = some n → p' j = p j)
    (hidle : (∀ j, (p' j).grant? ≠ some name) → s'.GrantOk name .free)
    (hbusy : ∀ j, Single s' p' → (p' j).grant? = some name → s'.GrantOk name (p' j)) :
    Sustains s' p' := fun hsingle =>
  { single := hsingle
    noReplay := hmoves.noReplay
    within n := by
      by_cases hn : n = name
      · rw [hn]
        exact hmoves.within
      · exact ((h.within n).arrives (hmoves.others n hn).1).mono hmoves.clock
    owners := hmoves.owners
    idle n hnone := by
      by_cases hn : n = name
      · rw [hn] at hnone ⊢
        exact hidle hnone
      · refine (h.idle n fun j hj => ?_).mono (hmoves.others n hn).1
          (hmoves.others n hn).2 hmoves.clock
        exact hnone j (by rwa [hsame j n hn (.inl hj)])
    busy j n hj := by
      by_cases hn : n = name
      · rw [hn] at hj ⊢
        exact hbusy j hsingle hj
      · have heq := hsame j n hn (.inr hj)
        rw [heq] at hj ⊢
        exact (h.busy j n hj).mono (hmoves.others n hn).1 (hmoves.others n hn).2 hmoves.clock }

omit h in
/-- A call that goes from one phase on the grant, or outside all, to another is no other grant's. -/
lemma update_same (hold : ∀ n, (p i).grant? = some n → n = name)
    (hnew : ∀ n, ph.grant? = some n → n = name) (j : Nat) (n : String) (hn : n ≠ name)
    (hj : (p j).grant? = some n ∨ (update p i ph j).grant? = some n) : update p i ph j = p j := by
  by_cases hji : j = i
  · subst hji
    rw [update_self] at hj
    exact (hj.elim (fun hj => hn (hold n hj)) fun hj => hn (hnew n hj)).elim
  · exact update_of_ne hji _ _

/-- A step of the call that refreshes the grant. -/
lemma holder (hi : (p i).grant? = some name) (hph : ph.grant? = some name)
    (hmoves : Moves s s' name) (hok : s'.GrantOk name ph) : Sustains s' (update p i ph) := by
  refine h.touch name hmoves (update_same (fun n hn => ?_) fun n hn => ?_) (fun hnone => ?_)
    fun j hsingle hj => ?_
  · rw [hi] at hn
    exact (some.inj hn).symm
  · rw [hph] at hn
    exact (some.inj hn).symm
  · exact absurd hph (by simpa using hnone i)
  · have hji : j = i := hsingle.unique j i name hj (by rw [update_self]; exact hph)
    rw [hji, update_self]
    exact hok

/-- A step on a grant that is not being refreshed. -/
lemma outside (hnone : ∀ j, (p j).grant? ≠ some name) (hmoves : Moves s s' name)
    (hok : s'.GrantOk name .free) : Sustains s' p :=
  h.touch name hmoves (fun _ _ _ _ => rfl) (fun _ => hok) fun j _ hj => absurd hj (hnone j)

/-- A step that changes at most where the grant's token is. -/
lemma moves (htraffic : s'.traffic = s.traffic) (hclock : s'.clock = s.clock)
    (howners : s'.owners = s.owners) (hothers : ∀ n, n ≠ name → s'.places n = s.places n)
    (hwithin : (s'.places name).Within snd s.clock) : Moves s s' name := by
  refine ⟨htraffic ▸ h.noReplay, Nat.le_of_eq hclock.symm, howners ▸ h.owners,
    hclock ▸ hwithin, fun n hn => ?_⟩
  unfold Good
  rw [hothers n hn, htraffic, howners]
  exact ⟨.refl _, fun _ => id⟩

omit h in
/-- The grant is then given a token that is new. -/
lemma moves_own {token : String} (hmoves : Moves s s' name)
    (htoken : token = "" ∨ s'.Unspent name token) :
    Moves s (s'.own token name) name := by
  obtain ⟨hreplay, hclock, howners, hwithin, hothers⟩ := hmoves
  refine ⟨?_, ?_, owners_own htoken howners, ?_,
    fun n hn => ⟨?_, fun t ht => ((hothers n hn).2 t ht).own _⟩⟩
  · rwa [own_traffic]
  · rwa [own_clock]
  · rwa [own_places, own_clock]
  · rw [own_places]
    exact (hothers n hn).1

/-- A step that changes the phase of the call that refreshes the grant, and not the state. -/
lemma phase (hi : (p i).grant? = some name) (hph : ph.grant? = some name)
    (hok : s.GrantOk name ph) : Sustains s (update p i ph) :=
  h.holder hi hph (h.moves rfl rfl rfl (fun _ _ => rfl) (h.within name)) hok

/-- A step after which every call is where it was. -/
lemma frame (htraffic : s'.traffic = s.traffic) (hclock : s.clock ≤ s'.clock)
    (howners : s'.owners = s.owners)
    (hplaces : ∀ n, Places.Arrives snd (s.places n) (s'.places n)) : Sustains s' p := by
  intro hsingle
  have hgood : ∀ n token, s.Good n token → s'.Good n token := by
    exact fun n token hgood => hgood.mono (howners ▸ Subset.refl _) fun e he => .inr (htraffic ▸ he)
  exact ⟨hsingle, htraffic ▸ h.noReplay, fun n => ((h.within n).arrives (hplaces n)).mono hclock,
    howners ▸ h.owners, fun n hnone => (h.idle n hnone).mono (hplaces n) (hgood n) hclock,
    fun j n hj => (h.busy j n hj).mono (hplaces n) (hgood n) hclock⟩

/-! ## Steps -/

/-- A step after which the call is where it was, and so is everything else. -/
lemma stay : Sustains s (update p i (p i)) := fun _ => by
  rwa [update_eq_self]

lemma loadGrant (ok : Bool) (hmay : (p i).may (.loadGrant name)) :
    Sustains s (update p i ((p i).load (s.secrets.loadGrant name ok))) := by
  rcases (p i).load_cases (s.secrets.loadGrant name ok) with
    hcase | ⟨n, d, hphase, hload, hcase⟩ | ⟨n, token, d, hphase, hload, hcase⟩ <;> rw [hcase]
  · exact h.stay
  all_goals
    have hn : n = name := by simpa [hphase] using hmay
    subst hn
    have hstored := stored_of_loadGrant hload
  · obtain ⟨hgrant, cur, hcur⟩ := h.at_phase hphase rfl
    refine h.phase hgrant rfl ⟨cur, hcur, ?_, ?_⟩
    · rw [← hstored]
      exact hcur.holds
    · rw [hstored]
      exact Nat.le_refl _
  · obtain ⟨hgrant, cur, hcur, htoken, hne, heq⟩ := h.at_phase hphase rfl
    have htoken' : cur.1 = d.tokenBundle.refreshToken := by
      rw [← heq, hstored]
      rfl
    exact h.phase hgrant rfl ⟨cur, hcur, htoken', by rw [← htoken', htoken]; exact hne⟩

lemma beginRefresh (hfree : p i = .free) : Sustains (s.beginRefresh name).2
    (update p i (if (s.beginRefresh name).1 = true then .begun name else p i)) := by
  unfold BrokerState.beginRefresh
  by_cases hbusy : (s.grants name).refreshing = true
  · rw [if_pos hbusy]
    exact h.stay
  · rw [if_neg hbusy]
    have hnone : ∀ j, (p j).grant? ≠ some name := fun j hj => hbusy (h.single.held j name hj)
    have hplaces :=
      s.setGrant_places name (fun st => { st with refreshing := true, lastErr := none })
      fun _ => rfl
    obtain ⟨cur, hcur⟩ := h.idle name hnone
    have hcur' : ∃ cur, (s.setGrant name fun st =>
        { st with refreshing := true, lastErr := none }).Settled name cur :=
      ⟨cur, by rw [hplaces]; exact hcur.holds, hcur.good⟩
    refine h.touch name (h.moves rfl rfl rfl (fun n _ => hplaces n) ?_)
      (update_same (fun n hn => ?_) fun n hn => ?_) (fun _ => ?_) fun j _ hj => ?_
    · rw [hplaces]
      exact h.within name
    · rw [hfree] at hn
      cases hn
    · exact (some.inj hn).symm
    · exact hcur'
    · have hji : j = i := by
        by_contra hji
        rw [update_of_ne hji] at hj
        exact hnone j hj
      rw [hji, update_self]
      exact hcur'

lemma takeStash {d : Grant} (hphase : p i = .loaded name d) : Sustains (s.takeStash name d).2
    (update p i (.chosen name (s.takeStash name d).1.tokenBundle.refreshToken)) := by
  obtain ⟨hgrant, cur, hcur, hloaded, hle⟩ := h.at_phase hphase rfl
  rcases s.takeStash_cases name d with ⟨stash, hstash, hahead, hcase⟩ | ⟨hnot, hgrant', hcase⟩
  · rw [hcase]
    have hpick : stash.credential = cur := by
      refine hloaded.pick_stash ?_ hahead
      change (s.grants name).authoritative.map Grant.credential = _
      rw [hstash]
      rfl
    exact h.phase hgrant rfl ⟨cur, hcur, by rw [← hpick]; rfl⟩
  · rw [hcase, hgrant']
    obtain ⟨hd, hdrop⟩ := hcur.holds.drop_stash hloaded hle (by
      intro c hc
      obtain ⟨stash, hstash, rfl⟩ := map_eq_some_iff.mp hc
      exact hnot stash hstash)
    have hname : (s.setGrant name fun st => { st with authoritative := none }).places name =
        { s.places name with stash := none } := by
      unfold BrokerState.places
      rw [setGrant_grants, if_pos rfl]
      rfl
    refine h.holder hgrant rfl (h.moves rfl rfl rfl (fun n hn => ?_) ?_) ?_
    · exact places_congr rfl (by rw [setGrant_grants, if_neg hn]) rfl
    · rw [hname]
      exact ⟨(h.within name).stored, nofun, (h.within name).late⟩
    · exact ⟨cur, ⟨by rw [hname]; exact hdrop, hcur.good⟩, by rw [← hd]; rfl⟩

variable {token : Option String} {old : String}

/-- A call of the provider is made with a token that has not been replaced. -/
lemma send (hgrant : (p i).grant? = some name) {cur : Credential} (hcur : s.Settled name cur)
    (hold : cur.1 = old) (htoken : ∀ t, token = some t → t = old ∧ t ≠ "") :
    Sustains { s with traffic := .sent name token :: s.traffic }
      (update p i (.sent name old token)) := by
  have hgood : ∀ n t, s.Good n t →
      BrokerState.Good { s with traffic := .sent name token :: s.traffic } n t := by
    refine fun n t hgood => hgood.mono (Subset.refl _) fun e he => ?_
    exact (mem_cons.mp he).imp_left fun he => by rw [he]; rfl
  refine h.holder hgrant rfl ⟨?_, Nat.le_refl _, h.owners, h.within name,
    fun n _ => ⟨.refl _, hgood n⟩⟩ ⟨cur, ⟨hcur.holds, hgood _ _ hcur.good⟩, hold, htoken⟩
  rcases token with _ | t
  · exact h.noReplay
  · obtain ⟨rfl, hne⟩ := htoken t rfl
    rcases hcur.good with hempty | ⟨hunspent, -⟩
    · exact absurd (hold.symm.trans hempty) hne
    · exact ⟨hold ▸ hunspent, h.noReplay⟩

/-- The provider has granted: the old token may be spent now, and the refresh has the new one. -/
lemma granted {r : TokenResponse} (hphase : p i = .sent name old token)
    (hhonest : s.HonestAnswer name (.granted r)) : Sustains (s.receive name token (.granted r))
      (update p i (.rotated name (newToken old r))) := by
  obtain ⟨hgrant, cur, hcur, hold, htoken⟩ := h.at_phase hphase rfl
  -- only the token of the call can have been replaced
  have hreplaces : ∀ t, (Exchange.answered name token (.granted r)).replaces t = true →
      t = old ∧ t ≠ "" ∧ r.refreshToken ≠ "" ∧ r.refreshToken ≠ t := by
    intro t ht
    rcases token with _ | t'
    · cases ht
    · simp only [Exchange.replaces, Bool.and_eq_true, beq_iff_eq, bne_iff_ne] at ht
      obtain ⟨⟨rfl, hne⟩, hne'⟩ := ht
      exact ⟨(htoken t' rfl).1, (htoken t' rfl).2, hne, hne'⟩
  -- the broker after the exchange, in which the grant is then given the new token
  let s₁ : BrokerState := { s with traffic := .answered name token (.granted r) :: s.traffic }
  have hgood (n t) (ht : s.Good n t)
      (hnew : (Exchange.answered name token (.granted r)).replaces t = false) :
      s₁.Good n t :=
    ht.mono (Subset.refl _) fun e he => (mem_cons.mp he).imp_left fun he => by rwa [he]
  have hissued : r.refreshToken = "" ∨ s₁.Unspent name r.refreshToken := by
    refine hhonest.imp_right fun hnew => ⟨fun e he => ?_, hnew.2⟩
    rcases mem_cons.mp he with rfl | he
    · exact Bool.eq_false_iff.mpr fun hrep => (hreplaces _ hrep).2.2.2 rfl
    · exact hnew.1 e he
  change Sustains (s₁.own r.refreshToken name) _
  refine h.holder hgrant rfl (moves_own ⟨h.noReplay, Nat.le_refl _, h.owners, h.within name,
    fun n hn =>
      ⟨.refl _, fun t ht => hgood n t ht (Bool.eq_false_iff.mpr fun hrep => ?_)⟩⟩ hissued) ?_
  · -- the replaced token is not one of another grant
    obtain ⟨rfl, hne, -⟩ := hreplaces t hrep
    rcases ht with hempty | ⟨-, howned⟩
    · exact hne hempty
    · rcases hcur.good with hempty | ⟨-, howned'⟩
      · exact hne (hold ▸ hempty)
      · rw [hold] at howned'
        exact (h.owners _ howned _ howned' rfl).elim hne hn
  · change (s₁.own r.refreshToken name).Good name (newToken old r)
    unfold newToken
    split
    · exact good_own hissued
    · rename_i hempty
      refine (hgood name old (hold ▸ hcur.good) (Bool.eq_false_iff.mpr fun hrep => ?_)).own _
      exact hempty (hreplaces _ hrep).2.2.1

lemma refused {e : ProviderErr} (hphase : p i = .sent name old token)
    (hnot : ∀ t, token = some t → e = .refreshTokenReused →
      ∀ g ∈ (s.grants name).authoritative, g.lastRefresh ≤ (s.places name).stored.2) :
    Sustains (s.receive name token (.refused e))
      (update p i ((sent name old token).receive (.refused e))) := by
  obtain ⟨hgrant, cur, hcur, hold, htoken⟩ := h.at_phase hphase rfl
  have hgood : ∀ n t, s.Good n t → (s.receive name token (.refused e)).Good n t := by
    refine fun n t hgood => hgood.mono (Subset.refl _) fun e' he => ?_
    exact (mem_cons.mp he).imp_left fun he => by rw [he]; cases token <;> rfl
  have hcur' : (s.receive name token (.refused e)).Settled name cur :=
    ⟨hcur.holds, hgood _ _ hcur.good⟩
  refine h.holder hgrant (receive_sent ..).1 ⟨h.noReplay, Nat.le_refl _, h.owners,
    h.within name, fun n _ => ⟨.refl _, hgood n⟩⟩ ?_
  rcases token with _ | t
  · cases e <;> exact ⟨cur, hcur'⟩
  · cases e with
    | invalidGrant | other => exact ⟨cur, hcur'⟩
    | refreshTokenReused =>
      obtain ⟨rfl, hne⟩ := htoken t rfl
      refine ⟨cur, hcur', hold, hne, hcur.holds.stored_of_not_behind fun c hc => ?_⟩
      obtain ⟨stash, hstash, rfl⟩ := map_eq_some_iff.mp hc
      exact hnot t rfl rfl stash hstash

/-- Time passes. -/
lemma elapse (tick : Nat) : BrokerSound { s with clock := s.clock + tick } p := by
  obtain ⟨hunique, hheld, hcalling, hquiet⟩ := h.single
  exact h.frame rfl (Nat.le_add_right _ _) rfl (fun _ => .refl _) ⟨hunique, hheld, hcalling, hquiet⟩

/-- The clock is read: a rotated token gets a time later than all before. -/
lemma now (tick : Nat) : Sustains { s with clock := s.clock + tick + 1 }
    (update p i ((p i).stamp (s.clock + tick + 1))) := by
  have hclock : s.clock ≤ s.clock + tick + 1 := by omega
  rcases (p i).stamp_cases (s.clock + tick + 1) with hcase |
    ⟨n, token, hphase, hcase⟩ <;> rw [hcase]
  · rw [update_eq_self]
    exact h.frame rfl hclock rfl fun _ => .refl _
  · obtain ⟨hgrant, hgood⟩ := h.at_phase hphase rfl
    refine h.holder hgrant rfl ⟨h.noReplay, hclock, h.owners, (h.within n).mono hclock,
      fun _ _ => ⟨.refl _, fun _ => id⟩⟩ ⟨hgood, ?_, Nat.succ_pos _, Nat.le_refl _⟩
    exact .of_within (h.within n) (by change s.clock < s.clock + tick + 1; omega)

variable {g : Grant}

/-- A grant that is not from the future is saved. -/
lemma moves_save (io : SaveIo) (hle : g.lastRefresh ≤ s.clock) :
    Moves s (s.save g io).2 g.name := by
  rcases s.save_cases g io with ⟨hsame, -⟩ | ⟨-, -, hname, hothers⟩
  · rw [hsame]
    exact h.moves rfl rfl rfl (fun _ _ => rfl) (h.within g.name)
  · refine h.moves rfl rfl rfl hothers ?_
    rw [hname]
    exact ⟨hle, (h.within g.name).stash, (h.within g.name).late⟩

/-- The rotated grant is saved, or is found to be saved already, or the save fails. -/
lemma saveGrantIfNewer (io : SaveIo) (hphase : (p i).Saves g) :
    Sustains (s.save g io).2 (update p i ((p i).saved (s.save g io).1)) := by
  have hphase' : p i = .stamped g.name g.tokenBundle.refreshToken g.lastRefresh := hphase
  obtain ⟨hgrant, hgood, hpending, hpos, hle⟩ := h.at_phase hphase' rfl
  rcases s.save_cases g io with ⟨hsame, hanswer, hnot⟩ | ⟨htakes, hanswer, hname, -⟩
  · rw [hsame]
    rcases hx : (s.save g io).1 with _ | _ | _
    · exact absurd hx hanswer
    · have hsaved : (p i).saved .failed = p i := by
        rw [hphase']
        rfl
      rw [hsaved]
      exact h.stay
    · rw [hx] at hnot
      rw [hphase']
      exact h.phase hgrant rfl ⟨g.credential, hpending.holds_of_not_takes (hnot rfl), hgood⟩
  · have hpending' : ((s.save g io).2.places g.name).Pending snd g.credential := by
      rw [hname]
      exact hpending.write
    have hstored : ((s.save g io).2.places g.name).stored = g.credential := by rw [hname]
    have hmoves := h.moves_save io hle
    rw [hphase']
    rcases hx : (s.save g io).1 with _ | _ | _
    · exact h.holder hgrant rfl hmoves ⟨g.credential, hpending'.holds hstored, hgood⟩
    · exact h.holder hgrant rfl hmoves ⟨hgood, hpending', hpos, hle⟩
    · exact absurd hx hanswer

/-- All saves have failed: the grant goes into the stash, and on being saved in the background. -/
lemma stash (hphase : (p i).Saves g) : Sustains (s.stash g.name g) (update p i (.done g.name)) := by
  have hphase' : p i = .stamped g.name g.tokenBundle.refreshToken g.lastRefresh := hphase
  obtain ⟨hgrant, hgood, hpending, hpos, hle⟩ := h.at_phase hphase' rfl
  have hname : (s.stash g.name g).places g.name =
      ⟨(s.places g.name).stored, some g.credential,
        insert g.credential (s.places g.name).late⟩ := by
    unfold BrokerState.stash BrokerState.places
    rw [setGrant_grants, if_pos rfl]
    refine congrArg₂ (Places.mk _) rfl (Set.ext fun c => ?_)
    simp [BrokerState.setGrant, eq_comm]
  have hothers : ∀ n, n ≠ g.name → (s.stash g.name g).places n = s.places n := by
    intro n hn
    unfold BrokerState.stash BrokerState.places
    rw [setGrant_grants, if_neg hn]
    refine congrArg₂ (Places.mk _) rfl (Set.ext fun c => ?_)
    simp [BrokerState.setGrant, Ne.symm hn]
  refine h.holder hgrant rfl (h.moves rfl rfl rfl hothers ?_)
    ⟨g.credential, by rw [hname]; exact hpending.holds_stash, hgood⟩
  rw [hname]
  refine ⟨(h.within g.name).stored, ?_, ?_⟩
  · rintro c ⟨⟩
    exact hle
  · rintro c (rfl | hc)
    · exact ⟨hpos, hle⟩
    · exact (h.within g.name).late c hc

lemma endRefresh {result : Refreshed} (hmay : (p i).may (.endRefresh name result)) :
    Sustains (s.endRefresh name result) (update p i .free) := by
  obtain ⟨hgrant, -, hrotated, hstamped⟩ := hmay
  have hplaces : ∀ n, (s.endRefresh name result).places n = s.places n :=
    s.setGrant_places name _ fun st => by rcases result with _ | ⟨_, _⟩ <;> rfl
  have hname {n} (hn : (p i).grant? = some n) : n = name := some.inj (hn.symm.trans hgrant)
  have hsettled : ∃ cur, s.Settled name cur := by
    refine (h.busy i name hgrant).settled ?_ ?_
    · intro n token hphase
      exact hrotated token (hname (by rw [hphase]; rfl) ▸ hphase)
    · intro n token now hphase
      exact hstamped token now (hname (by rw [hphase]; rfl) ▸ hphase)
  obtain ⟨cur, hcur⟩ := hsettled
  refine h.touch name (h.moves rfl rfl rfl (fun n _ => hplaces n) ?_)
    (update_same (fun n hn => hname hn) nofun) (fun _ => ?_) fun j _ hj => ?_
  · rw [hplaces]
    exact h.within name
  · exact ⟨cur, by rw [hplaces]; exact hcur.holds, hcur.good⟩
  · by_cases hji : j = i
    · rw [hji, update_self] at hj
      cases hj
    · rw [update_of_ne hji] at hj
      exact absurd (h.single.unique j i name hj hgrant) hji

/-- A grant is saved from outside while it is not being refreshed. -/
lemma saveGrant (io : SaveIo)
    (htoken : g.tokenBundle.refreshToken = "" ∨ s.Unspent g.name g.tokenBundle.refreshToken)
    (hclock : g.lastRefresh ≤ s.clock) : Sustains (s.saveGrant g io).2 p := by
  unfold BrokerState.saveGrant
  split_ifs with hbusy
  · exact fun _ => h
  have hnone : ∀ j, (p j).grant? ≠ some g.name := fun j hj => hbusy (h.single.held j g.name hj)
  obtain ⟨cur, hcur⟩ := h.idle g.name hnone
  have hgood (n t) (ht : s.Good n t) :
      ((s.save g io).2.own g.tokenBundle.refreshToken g.name).Good n t :=
    Good.own (s := (s.save g io).2) ht _
  refine h.outside hnone (moves_own (h.moves_save io hclock) htoken) ?_
  rcases s.save_cases g io with ⟨hsame, -⟩ | ⟨htakes, -, hname, -⟩
  · refine ⟨cur, ?_, hgood _ _ hcur.good⟩
    rw [own_places, hsame]
    exact hcur.holds
  · rcases hcur.holds.write htakes with hholds | hholds
    · exact ⟨cur, by rw [own_places, hname]; exact hholds, hgood _ _ hcur.good⟩
    · exact ⟨g.credential, by rw [own_places, hname]; exact hholds, good_own htoken⟩

lemma retry (k : Nat) (io : SaveIo) : Sustains (s.retry k io) p := by
  have hlate : ∀ g ∈ s.retries, 0 < g.lastRefresh := fun g hg =>
    ((h.within g.name).late g.credential ⟨g, hg, rfl, rfl⟩).1
  have hrest : (s.retry k io).traffic = s.traffic ∧ (s.retry k io).clock = s.clock ∧
      (s.retry k io).owners = s.owners := by
    rcases s.retry_cases k io with hcase | ⟨g, -, retries, -, hcase⟩ <;> rw [hcase] <;>
      exact ⟨rfl, rfl, rfl⟩
  exact h.frame hrest.1 (Nat.le_of_eq hrest.2.1.symm) hrest.2.2 (s.retry_arrives k io hlate)

/-- **Step.** Every operation that its call may perform keeps the invariant, when the environment is
honest and the store is not behind at a reuse. -/
theorem step {o : BrokerOp} {io : BrokerIo} (hmay : (p i).may o) (hhonest : s.Honest o io)
    (hnot : s.NotBehind o io) :
    BrokerSound (s.exec o io).2 (update p i ((p i).next o (s.exec o io).1)) := by
  refine (?_ : Sustains _ _) (h.single.step hmay io)
  cases o with
  | loadGrant name => exact h.loadGrant io.load hmay
  | beginRefresh name => exact h.beginRefresh hmay
  | takeStash name d =>
    have hphase : p i = .loaded name d := hmay
    rw [hphase]
    exact h.takeStash hphase
  | send name token =>
    obtain ⟨old, ⟨hphase, htoken⟩ | ⟨hphase, htoken⟩⟩ := hmay <;> rw [hphase]
    · obtain ⟨hgrant, cur, hcur, hold⟩ := h.at_phase hphase rfl
      exact h.send hgrant hcur hold htoken
    · obtain ⟨hgrant, cur, hcur, hold, hne⟩ := h.at_phase hphase rfl
      refine h.send hgrant hcur hold fun t ht => ?_
      cases htoken.symm.trans ht
      exact ⟨rfl, hne⟩
  | receive name token =>
    obtain ⟨old, hphase⟩ := hmay
    rw [hphase]
    change Sustains (s.receive name token io.answer)
      (update p i ((sent name old token).receive io.answer))
    replace hhonest : s.HonestAnswer name io.answer := hhonest
    rcases hanswer : io.answer with r | e
    · rw [hanswer] at hhonest
      exact h.granted hphase hhonest
    · refine h.refused hphase fun t ht he => ?_
      subst ht he
      exact hnot hanswer
  | setNeedsLogin name value =>
    change Sustains (s.setGrant name fun st => { st with needsLogin := value })
      (update p i (p i))
    rw [update_eq_self]
    refine h.frame rfl (Nat.le_refl _) rfl fun n => ?_
    rw [s.setGrant_places name (fun st => { st with needsLogin := value }) fun _ => rfl]
    exact .refl _
  | now => exact h.now io.tick
  | saveGrantIfNewer g => exact h.saveGrantIfNewer io.save hmay
  | stash name g =>
    obtain ⟨hphase, rfl⟩ := hmay
    have hphase' : p i = .stamped g.name g.tokenBundle.refreshToken g.lastRefresh := hphase
    rw [hphase']
    exact h.stash hphase
  | endRefresh name result => exact h.endRefresh hmay
  | saveGrant g =>
    change Sustains ({ s with clock := s.clock + io.tick }.saveGrant g io.save).2 (update p i (p i))
    rw [update_eq_self]
    exact (h.elapse io.tick).saveGrant io.save hhonest.1 hhonest.2
  | retry k =>
    change Sustains (s.retry k io.save) (update p i (p i))
    rw [update_eq_self]
    exact h.retry k io.save
  | awaitRefresh name | lastToken name => exact h.stay

end BrokerSound

/-! ## Runs -/

/-- The phases of the calls; one that has returned has none to speak of. -/
def phases (roles : Nat → Option RefreshPhase) (i : Nat) : RefreshPhase := (roles i).getD .free

lemma phases_update (roles : Nat → Option RefreshPhase) (i : Nat) (x : Option RefreshPhase) :
    phases (update roles i x) = update (phases roles) i (x.getD .free) := by
  funext j
  unfold phases
  rw [update_apply, update_apply]
  split <;> rfl

variable {roles : Nat → Option RefreshPhase}

lemma phases_of_some {i : Nat} {r : RefreshPhase} (h : roles i = some r) : phases roles i = r := by
  rw [phases, h]
  rfl

/-- A call that is in no phase begins or returns. -/
lemma phases_update_free {i : Nat} {x : Option RefreshPhase} (h : phases roles i = .free)
    (hx : x.getD .free = .free) : phases (update roles i x) = phases roles := by
  rw [phases_update, hx, ← h, update_eq_self]

/-- What the store holds when the broker starts: no two grants have one refresh token, and nothing
is from the future. -/
def Proper (clock : Nat) (secrets : SecretStore) : Prop :=
  (∀ a ∈ (BrokerState.init clock secrets).owners, ∀ b ∈ (BrokerState.init clock secrets).owners,
      a.1 = b.1 → a.1 = "" ∨ a.2 = b.2) ∧
    ∀ e ∈ secrets.entries, e.2.lastRefresh.getD 0 ≤ clock

instance (clock : Nat) (secrets : SecretStore) : Decidable (Proper clock secrets) :=
  inferInstanceAs (Decidable (_ ∧ _))

lemma Single.init (clock : Nat) (secrets : SecretStore) :
    Single (.init clock secrets) (phases fun _ => none) :=
  ⟨nofun, nofun, nofun, fun _ _ => rfl⟩

lemma BrokerSound.init {clock : Nat} {secrets : SecretStore} (h : Proper clock secrets) :
    BrokerSound (.init clock secrets) (phases fun _ => none) where
  single := .init clock secrets
  noReplay := trivial
  within name := by
    refine ⟨?_, nofun, ?_⟩
    · change (((secrets.lookup name).map Secret.credential).getD ("", 0)).2 ≤ clock
      rcases hlookup : secrets.lookup name with _ | secret
      · exact Nat.zero_le _
      · exact h.2 ⟨name, secret⟩ (AList.mem_lookup_iff.mp hlookup)
    · rintro c ⟨g, hg, -⟩
      cases hg
  owners := h.1
  idle name _ := by
    refine ⟨((BrokerState.init clock secrets).places name).stored, .stored rfl nofun ?_, ?_⟩
    · rintro c ⟨g, hg, -⟩
      cases hg
    · change BrokerState.Good _ name (((secrets.lookup name).map Secret.credential).getD ("", 0)).1
      rcases hlookup : secrets.lookup name with _ | secret
      · exact .inl rfl
      · refine .inr ⟨nofun, mem_map.mpr ⟨⟨name, secret⟩, AList.mem_lookup_iff.mp hlookup, rfl⟩⟩
  busy i name hi := by cases hi

namespace BrokerConfig

variable (cfg : BrokerConfig)

abbrev BrokerWorld := World BrokerState BrokerOp.Ans BrokerRequest RefreshPhase BrokerReply

abbrev BrokerEvent := CallEvent BrokerRequest BrokerIo

/-- A broker that has just started. -/
def start (clock : Nat) (secrets : SecretStore) : BrokerWorld := ⟨0, .init clock secrets, []⟩

/-- The run of the broker. -/
def run (clock : Nat) (secrets : SecretStore) (events : List BrokerEvent) : BrokerWorld :=
  Lib.run cfg.system.step (start clock secrets) events

/-- Every operation of the run meets the condition. -/
def RunsWith (G : BrokerState → BrokerOp → BrokerIo → Prop) (clock : Nat) (secrets : SecretStore)
    (events : List BrokerEvent) : Prop :=
  Along cfg.system.step (fun w e => w.Meets (fun _ s _ _ o io => G s o io) e)
    (start clock secrets) events

instance (G : BrokerState → BrokerOp → BrokerIo → Prop)
    [∀ s o io, Decidable (G s o io)] (clock : Nat)
    (secrets : SecretStore) (events : List BrokerEvent) :
      Decidable (cfg.RunsWith G clock secrets events) :=
  inferInstanceAs (Decidable (Along _ _ _ _))

variable {events : List BrokerEvent} {secrets : SecretStore} {clock : Nat}

/-- An invariant that every operation keeps, of the broker and the phases of its calls. -/
lemma run_keeps {G : BrokerState → BrokerOp → BrokerIo → Prop}
    (I : BrokerState → (Nat → RefreshPhase) → Prop)
    (hstep : ∀ {s p i o io}, I s p → may (p i) o → G s o io →
      I (s.exec o io).2 (update p i ((p i).next o (s.exec o io).1)))
    (hinit : I (.init clock secrets) (phases fun _ => none))
    (hrun : cfg.RunsWith G clock secrets events) :
    I (cfg.run clock secrets events).shared (phases (cfg.run clock secrets events).roles) := by
  refine (System.run_invariant (fun req _ => cfg.body_follows req)
    (fun _ s roles => I s (phases roles)) ?_ (fun _ _ _ _ h => h) ?_ ?_ hinit hrun).2
  · intro _ s roles i req h hi
    rwa [phases_update_free (by rw [phases, hi]; rfl) rfl]
  · intro _ s roles i r h hi hr
    rwa [phases_update_free ((phases_of_some hi).trans hr) rfl]
  · intro _ s roles _ i r o io h _ hi hmay hG
    rw [phases_update]
    rw [← phases_of_some hi] at hmay
    have hnext := hstep h hmay hG
    rwa [phases_of_some hi] at hnext

lemma single_run (clock : Nat) (secrets : SecretStore) (events : List BrokerEvent) :
    Single (cfg.run clock secrets events).shared (phases (cfg.run clock secrets events).roles) :=
  cfg.run_keeps (G := fun _ _ _ => True) Single (fun h hmay _ => h.step hmay _)
    (.init clock secrets)
    (along_of_forall_mem (fun e _ w => by cases e <;> simp [World.Meets]) _)

lemma sound_run (hproper : Proper clock secrets)
    (hrun : cfg.RunsWith (fun s o io => s.Honest o io ∧ s.NotBehind o io) clock secrets events) :
    BrokerSound (cfg.run clock secrets events).shared
      (phases (cfg.run clock secrets events).roles) :=
  cfg.run_keeps BrokerSound (fun h hmay hG => h.step hmay hG.1 hG.2) (.init hproper) hrun

/-- **Refreshes are single-flight, and spent tokens are not replayed.** In every run of the broker
each grant has at most one call of the provider in flight. In every run in which the environment is
honest, and in which the store is not behind the stash whenever the provider answers that a token
was reused, no call is made with a refresh token that an earlier refresh has replaced. -/
theorem refresh_single_flight_no_replay (clock : Nat) (secrets : SecretStore)
    (events : List BrokerEvent) :
    (∀ name, inFlight name (cfg.run clock secrets events).shared.traffic ≤ 1) ∧
      (Proper clock secrets →
        cfg.RunsWith (fun s o io => s.Honest o io ∧ s.NotBehind o io) clock secrets events →
          NoReplay (cfg.run clock secrets events).shared.traffic) :=
  ⟨(cfg.single_run clock secrets events).inFlight_le,
    fun hproper hrun => (cfg.sound_run hproper hrun).noReplay⟩

end BrokerConfig

/-! ## A replay -/

namespace BrokerConfig

/-- One grant, of a provider that refreshes. -/
def codexConfig : BrokerConfig := ⟨["codex"], [], [("team", "codex")]⟩

def teamSecret : SecretStore := AList.insert "team" ⟨"i0", "a0", "r0", "acct", some 1, some 1⟩ ∅

/-- The `i`-th call performs an operation for each of these. -/
def advances (i : Nat) (ios : List BrokerIo) : List BrokerEvent := ios.map (.advance i)

/-- A refresh up to the provider's answer. -/
def callProvider (i : Nat) (answer : ProviderAnswer) : List BrokerEvent :=
  .begin (.refreshAccessToken "team" 0) :: advances i [{}, {}, {}, {}, { answer := answer }]

/-- A refresh rotates the token, and all saves fail. -/
def unsavedRotation : List BrokerEvent :=
  callProvider 0 (.granted ⟨"i1", "a1", "r1", 100⟩) ++
    advances 0
      [{}, { save := .failed }, { save := .failed }, { save := .failed }, { save := .failed },
      { save := .failed }, {}, {}]

/-- The answer to the next refresh is lost; the one after is told that its token was reused, loads
the grant again, and calls the provider with what it finds. -/
def lostAnswer : List BrokerEvent :=
  callProvider 1 (.refused .other) ++ advances 1 [{}] ++
    callProvider 2 (.refused .refreshTokenReused) ++ advances 2 [{}, {}]

/-- The store takes the rotated token in the background before the next refresh. -/
def caughtUp : List BrokerEvent :=
  unsavedRotation ++ [.begin (.retryGrantPersistence 0), .advance 1 {}] ++
    callProvider 2 (.refused .refreshTokenReused) ++ advances 2 [{}, {}]

theorem refresh_no_replay_caughtUp : Proper 1 teamSecret ∧
      codexConfig.RunsWith (fun s o io => s.Honest o io ∧ s.NotBehind o io) 1 teamSecret caughtUp ∧
      (codexConfig.run 1 teamSecret caughtUp).shared.traffic.length = 5 ∧
      NoReplay (codexConfig.run 1 teamSecret caughtUp).shared.traffic :=
  ⟨by decide +kernel, by decide +kernel, by decide +kernel,
    (refresh_single_flight_no_replay codexConfig 1 teamSecret caughtUp).2 (by decide +kernel)
      (by decide +kernel)⟩

/-- The environment is honest and the store proper, and the provider is called with `r0`, which the
first refresh has replaced, while `r1` is in the stash. -/
theorem reused_refresh_replays_spent_token : Proper 1 teamSecret ∧
      codexConfig.RunsWith BrokerState.Honest 1 teamSecret (unsavedRotation ++ lostAnswer) ∧
      (codexConfig.run 1 teamSecret (unsavedRotation ++ lostAnswer)).shared.traffic.head? =
        some (.sent "team" (some "r0")) ∧
      ¬ NoReplay (codexConfig.run 1 teamSecret (unsavedRotation ++ lostAnswer)).shared.traffic := by
  decide +kernel

end BrokerConfig

end Homelab.Tokenbroker
