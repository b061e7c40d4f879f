import Homelab.Tokenbroker.Broker

/-!
# How far a refresh has come

The phase of a call of the token broker: whether it is the one refresh of its grant, which token
that refresh is about to use or has got, and whether its call of the provider is in flight. `may`
says which operation needs which phase, and `body_follows` that the programs of `broker.go` keep to
it.
-/

namespace Homelab.Tokenbroker

open Homelab.Lib Proc.Follows

inductive RefreshPhase where
  | free
  /-- The call has set `refreshing`. -/
  | begun (name : String)
  | loaded (name : String) (loaded : Grant)
  /-- It has picked a grant with this refresh token. -/
  | chosen (name : String) (token : String)
  /-- It calls the provider, with the token it has picked or to mint. -/
  | sent (name : String) (chosen : String) (token : Option String)
  /-- The token was refused as reused. -/
  | reused (name : String) (token : String)
  /-- It has loaded the grant again. -/
  | again (name : String) (token : String)
  /-- The provider has granted, and this is the refresh token from now on. -/
  | rotated (name : String) (token : String)
  | stamped (name : String) (token : String) (now : Nat)
  /-- Nothing is left to do for the grant. -/
  | done (name : String)
  deriving DecidableEq, Repr

namespace RefreshPhase

/-- The grant whose refresh the call is. -/
@[simp] def grant? : RefreshPhase → Option String
  | .free => none
  | .begun name | .loaded name _ | .chosen name _ | .sent name _ _ | .reused name _ | .again name _
  | .rotated name _ | .stamped name _ _ | .done name => some name

/-- The grant for which the provider has been called. -/
@[simp] def calling? : RefreshPhase → Option String
  | .sent name _ _ => some name
  | _ => none

@[simp] def load : RefreshPhase → Option Grant → RefreshPhase
  | .begun name, some g => .loaded name g
  | .reused name _, some g => .again name g.tokenBundle.refreshToken
  | p, _ => p

@[simp] def take : RefreshPhase → Grant → RefreshPhase
  | .loaded name _, g => .chosen name g.tokenBundle.refreshToken
  | p, _ => p

@[simp] def send : RefreshPhase → Option String → RefreshPhase
  | .chosen name old, token => .sent name old token
  | .again name old, token => .sent name old token
  | p, _ => p

/-- The refresh token after the provider has granted. -/
@[simp] def newToken (old : String) (r : TokenResponse) : String :=
  if r.refreshToken ≠ "" then r.refreshToken else old

@[simp] def receive : RefreshPhase → ProviderAnswer → RefreshPhase
  | .sent name old _, .granted r => .rotated name (newToken old r)
  | .sent name old (some _), .refused .refreshTokenReused => .reused name old
  | .sent name _ _, .refused _ => .done name
  | p, _ => p

@[simp] def stamp : RefreshPhase → Nat → RefreshPhase
  | .rotated name token, now => .stamped name token now
  | p, _ => p

@[simp] def saved : RefreshPhase → SaveAnswer → RefreshPhase
  | .stamped name _ _, .ok | .stamped name _ _, .notNewer => .done name
  | p, _ => p

@[simp] def stash : RefreshPhase → RefreshPhase
  | .stamped name _ _ => .done name
  | p => p

variable (p : RefreshPhase)

@[simp] def next : (o : BrokerOp) → o.Ans → RefreshPhase
  | .loadGrant _, x => p.load x
  | .beginRefresh name, x => if x then .begun name else p
  | .takeStash _ _, x => p.take x
  | .send _ token, _ => p.send token
  | .receive _ _, x => p.receive x
  | .now, x => p.stamp x
  | .saveGrantIfNewer _, x => p.saved x
  | .stash _ _, _ => p.stash
  | .endRefresh _ _, _ => .free
  | .awaitRefresh _, _ | .setNeedsLogin _ _, _ | .lastToken _, _ | .saveGrant _, _ |
    .retry _, _ => p

/-- What a stamped refresh saves. -/
@[simp] def Saves (g : Grant) : Prop :=
  p = .stamped g.name g.tokenBundle.refreshToken g.lastRefresh

/-- Which operation needs which phase. The first call of the provider with a refresh token is made
with one that is not empty. -/
@[simp] def may : BrokerOp → Prop
  | .beginRefresh _ => p = .free
  | .loadGrant name => p.grant? = none ∨ p.grant? = some name
  | .takeStash name d => p = .loaded name d
  | .send name token => ∃ chosen,
      p = .chosen name chosen ∧ (∀ t, token = some t → t = chosen ∧ t ≠ "") ∨
        p = .again name chosen ∧ token = some chosen
  | .receive name token => ∃ chosen, p = .sent name chosen token
  | .saveGrantIfNewer g => p.Saves g
  | .stash name g => p.Saves g ∧ g.name = name
  | .endRefresh name _ => p.grant? = some name ∧ p.calling? = none ∧
      (∀ token, p ≠ .rotated name token) ∧ ∀ token now, p ≠ .stamped name token now
  | .setNeedsLogin _ _ | .now | .awaitRefresh _ | .lastToken _ | .saveGrant _ | .retry _ => True

lemma grant_of_calling {p : RefreshPhase} {name : String} (h : p.calling? = some name) :
    p.grant? = some name := by
  cases p <;> simp_all

/-- A load moves a refresh on at its beginning and after a token was refused as reused. -/
lemma load_cases (x : Option Grant) :
    p.load x = p ∨ (∃ name d, p = .begun name ∧ x = some d ∧ p.load x = .loaded name d) ∨
      ∃ name token d, p = .reused name token ∧ x = some d ∧
        p.load x = .again name d.tokenBundle.refreshToken := by
  rcases x with _ | d
  · exact .inl (by cases p <;> rfl)
  · cases p with
    | begun name => exact .inr (.inl ⟨name, d, rfl, rfl, rfl⟩)
    | reused name token => exact .inr (.inr ⟨name, token, d, rfl, rfl, rfl⟩)
    | _ => exact .inl rfl

lemma stamp_cases (now : Nat) :
    p.stamp now = p ∨ ∃ name token, p = .rotated name token ∧
      p.stamp now = .stamped name token now := by
  cases p with
  | rotated name token => exact .inr ⟨name, token, rfl, rfl⟩
  | _ => exact .inl rfl

/-- The provider's answer ends its call, not the refresh. -/
lemma receive_sent (name old : String) (token : Option String) (answer : ProviderAnswer) :
    ((RefreshPhase.sent name old token).receive answer).grant? = some name ∧
      ((RefreshPhase.sent name old token).receive answer).calling? = none := by
  rcases answer with r | e
  · exact ⟨rfl, rfl⟩
  · cases token <;> cases e <;> exact ⟨rfl, rfl⟩

end RefreshPhase

/-! ## The programs keep to it -/

/-- The discipline of the broker. -/
abbrev refreshDiscipline : Discipline BrokerOp.Ans RefreshPhase :=
  ⟨RefreshPhase.may, RefreshPhase.next⟩

namespace BrokerConfig

/-- A refresh may end here. -/
def Over (name : String) (p : RefreshPhase) : Prop :=
  RefreshPhase.may p (.endRefresh name (.error .store))

variable {α : Type} {name : String}

lemma saveRotatedGrant_follows {g : Grant} (n : Nat) :
    (saveRotatedGrant g.name g n).Follows refreshDiscipline (fun _ p => p = .done g.name)
      (.stamped g.name g.tokenBundle.refreshToken g.lastRefresh) := by
  induction n with
  | zero => simp [saveRotatedGrant, perform]
  | succ n ih =>
    refine .perform rfl fun answer => ?_
    cases answer with
    | ok => rfl
    | failed => exact ih
    | notNewer => rfl

lemma granted_follows (g : Grant) (r : TokenResponse) :
    (granted name g r).Follows refreshDiscipline (fun _ p => Over name p)
      (.rotated name (RefreshPhase.newToken g.tokenBundle.refreshToken r)) := by
  refine .perform trivial fun now => ?_
  refine bind (saveRotatedGrant_follows (g := rotate name g r now) 5) ?_
  rintro answer _ rfl
  cases answer with
  | ok => simp [perform, rotate, Over]
  | failed => simp [rotate, Over]
  | notNewer =>
    refine .perform (.inr rfl) fun stored => ?_
    rcases stored with _ | stored
    · simp [rotate, Over]
    · by_cases hempty : stored.tokenBundle.accessToken = "" <;>
        simp [hempty, perform, rotate, Over]

lemma refused_follows (e : ProviderErr) {p : RefreshPhase} (h : Over name p) :
    (refused name e).Follows refreshDiscipline (fun _ p' => Over name p') p := by
  unfold refused
  by_cases hinvalid : e = .invalidGrant <;> simpa [hinvalid, perform] using h

/-- A call of the provider, from a phase in which it may be made. -/
lemma call_follows {p : RefreshPhase} {chosen : String} {token : Option String}
    (hmay : p.may (.send name token)) (hsend : p.send token = .sent name chosen token) :
    (call name token).Follows refreshDiscipline
      (fun answer p' => p' = (RefreshPhase.sent name chosen token).receive answer) p := by
  refine .perform hmay fun _ => ?_
  change (perform (.receive name token)).Follows _ _ (p.send token)
  rw [hsend]
  exact ⟨⟨chosen, rfl⟩, fun _ => rfl⟩

/-- A program that keeps to the discipline outside a refresh, and leaves none behind. -/
abbrev Ends (prog : Proc BrokerOp.Ans α) : Prop :=
  prog.Follows refreshDiscipline (fun _ p => p = .free) .free

lemma Ends.bind {β : Type} {prog : Proc BrokerOp.Ans α}
    {k : α → Proc BrokerOp.Ans β} (h : Ends prog)
    (hk : ∀ a, Ends (k a)) : Ends (prog >>= k) := by
  refine Proc.Follows.bind h ?_
  rintro a _ rfl
  exact hk a

variable (cfg : BrokerConfig) (name : String)

lemma refresh_follows :
    (cfg.refresh name).Follows refreshDiscipline (fun _ p => Over name p) (.begun name) := by
  refine .perform (.inr rfl) fun loaded => ?_
  rcases loaded with _ | loaded
  · simp [Over]
  refine .perform rfl fun grant => ?_
  change Proc.Follows _ _ _ (RefreshPhase.chosen name grant.tokenBundle.refreshToken)
  have hover : Over name (.chosen name grant.tokenBundle.refreshToken) := by simp [Over]
  dsimp only
  generalize (if grant.providerName = "" then _ else grant.providerName) = providerName
  split
  · exact hover
  · split
    · split
      · exact hover
      · -- a mint
        refine bind
          (call_follows ⟨_, .inl ⟨rfl, nofun⟩⟩ rfl) ?_
        rintro (r | e) _ rfl
        · exact granted_follows _ r
        · exact refused_follows e (by cases e <;> simp [Over])
    · rename_i hne
      split
      · exact hover
      · refine bind (call_follows ⟨_, .inl ⟨rfl, ?_⟩⟩ rfl) ?_
        · rintro t ⟨⟩
          exact ⟨rfl, hne⟩
        rintro (r | e) _ rfl
        · exact granted_follows _ r
        cases e with
        | invalidGrant | other => exact refused_follows _ (by simp [Over])
        | refreshTokenReused =>
          refine .perform (.inr rfl) fun reloaded => ?_
          rcases reloaded with _ | reloaded
          · simp [Over]
          refine bind (call_follows ⟨_, .inr ⟨rfl, rfl⟩⟩ rfl) ?_
          rintro (r | e) _ rfl
          · exact granted_follows _ r
          · exact refused_follows e (by cases e <;> simp [Over])

lemma waitRefresh_follows (looks : Nat) : Ends (waitRefresh name looks) := by
  induction looks with
  | zero => rfl
  | succ looks ih =>
    refine .perform trivial fun answer => ?_
    rcases answer with _ | result
    · exact ih
    · rfl

lemma refreshAccessToken_follows (looks : Nat) : Ends (cfg.refreshAccessToken name looks) := by
  unfold refreshAccessToken
  rcases cfg.grantProvider name with _ | provider
  · rfl
  refine .perform rfl fun begun => ?_
  cases begun with
  | false => exact waitRefresh_follows name looks
  | true =>
    refine bind (cfg.refresh_follows name) fun result p hover => ?_
    exact ⟨hover, fun _ => rfl⟩

lemma expires_follows (t : Nat) : Ends (expires t) := ⟨trivial, fun _ => rfl⟩

lemma aged_follows (t : Nat) : Ends (aged t) := ⟨trivial, fun _ => rfl⟩

lemma refreshDue_follows (grant : Grant) : Ends (refreshDue grant) := by
  refine (expires_follows _).bind fun expired => ?_
  cases expired with
  | true => rfl
  | false => exact aged_follows _

lemma shares_follows (grant : Grant) (lastAccess : String) (lastExpiry : Nat) :
    Ends (shares grant lastAccess lastExpiry) := by
  unfold shares
  split
  · rfl
  · refine (expires_follows _).bind fun expired => ?_
    cases expired with
    | true => rfl
    | false =>
      refine (aged_follows _).bind fun old => ?_
      rfl

lemma serveToken_follows (grant : Grant) (looks : Nat) :
    Ends (cfg.serveToken name grant looks) := by
  refine (refreshDue_follows grant).bind fun due => ?_
  cases due with
  | false => rfl
  | true =>
    refine .perform trivial fun last => ?_
    refine (shares_follows grant last.1 last.2).bind fun shared => ?_
    cases shared with
    | true => rfl
    | false =>
      refine (cfg.refreshAccessToken_follows name looks).bind fun answer => ?_
      rcases answer with _ | _ | _
      · rfl
      · rfl
      · refine .perform (.inl rfl) fun reloaded => ?_
        rcases reloaded with _ | reloaded
        · rfl
        · dsimp only
          split <;> rfl

lemma getAccessToken_follows (looks : Nat) : Ends (cfg.getAccessToken name looks) := by
  unfold getAccessToken
  rcases cfg.grantProvider name with _ | configured
  · rfl
  refine .perform (.inl rfl) fun loaded => ?_
  rcases loaded with _ | grant
  · rfl
  change Proc.Follows _ _ _ RefreshPhase.free
  dsimp only
  generalize (if grant.providerName = "" then _ else grant.providerName) = providerName
  split
  · split
    · rfl
    · refine (cfg.refreshAccessToken_follows name looks).bind fun answer => ?_
      rcases answer with _ | _ | _
      · rfl
      · rfl
      · refine .perform (.inl rfl) fun reloaded => ?_
        rcases reloaded with _ | reloaded
        · rfl
        · change Proc.Follows _ _ _ RefreshPhase.free
          dsimp only
          split
          · rfl
          · exact cfg.serveToken_follows name reloaded looks
  · exact cfg.serveToken_follows name grant looks

lemma saveGrant_follows (g : Grant) : Ends (cfg.saveGrant g) := by
  unfold saveGrant
  rcases cfg.grantProvider g.name with _ | provider
  · rfl
  · refine .perform trivial fun answer => ?_
    rcases answer with _ | _ | _ | _ <;> rfl

lemma body_follows (req : BrokerRequest) : Ends (cfg.body req) := by
  cases req with
  | getAccessToken name looks =>
    exact (cfg.getAccessToken_follows name looks).bind fun _ => rfl
  | refreshAccessToken name looks =>
    exact (cfg.refreshAccessToken_follows name looks).bind fun _ => rfl
  | saveGrant g => exact (cfg.saveGrant_follows g).bind fun _ => rfl
  | retryGrantPersistence k => exact ⟨trivial, fun _ => rfl⟩

end BrokerConfig

/-- The broker as a system of calls. -/
def BrokerConfig.system (cfg : BrokerConfig) :
    System BrokerState BrokerOp.Ans BrokerIo BrokerRequest RefreshPhase BrokerReply where
  exec _ o io s := s.exec o io
  body := cfg.body
  init _ _ := .free
  next := RefreshPhase.next

end Homelab.Tokenbroker
