import Homelab.Lib.Calls
import Homelab.Lib.Table

/-!
# The token broker

`broker.go` and the secret store of `secret.go`: `GetAccessToken`, `RefreshAccessToken`, `SaveGrant`
and the retries of a save in the background, as programs over atomic operations. What runs under a
grant's mutex is one operation, and so is each call of the store; a call of the provider is two, so
that others take steps while it is in flight.

* Times are nanoseconds since the zero time. Every reading of the clock is later than all before it.
  Time passes before a save from outside, so that what it saves may bear a reading of its own.
* A secret's time that cannot be parsed is `none`, a missing one is the zero time.
* A call that waits for a refresh looks at it as often as the request says, then waits on.
* Metrics, logs and the pauses between attempts are left out.
* `traffic` is what has gone between the broker and the provider, newest first, and `owners` says
  which grants a refresh token has been given to. The broker reads neither. Sources without a file
  name are in `broker.go`.
-/

namespace Homelab.Tokenbroker

open Homelab.Lib

/-! ## Grants and their secrets -/

/-- Source: `secret.go`, `TokenBundle` -/
structure TokenBundle where
  idToken : String
  accessToken : String
  refreshToken : String
  accountID : String
  lastRefresh : Nat
  expiresAt : Nat
  deriving DecidableEq, Repr

/-- Source: `secret.go`, `Grant` -/
structure Grant where
  name : String
  providerName : String
  tokenBundle : TokenBundle
  lastRefresh : Nat
  deriving DecidableEq, Repr

/-- The grant has no access token that could be served. -/
def Grant.lacksToken (g : Grant) : Bool :=
  g.tokenBundle.accessToken == "" || g.tokenBundle.expiresAt == 0

/-- The data of a chart-managed Secret. -/
structure Secret where
  idToken : String
  accessToken : String
  refreshToken : String
  accountID : String
  lastRefresh : Option Nat
  expiresAt : Option Nat
  deriving DecidableEq, Repr

/-- Source: `secret.go`, `data` -/
def Secret.data (g : Grant) : Secret :=
  ⟨g.tokenBundle.idToken, g.tokenBundle.accessToken, g.tokenBundle.refreshToken,
    g.tokenBundle.accountID, some g.lastRefresh, some g.tokenBundle.expiresAt⟩

/-- The Secrets, by the names of their grants. -/
abbrev SecretStore := Table String Secret

/-- How a save goes. -/
inductive SaveIo where
  | ok
  | failed
  /-- The Secret is updated, and the caller is told that it is not. -/
  | appliedFailed
  deriving DecidableEq, Repr

inductive SaveAnswer where
  | ok
  | failed
  /-- `ErrGrantNotNewer`. -/
  | notNewer
  deriving DecidableEq, Repr

namespace SecretStore

/-- Source: `secret.go`, `LoadGrant` -/
def loadGrant (secrets : SecretStore) (name : String) (ok : Bool) : Option Grant :=
  match secrets.lookup name with
  | some ⟨idToken, accessToken, refreshToken, accountID, some lastRefresh, some expiresAt⟩ =>
    if ok then
      some ⟨name, "",
        ⟨idToken, accessToken, refreshToken, accountID, lastRefresh, expiresAt⟩, lastRefresh⟩
    else none
  | _ => none

/-- Source: `secret.go`, `SaveGrantIfNewer` -/
def saveGrantIfNewer (secrets : SecretStore) (g : Grant) (io : SaveIo) : SaveAnswer × SecretStore :=
  match io, (secrets.lookup g.name).bind (·.lastRefresh) with
  | .failed, _ => (.failed, secrets)
  | _, none => (.failed, secrets)
  | io, some currentLast =>
    if currentLast ≠ 0 ∧ ¬ currentLast < g.lastRefresh then (.notNewer, secrets)
    else (if io = .ok then .ok else .failed, secrets.insert g.name (.data g))

end SecretStore

/-! ## The provider -/

/-- Source: `provider.go`, the errors of a refresh -/
inductive ProviderErr where
  | invalidGrant
  | refreshTokenReused
  | other
  deriving DecidableEq, Repr

/-- Source: `provider.go`, `TokenResponse` -/
structure TokenResponse where
  idToken : String
  accessToken : String
  refreshToken : String
  expiresAt : Nat
  deriving DecidableEq, Repr

inductive ProviderAnswer where
  | granted (r : TokenResponse)
  | refused (e : ProviderErr)
  deriving DecidableEq, Repr

/-- A call of the provider for a grant, with a refresh token or, to mint, without; or its answer. -/
inductive Exchange where
  | sent (grant : String) (token : Option String)
  | answered (grant : String) (token : Option String) (answer : ProviderAnswer)
  deriving DecidableEq, Repr

/-- How many calls for the grant have not been answered. -/
def inFlight (grant : String) : List Exchange → Nat
  | [] => 0
  | .sent g _ :: earlier => inFlight grant earlier + if g = grant then 1 else 0
  | .answered g _ _ :: earlier => inFlight grant earlier - if g = grant then 1 else 0

/-- The exchange is a successful refresh that has replaced the token. -/
def Exchange.replaces (token : String) : Exchange → Bool
  | .answered _ (some t) (.granted r) => t == token && r.refreshToken != "" &&
    r.refreshToken != token
  | _ => false

/-- No call has been made with a token that an earlier refresh had replaced. -/
def NoReplay : List Exchange → Prop
  | [] => True
  | .sent _ (some token) :: earlier =>
    (∀ e ∈ earlier, e.replaces token = false) ∧ NoReplay earlier
  | _ :: earlier => NoReplay earlier

instance decidableNoReplay : (traffic : List Exchange) → Decidable (NoReplay traffic)
  | [] => isTrue trivial
  | .sent _ none :: earlier => decidableNoReplay earlier
  | .sent _ (some token) :: earlier =>
    @instDecidableAnd _ _ (inferInstanceAs (Decidable (∀ e ∈ earlier, e.replaces token = false)))
      (decidableNoReplay earlier)
  | .answered _ _ _ :: earlier => decidableNoReplay earlier

/-! ## The broker's state -/

/-- What the calls below fail with. -/
inductive BrokerErr where
  /-- `no_grant`. -/
  | noGrant
  /-- `refresh_failed`. -/
  | refreshFailed
  /-- `no refresh token`. -/
  | noRefreshToken
  /-- `provider .. is not configured`. -/
  | notConfigured (providerName : String)
  /-- `provider .. does not support token refresh`. -/
  | noRefresh (providerName : String)
  /-- `grant refresh in progress`. -/
  | refreshInProgress
  /-- `grant_not_newer`. -/
  | grantNotNewer
  /-- What the store has failed with. -/
  | store
  | provider (e : ProviderErr)
  deriving DecidableEq, Repr

/-- What a refresh comes to: an access token and its expiry, or an error. -/
abbrev Refreshed := Except BrokerErr (String × Nat)

/-- Source: `grantState` -/
structure GrantState where
  refreshing : Bool := false
  lastErr : Option BrokerErr := none
  lastAccess : String := ""
  lastExpiry : Nat := 0
  needsLogin : Bool := false
  authoritative : Option Grant := none
  deriving DecidableEq, Repr

/-- The parts of `Broker` that `New` sets and nothing changes. -/
structure BrokerConfig where
  adapters : List String
  minters : List String
  /-- The configured grants and their providers. -/
  grants : List (String × String)

/-- The provider of a grant, if it is configured.
Source: `state` and `grantProviders` -/
def BrokerConfig.grantProvider (cfg : BrokerConfig) (name : String) : Option String :=
  (cfg.grants.reverse.find? fun c => c.1 == name).map (·.2)

/-- The broker, the store and the clock. -/
structure BrokerState where
  clock : Nat
  secrets : SecretStore
  grants : String → GrantState
  /-- What is being saved in the background. -/
  retries : List Grant
  traffic : List Exchange
  owners : List (String × String)

namespace BrokerState

/-- A broker that has just started, on what the store holds. -/
def init (clock : Nat) (secrets : SecretStore) : BrokerState where
  clock := clock
  secrets := secrets
  grants _ := {}
  retries := []
  traffic := []
  owners := secrets.entries.map fun e => (e.2.refreshToken, e.1)

variable (s : BrokerState)

def setGrant (name : String) (f : GrantState → GrantState) : BrokerState :=
  { s with grants := Function.update s.grants name (f (s.grants name)) }

/-- The grant has been given the token. -/
def own (token name : String) : BrokerState :=
  if token = "" then s else { s with owners := (token, name) :: s.owners }

end BrokerState

/-! ## Operations -/

inductive BrokerOp where
  | loadGrant (name : String)
  | beginRefresh (name : String)
  /-- A waiting call looks whether the refresh has ended. -/
  | awaitRefresh (name : String)
  /-- `refresh` picks the stash or the loaded grant. -/
  | takeStash (name : String) (loaded : Grant)
  | send (name : String) (token : Option String)
  | receive (name : String) (token : Option String)
  | setNeedsLogin (name : String) (value : Bool)
  | now
  | saveGrantIfNewer (g : Grant)
  /-- The end of `saveRotatedGrant`: the stash is set, and the retries begin. -/
  | stash (name : String) (g : Grant)
  | endRefresh (name : String) (result : Refreshed)
  | lastToken (name : String)
  /-- `SaveGrant`, which holds the mutex while it saves. -/
  | saveGrant (g : Grant)
  /-- The next attempt of a save in the background. -/
  | retry (k : Nat)

/-- `awaitRefresh` answers nothing while the refresh goes on, `saveGrant` nothing when it is
refused. -/
abbrev BrokerOp.Ans : BrokerOp → Type
  | .loadGrant _ => Option Grant
  | .beginRefresh _ => Bool
  | .awaitRefresh _ => Option Refreshed
  | .takeStash _ _ => Grant
  | .receive _ _ => ProviderAnswer
  | .now => Nat
  | .saveGrantIfNewer _ => SaveAnswer
  | .lastToken _ => String × Nat
  | .saveGrant _ => Option SaveAnswer
  | _ => Unit

/-- What an operation finds outside: whether a load succeeds, the provider's answer, how a save
goes, and how much time has passed. -/
structure BrokerIo where
  load : Bool := true
  answer : ProviderAnswer := .refused .other
  save : SaveIo := .ok
  tick : Nat := 0
  deriving DecidableEq, Repr

namespace BrokerState

variable (s : BrokerState) (name : String) (g : Grant)

def beginRefresh : Bool × BrokerState :=
  if (s.grants name).refreshing then (false, s)
  else (true, s.setGrant name fun st => { st with refreshing := true, lastErr := none })

def awaitRefresh : Option Refreshed :=
  if (s.grants name).refreshing then none
  else match (s.grants name).lastErr with
    | some e => some (.error e)
    | none => some (.ok ((s.grants name).lastAccess, (s.grants name).lastExpiry))

def takeStash (loaded : Grant) : Grant × BrokerState :=
  match (s.grants name).authoritative with
  | none => (loaded, s)
  | some stash =>
    if loaded.lastRefresh < stash.lastRefresh then (stash, s)
    else (loaded, s.setGrant name fun st => { st with authoritative := none })

def receive (token : Option String) (answer : ProviderAnswer) : BrokerState :=
  let s' := { s with traffic := .answered name token answer :: s.traffic }
  match answer with
  | .granted r => s'.own r.refreshToken name
  | .refused _ => s'

def endRefresh (result : Refreshed) : BrokerState :=
  s.setGrant name fun st =>
    match result with
    | .ok (access, expiry) =>
      { st with refreshing := false, lastErr := none, lastAccess := access, lastExpiry := expiry }
    | .error e =>
      { st with refreshing := false, lastErr := some e, lastAccess := "", lastExpiry := 0 }

def stash : BrokerState :=
  let s' := s.setGrant name fun st => { st with authoritative := some g }
  { s' with retries := g :: s'.retries }

def save (io : SaveIo) : SaveAnswer × BrokerState :=
  let (answer, secrets) := s.secrets.saveGrantIfNewer g io
  (answer, { s with secrets := secrets })

/-- Source: `SaveGrant` -/
def saveGrant (io : SaveIo) : Option SaveAnswer × BrokerState :=
  if (s.grants g.name).refreshing then (none, s)
  else
    let (answer, s') := s.save g io
    (some answer, s'.own g.tokenBundle.refreshToken g.name)

/-- Source: one round of `retryGrantPersistence` -/
def retry (k : Nat) (io : SaveIo) : BrokerState :=
  match s.retries[k]? with
  | none => s
  | some g =>
    let (answer, s') := s.save g io
    if answer = .failed then s' else { s' with retries := s'.retries.eraseIdx k }

/-- What an operation answers, and the broker after it. -/
def exec (o : BrokerOp) (io : BrokerIo) (s : BrokerState) : o.Ans × BrokerState :=
  match o with
  | .loadGrant name => (s.secrets.loadGrant name io.load, s)
  | .beginRefresh name => s.beginRefresh name
  | .awaitRefresh name => (s.awaitRefresh name, s)
  | .takeStash name loaded => s.takeStash name loaded
  | .send name token => ((), { s with traffic := .sent name token :: s.traffic })
  | .receive name token => (io.answer, s.receive name token io.answer)
  | .setNeedsLogin name value => ((), s.setGrant name fun st => { st with needsLogin := value })
  | .now => (s.clock + io.tick + 1, { s with clock := s.clock + io.tick + 1 })
  | .saveGrantIfNewer g => s.save g io.save
  | .stash name g => ((), s.stash name g)
  | .endRefresh name result => ((), s.endRefresh name result)
  | .lastToken name => (((s.grants name).lastAccess, (s.grants name).lastExpiry), s)
  | .saveGrant g => { s with clock := s.clock + io.tick }.saveGrant g io.save
  | .retry k => ((), s.retry k io.save)

end BrokerState

/-! ## Programs -/

namespace BrokerConfig

variable (cfg : BrokerConfig)

/-- A program of the broker. -/
abbrev Program := Proc BrokerOp.Ans

abbrev perform (o : BrokerOp) : Program o.Ans := Proc.perform o

/-- Source: `saveRotatedGrant`, with the attempts that are left -/
def saveRotatedGrant (name : String) (g : Grant) : Nat → Program SaveAnswer
  | 0 => do
    perform (.stash name g)
    return .failed
  | attempts + 1 => do
    match ← perform (.saveGrantIfNewer g) with
    | .failed => saveRotatedGrant name g attempts
    | answer => return answer

variable (name : String) (grant : Grant) (looks : Nat)

/-- The grant with what the provider has answered. -/
def rotate (g : Grant) (r : TokenResponse) (now : Nat) : Grant where
  name := name
  providerName := g.providerName
  lastRefresh := now
  tokenBundle := { g.tokenBundle with
    idToken := r.idToken
    accessToken := r.accessToken
    expiresAt := r.expiresAt
    refreshToken := if r.refreshToken ≠ "" then r.refreshToken else g.tokenBundle.refreshToken
    lastRefresh := now }

/-- Source: `refresh`, after the provider has granted -/
def granted (g : Grant) (r : TokenResponse) : Program Refreshed := do
  let now ← perform .now
  let rotated := rotate name g r now
  match ← saveRotatedGrant name rotated 5 with
  | .ok =>
    perform (.setNeedsLogin name false)
    return .ok (rotated.tokenBundle.accessToken, rotated.tokenBundle.expiresAt)
  | .failed => return .error .store
  | .notNewer =>
    match ← perform (.loadGrant name) with
    | none => return .error .store
    | some stored =>
      if stored.tokenBundle.accessToken = "" then return .error .noGrant
      else
        perform (.setNeedsLogin name false)
        return .ok (stored.tokenBundle.accessToken, stored.tokenBundle.expiresAt)

/-- Source: `refresh`, after the provider has refused -/
def refused (e : ProviderErr) : Program Refreshed := do
  if e = .invalidGrant then perform (.setNeedsLogin name true)
  return .error (.provider e)

/-- A call of the provider. -/
def call (token : Option String) : Program ProviderAnswer := do
  perform (.send name token)
  perform (.receive name token)

/-- Source: `refresh` -/
def refresh : Program Refreshed := do
  match ← perform (.loadGrant name) with
  | none => return .error .store
  | some loaded =>
    let grant ← perform (.takeStash name loaded)
    let providerName :=
      if grant.providerName = "" then (cfg.grantProvider name).getD "" else grant.providerName
    let grant := { grant with providerName := providerName }
    if !cfg.adapters.contains providerName && !cfg.minters.contains providerName then
      return .error (.notConfigured providerName)
    else if grant.tokenBundle.refreshToken = "" then
      if !cfg.minters.contains providerName then return .error .noRefreshToken
      else
        match ← call name none with
        | .granted r => granted name grant r
        | .refused e => refused name e
    else if !cfg.adapters.contains providerName then return .error (.noRefresh providerName)
    else
      match ← call name (some grant.tokenBundle.refreshToken) with
      | .granted r => granted name grant r
      | .refused .refreshTokenReused =>
        -- the grant is read again, and the stash is not looked at
        match ← perform (.loadGrant name) with
        | none => return .error .store
        | some grant =>
          match ← call name (some grant.tokenBundle.refreshToken) with
          | .granted r => granted name grant r
          | .refused e => refused name e
      | .refused e => refused name e

/-- A call that has found a refresh going on; nothing when it still waits. -/
def waitRefresh (name : String) : Nat → Program (Option Refreshed)
  | 0 => return none
  | looks + 1 => do
    match ← perform (.awaitRefresh name) with
    | none => waitRefresh name looks
    | some result => return some result

/-- Source: `RefreshAccessToken` -/
def refreshAccessToken : Program (Option Refreshed) :=
  match cfg.grantProvider name with
  | none => return some (.error .noGrant)
  | some _ => do
    if ← perform (.beginRefresh name) then
      let result ← cfg.refresh name
      perform (.endRefresh name result)
      return some result
    else waitRefresh name looks

/-- Five minutes. -/
def expiryMargin : Int := 5 * 60 * 1000000000

/-- Seven days. -/
def refreshAge : Int := 7 * 24 * 60 * 60 * 1000000000

/-- `time.Until(t) <= 5*time.Minute`. -/
def expires (t : Nat) : Program Bool := do
  let now ← perform .now
  return decide ((t : Int) - now ≤ expiryMargin)

/-- `time.Since(t) > 7*24*time.Hour`. -/
def aged (t : Nat) : Program Bool := do
  let now ← perform .now
  return decide (refreshAge < (now : Int) - t)

/-- The grant is about to expire, or has not been refreshed for seven days. -/
def refreshDue : Program Bool := do
  if ← expires grant.tokenBundle.expiresAt then return true
  else aged grant.lastRefresh

/-- The result of the last refresh can be served. -/
def shares (lastAccess : String) (lastExpiry : Nat) : Program Bool := do
  if lastAccess = "" then return false
  else if ← expires lastExpiry then return false
  else return !(← aged grant.lastRefresh)

/-- Source: `GetAccessToken`, once the grant has an access token -/
def serveToken : Program (Option Refreshed) := do
  if ← refreshDue grant then
    let (lastAccess, lastExpiry) ← perform (.lastToken name)
    if ← shares grant lastAccess lastExpiry then return some (.ok (lastAccess, lastExpiry))
    else
      match ← cfg.refreshAccessToken name looks with
      | none => return none
      | some (.error _) => return some (.error .refreshFailed)
      | some (.ok _) =>
        match ← perform (.loadGrant name) with
        | none => return some (.error .store)
        | some grant =>
          if grant.tokenBundle.expiresAt = 0 then return some (.error .noGrant)
          else return some (.ok (grant.tokenBundle.accessToken, grant.tokenBundle.expiresAt))
  else return some (.ok (grant.tokenBundle.accessToken, grant.tokenBundle.expiresAt))

/-- Source: `GetAccessToken` -/
def getAccessToken : Program (Option Refreshed) :=
  match cfg.grantProvider name with
  | none => return some (.error .noGrant)
  | some configured => do
    match ← perform (.loadGrant name) with
    | none => return some (.error .store)
    | some grant =>
      if grant.lacksToken then
        let providerName := if grant.providerName = "" then configured else grant.providerName
        if !cfg.minters.contains providerName then return some (.error .noGrant)
        else
          match ← cfg.refreshAccessToken name looks with
          | none => return none
          | some (.error _) => return some (.error .refreshFailed)
          | some (.ok _) =>
            match ← perform (.loadGrant name) with
            | none => return some (.error .store)
            | some grant =>
              if grant.lacksToken then return some (.error .noGrant)
              else cfg.serveToken name grant looks
      else cfg.serveToken name grant looks

/-- Source: `SaveGrant` -/
def saveGrant (g : Grant) : Program (Except BrokerErr Unit) :=
  match cfg.grantProvider g.name with
  | none => return .error .noGrant
  | some _ => do
    match ← perform (.saveGrant g) with
    | none => return .error .refreshInProgress
    | some .ok => return .ok ()
    | some .notNewer => return .error .grantNotNewer
    | some .failed => return .error .store

end BrokerConfig

/-! ## The broker as a system of calls -/

/-- A call and how often it looks when it has to wait, or an attempt of a save in the background. -/
inductive BrokerRequest where
  | getAccessToken (name : String) (looks : Nat)
  | refreshAccessToken (name : String) (looks : Nat)
  | saveGrant (g : Grant)
  | retryGrantPersistence (k : Nat)
  deriving DecidableEq, Repr

inductive BrokerReply where
  | token (result : Option Refreshed)
  | saved (result : Except BrokerErr Unit)
  | retried

def BrokerConfig.body (cfg : BrokerConfig) : BrokerRequest → BrokerConfig.Program BrokerReply
  | .getAccessToken name looks => do return .token (← cfg.getAccessToken name looks)
  | .refreshAccessToken name looks => do return .token (← cfg.refreshAccessToken name looks)
  | .saveGrant g => do return .saved (← cfg.saveGrant g)
  | .retryGrantPersistence k => do
    BrokerConfig.perform (.retry k)
    return .retried

end Homelab.Tokenbroker
