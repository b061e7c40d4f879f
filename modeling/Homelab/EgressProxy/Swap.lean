import Homelab.Lib.Reader
import Homelab.EgressProxy.Http

/-!
# The swapping proxy

`swap.go`: `swapPump` reads the requests of a guest from one connection, replaces the credential in
each of them, and forwards it. The stream comes in pieces and through short-lived buffered readers,
whose read-ahead `replayReader` puts back; `swapPump_eq` says that nothing of this shows: the pump
does what `pumpBytes` does with the bytes.

What the outside does in one turn of the loop is a `Turn`: deadlines, the credential that
`sec.credential()` finds, whether the destination takes the request, and what it answers.
-/

namespace Homelab.EgressProxy

open Homelab.Lib

/-! ## Secrets -/

/-- Source: `secretEntry` -/
structure SecretEntry where
  header : String
  valuePrefix : String
  basicUser : String
  claimHeader : String
  claimPath : String
  plaintextUpstream : Bool
  injectAlwaysPaths : List String
  deriving DecidableEq, Repr

/-- Source: `credential` -/
structure Credential where
  grant : String
  value : String
  deriving DecidableEq, Repr

namespace SecretEntry

variable (go : GoStd) (sec : SecretEntry)

/-- The path gets the credential unasked. -/
def injectAlwaysPath (path : String) : Bool :=
  sec.injectAlwaysPaths.any fun p => p != "" && p == path

/-- The value of the secret's header. -/
def headerValueFor (value : String) : String :=
  if sec.basicUser ≠ "" then "Basic " ++ go.base64 (sec.basicUser ++ ":" ++ value)
  else sec.valuePrefix ++ value

end SecretEntry

/-! ## Claims -/

/-- The dots of a path, the last one first: what is before the dot and what is after it. -/
def dotSplits (path : List Char) : List (List Char × List Char) :=
  ((List.range path.length).reverse.filter fun i => path[i]? == some '.').map fun i =>
    (path.take i, path.drop (i + 1))

/-- The fuel is the length of the path: what is after a dot is shorter. -/
def findClaim : (fuel : Nat) → Json → List Char → Option Json
  | _, value, [] => some value
  | 0, _, _ => none
  | fuel + 1, .object members, path =>
    match members.lookup (String.ofList path) with
    | some found => some found
    | none =>
      match (dotSplits path).findSome? fun split =>
        (members.lookup (String.ofList split.1)).map fun value => (value, split.2) with
      | some (value, rest) => findClaim fuel value rest
      | none => none
  | _, _, _ => none

/-- A text claim of the credential, found by its path. -/
def jwtClaim (go : GoStd) (token path : String) : Option String :=
  match token.toList.splitOn '.' with
  | [_, payload, _] =>
    match go.claims (String.ofList payload) with
    | none => none
    | some claims =>
      match findClaim path.toList.length (.object claims) path.toList with
      | some (.string claim) => if claim = "" then none else some claim
      | _ => none
  | _ => none

/-! ## Checks -/

section

variable (go : GoStd)

/-- The host without port and last dot, in lower case. -/
def canonicalAuthority (authority : String) : String :=
  let host := go.toLower ((go.splitHostPort authority).getD authority)
  if host.toList.getLast? = some '.' then String.ofList host.toList.dropLast else host

variable (req : Request) (sec : SecretEntry)

/-- The first authority of the request that is not the policy's; empty when there is none. -/
def mismatchedAuthority (rawHeader : Bytes) (policyHost : String) : String :=
  let authorities := [req.host, req.urlHost, go.rawHost rawHeader]
  (authorities.find? fun authority => authority != "" &&
    canonicalAuthority go authority != canonicalAuthority go policyHost).getD ""

/-- The guest declares a field of the secret as a trailer. -/
def credentialInTrailer : Bool :=
  req.trailer.any fun key =>
    go.equalFold key sec.header || (sec.claimHeader != "" && go.equalFold key sec.claimHeader)

/-- The request asks for another protocol. -/
def rejectSwapRequest : Bool :=
  req.header.values go "Expect" != [] || req.method == "CONNECT" ||
    req.header.values go "Upgrade" != [] ||
    (req.header.values go "Connection").any fun value => (value.toList.splitOn ',').any fun token =>
      go.equalFold (go.trimSpace (String.ofList token)) "upgrade"

/-- The request with the credential in place of what the guest sent, and whether it was put
there. -/
def injectRequestWith (cred : Credential) : Request × Bool :=
  let requested := req.header.values go sec.header != [] || sec.injectAlwaysPath req.urlPath
  let cleared := req.header.del go sec.header
  if sec.claimHeader ≠ "" then
    let cleared := cleared.del go sec.claimHeader
    if !requested || sec.claimPath == "" then ({ req with header := cleared }, false)
    else
      match jwtClaim go cred.value sec.claimPath with
      | none => ({ req with header := cleared }, false)
      | some claim =>
        let injected := cleared.set go sec.header (sec.headerValueFor go cred.value)
        ({ req with header := injected.set go sec.claimHeader claim }, true)
  else if !requested then ({ req with header := cleared }, false)
  else ({ req with header := cleared.set go sec.header (sec.headerValueFor go cred.value) }, true)

/-- The request as `swapPump` writes it, and whether the connection is closed after it; `none` when
it is denied. -/
def prepare (host : String) (rawHeader : Bytes) (req : Request)
    (cred : Credential) : Option (Request × Bool) :=
  if mismatchedAuthority go req rawHeader host ≠ "" then none
  else
    let req := { req with host := host }
    if rejectSwapRequest go req then none
    else if credentialInTrailer go req sec then none
    else
      let (req, injected) := injectRequestWith go req sec cred
      if sec.claimHeader ≠ "" ∧ injected = false then none
      else
        let closing := req.close || sec.plaintextUpstream
        some ({ req with close := closing, urlHost := "" }, closing)

end

/-! ## The stream -/

/-- The longest header that is read. -/
def maxHeaderBytes : Nat := 64 <<< 10

def bufferSize : Nat := maxHeaderBytes + 1

/-- Source: `replayReader` -/
structure Replay (σ : Type) where
  pending : Bytes
  source : σ

namespace Replay

variable {σ : Type}

def read (R : Reader σ UInt8) (n : Nat) (r : Replay σ) : Bytes × Replay σ :=
  if r.pending ≠ [] then (r.pending.take n, { r with pending := r.pending.drop n })
  else ((R.read n r.source).1, { r with source := (R.read n r.source).2 })

def content (R : Reader σ UInt8) (r : Replay σ) : Bytes := r.pending ++ R.content r.source

variable (R : Reader σ UInt8)

lemma read_content (n : Nat) (r : Replay σ) :
    (read R n r).1 ++ content R (read R n r).2 = content R r := by
  unfold read content
  split
  · simp [← List.append_assoc]
  · rename_i hpending
    have hnil : r.pending = [] := not_not.mp hpending
    simp [hnil, R.read_content]

lemma read_length (n : Nat) (r : Replay σ) : (read R n r).1.length ≤ n := by
  unfold read
  split
  · exact List.length_take_le n _
  · exact R.read_length n _

lemma read_end (n : Nat) (r : Replay σ) (hn : 0 < n) (h : (read R n r).1 = []) :
    content R r = [] := by
  unfold read at h
  unfold content
  split at h
  · rename_i hpending
    rcases List.take_eq_nil_iff.mp h with rfl | hnil
    · omega
    · exact absurd hnil hpending
  · rename_i hpending
    rw [not_not.mp hpending, List.nil_append]
    exact R.read_end n _ hn h

/-- `replayReader` -/
def reader (R : Reader σ UInt8) : Reader (Replay σ) UInt8 where
  read := read R
  content := content R
  read_content := read_content R
  read_length := read_length R
  read_end := read_end R

/-- Puts read-ahead back. -/
def prepend (data : Bytes) (r : Replay σ) : Replay σ := { r with pending := data ++ r.pending }

/-- The stream with what a buffered reader has read ahead put back. -/
def prependBuffered (b : Buffered (Replay σ) UInt8) : Replay σ := b.src.prepend b.buf

lemma content_prepend (data : Bytes) (r : Replay σ) :
    (r.prepend data).content R = data ++ r.content R := by
  simp [prepend, content]

lemma content_prependBuffered (b : Buffered (Replay σ) UInt8) :
    (prependBuffered b).content R = b.content (reader R) :=
  content_prepend R b.buf b.src

end Replay

/-! ## The header -/

/-- How the reading of a header ends. -/
inductive HeaderRead where
  | header (bytes : Bytes)
  | tooLarge
  | failed
  deriving DecidableEq, Repr

section

variable {τ τ' : Type}

/-- `readRequestHeader`, over a reader of fragments. -/
def readHeader (next : τ → Slice UInt8 × τ) :
    (fuel : Nat) → (header : Bytes) → (lineBytes : Nat) → τ → HeaderRead × τ
  | 0, _, _, r => (.failed, r)
  | fuel + 1, header, lineBytes, r =>
    let (slice, r) := next r
    if maxHeaderBytes < header.length + slice.items.length then (.tooLarge, r)
    else
      match slice with
      | .full fragment => readHeader next fuel (header ++ fragment) (lineBytes + fragment.length) r
      | .eof _ => (.failed, r)
      | .line fragment =>
        -- the empty line, unless a longer line ends in what looks like one
        if lineBytes = 0 ∧ (fragment = [13, 10] ∨ fragment = [10]) then
          (.header (header ++ fragment), r)
        else readHeader next fuel (header ++ fragment) 0 r

/-- Two readers that give the same fragments give the same header. -/
lemma readHeader_sim {next : τ → Slice UInt8 × τ} {next' : τ' → Slice UInt8 × τ'} {f : τ → τ'}
    {I : τ → Prop} (hnext : ∀ r, I r → ((next r).1, f (next r).2) = next' (f r) ∧ I (next r).2)
    {r : τ} (hr : I r) (fuel : Nat) (header : Bytes) (lineBytes : Nat) :
    ((readHeader next fuel header lineBytes r).1, f (readHeader next fuel header lineBytes r).2) =
      readHeader next' fuel header lineBytes (f r) := by
  induction fuel generalizing header lineBytes r with
  | zero => rfl
  | succ fuel ih =>
    obtain ⟨heq, hI⟩ := hnext r hr
    unfold readHeader
    rw [← heq]
    dsimp only
    split
    · rfl
    · cases hslice : (next r).1 with
      | full fragment => exact ih hI _ _
      | eof fragment => rfl
      | line fragment =>
        dsimp only
        split
        · rfl
        · exact ih hI _ _

/-- The header is what has been read of the stream. -/
lemma readHeader_append {next : Bytes → Slice UInt8 × Bytes}
    (hnext : ∀ r, (next r).1.items ++ (next r).2 = r) {r header bytes : Bytes}
    {fuel lineBytes : Nat}
    (h : (readHeader next fuel header lineBytes r).1 = .header bytes) :
    bytes ++ (readHeader next fuel header lineBytes r).2 = header ++ r := by
  induction fuel generalizing header lineBytes r with
  | zero => simp [readHeader] at h
  | succ fuel ih =>
    have happend := hnext r
    unfold readHeader at h ⊢
    dsimp only at h ⊢
    split at h
    · simp at h
    · rename_i hlimit
      rw [if_neg hlimit]
      cases hslice : (next r).1 with
      | full fragment =>
        rw [hslice] at h happend
        conv_rhs => rw [← happend, ← List.append_assoc]
        exact ih h
      | eof fragment =>
        rw [hslice] at h
        simp at h
      | line fragment =>
        rw [hslice] at h happend
        dsimp only at h ⊢
        split at h
        · rename_i hblank
          conv_rhs => rw [← happend, ← List.append_assoc]
          obtain rfl := HeaderRead.header.inj h
          rw [if_pos hblank]
          rfl
        · rename_i hblank
          conv_rhs => rw [← happend, ← List.append_assoc]
          rw [if_neg hblank]
          exact ih h

end

section

variable {σ : Type} (R : Reader σ UInt8)

/-- Reads up to the empty line. -/
def readRequestHeader (b : Buffered (Replay σ) UInt8) : HeaderRead × Buffered (Replay σ) UInt8 :=
  readHeader (Buffered.readSlice (Replay.reader R) bufferSize 10 (bufferSize + 1))
    (maxHeaderBytes + 1) [] 0 b

end

/-- The header at the start of the bytes. -/
def headerOf (bytes : Bytes) : HeaderRead × Bytes :=
  readHeader (sliceOf bufferSize 10) (maxHeaderBytes + 1) [] 0 bytes

/-! ## The pump -/

/-- What the outside does in one turn. -/
structure Turn where
  /-- The read deadline can be set; the header comes in before it; it can be cleared. -/
  deadline : Bool
  inTime : Bool
  cleared : Bool
  cred : Credential
  /-- The destination takes all of the request; if not, whether its trailer section got through. -/
  written : Bool
  trailed : Bool
  /-- The status codes of the responses it sends. -/
  responses : List Nat
  /-- The guest takes the response. -/
  returned : Bool
  deriving DecidableEq, Repr

/-- What a turn sends. -/
inductive Output where
  /-- A request was forwarded, with this credential in hand. -/
  | forwarded (cred : Credential) (request : Forwarded)
  /-- A grant the destination has rejected. -/
  | invalidated (grant : String)
  deriving DecidableEq, Repr

section

variable {τ : Type} (go : GoStd) (sec : SecretEntry) (host : String)

/-- `req.Write`, and the response; the stream if the pump goes on with it. -/
def forward (t : Turn) (a : Arrival) (req : Request) (closeAfter : Bool) (rest : τ) :
    List Output × Option τ :=
  let fields := go.fields req
  let trailer := go.trailers req a.sent
  if a.whole = false then ([.forwarded t.cred ⟨fields, []⟩], none)
  else if t.written = false then
    ([.forwarded t.cred ⟨fields, if t.trailed then trailer else []⟩], none)
  else
    -- interim responses are skipped
    match t.responses.find? fun status => !(decide (100 ≤ status) && decide (status < 200)) with
    | none => ([.forwarded t.cred ⟨fields, trailer⟩], none)
    | some status =>
      (.forwarded t.cred ⟨fields, trailer⟩ ::
          if status = 401 ∧ t.cred.grant ≠ "" then [.invalidated t.cred.grant] else [],
        if t.returned && !closeAfter then some rest else none)

/-- One turn of the loop. -/
def turn {σ : Type} (R : Reader σ UInt8) (t : Turn) (s : Replay σ) :
    List Output × Option (Replay σ) :=
  if t.deadline = false then ([], none)
  else
    match readRequestHeader R ⟨[], s⟩ with
    | (.header bytes, headerR) =>
      if t.inTime = false then ([], none)
      else
        let s := (Replay.prependBuffered headerR).prepend bytes
        match go.readRequest (s.content R) with
        | none => ([], none)
        | some a =>
          if t.cleared = false then ([], none)
          else
            match prepare go sec host bytes a.req t.cred with
            | none => ([], none)
            | some (req, closeAfter) =>
              let requestR :=
                Buffered.consume (Replay.reader R) bufferSize (a.used + 2) a.used ⟨[], s⟩
              forward go t a req closeAfter (Replay.prependBuffered requestR)
    | _ => ([], none)

/-- One turn, on all bytes to come. -/
def turnBytes (t : Turn) (bytes : Bytes) : List Output × Option Bytes :=
  if t.deadline = false then ([], none)
  else
    match (headerOf bytes).1 with
    | .header header =>
      if t.inTime = false then ([], none)
      else
        match go.readRequest bytes with
        | none => ([], none)
        | some a =>
          if t.cleared = false then ([], none)
          else
            match prepare go sec host header a.req t.cred with
            | none => ([], none)
            | some (req, closeAfter) => forward go t a req closeAfter (bytes.drop a.used)
    | _ => ([], none)

/-- The turns of a connection, until one ends it. -/
def pump (step : Turn → τ → List Output × Option τ) : List Turn → τ → List Output
  | [], _ => []
  | t :: turns, s =>
    match step t s with
    | (outputs, none) => outputs
    | (outputs, some s') => outputs ++ pump step turns s'

/-- The turns on a connection. -/
def swapPump {σ : Type} (R : Reader σ UInt8) (turns : List Turn) (guest : σ) : List Output :=
  pump (turn go sec host R) turns ⟨[], guest⟩

/-- The same on the bytes, without readers. -/
def pumpBytes (turns : List Turn) (bytes : Bytes) : List Output :=
  pump (turnBytes go sec host) turns bytes

end

/-! ## The pieces do not show -/

section

variable {σ : Type} {R : Reader σ UInt8} {go : GoStd} {sec : SecretEntry} {host : String}

/-- The header is read as it stands in the bytes, and nothing is lost. -/
lemma readRequestHeader_eq (s : Replay σ) :
    ((readRequestHeader R ⟨[], s⟩).1, (readRequestHeader R ⟨[], s⟩).2.content (Replay.reader R)) =
      headerOf (s.content R) := by
  refine readHeader_sim (f := Buffered.content (Replay.reader R))
    (I := fun b => b.buf.length ≤ bufferSize) (fun b hb => ?_) (by simp) _ _ _
  exact ⟨Buffered.readSlice_eq hb (by omega), Buffered.length_readSlice hb⟩

lemma headerOf_append {bytes header : Bytes} (h : (headerOf bytes).1 = .header header) :
    header ++ (headerOf bytes).2 = bytes :=
  readHeader_append (items_sliceOf bufferSize 10) h

/-- Nothing that is forwarded or answered depends on what is left of the stream. -/
lemma forward_map {τ τ' : Type} (f : τ → τ') (t : Turn) (a : Arrival) (req : Request)
    (closeAfter : Bool) (rest : τ) :
    ((forward go t a req closeAfter rest).1, (forward go t a req closeAfter rest).2.map f) =
      forward go t a req closeAfter (f rest) := by
  unfold forward
  split
  · rfl
  · split
    · rfl
    · split
      · rfl
      · by_cases hgoes : (t.returned && !closeAfter) = true <;> simp [hgoes]

/-- What a turn makes of the stream, it makes of the bytes. -/
lemma turn_eq (t : Turn) (s : Replay σ) :
    ((turn go sec host R t s).1, (turn go sec host R t s).2.map (Replay.content R)) =
      turnBytes go sec host t (s.content R) := by
  have hread := readRequestHeader_eq (R := R) s
  unfold turn turnBytes
  rw [← hread]
  generalize readRequestHeader R ⟨[], s⟩ = read at hread ⊢
  obtain ⟨res, headerR⟩ := read
  split
  · rfl
  · cases res with
    | tooLarge => rfl
    | failed => rfl
    | header bytes =>
      -- the bytes that were read come back in front of those that were not
      have hback : ((Replay.prependBuffered headerR).prepend bytes).content R = s.content R := by
        have happend := headerOf_append (congrArg Prod.fst hread).symm
        rw [← congrArg Prod.snd hread] at happend
        rw [Replay.content_prepend, Replay.content_prependBuffered]
        exact happend
      dsimp only
      split
      · rfl
      · rw [hback]
        split
        · rfl
        · split
          · rfl
          · split
            · rfl
            · rw [forward_map, Replay.content_prependBuffered,
                Buffered.content_consume (by decide) (by omega) (by omega)]
              have hcontent : (Buffered.content (Replay.reader R)
                  ⟨[], (Replay.prependBuffered headerR).prepend bytes⟩) = s.content R := hback
              rw [hcontent]

/-- **The pump sees the bytes and not how they come in.** -/
theorem swapPump_eq (turns : List Turn) (guest : σ) :
    swapPump go sec host R turns guest = pumpBytes go sec host turns (R.content guest) := by
  have hpump : ∀ s : Replay σ, pump (turn go sec host R) turns s =
      pump (turnBytes go sec host) turns (s.content R) := by
    induction turns with
    | nil => exact fun _ => rfl
    | cons t turns ih =>
      intro s
      unfold pump
      rw [← turn_eq]
      rcases turn go sec host R t s with ⟨outputs, _ | s'⟩
      · rfl
      · exact congrArg (outputs ++ ·) (ih s')
  exact hpump ⟨[], guest⟩

end

end Homelab.EgressProxy
