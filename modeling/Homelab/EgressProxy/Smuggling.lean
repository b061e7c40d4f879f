import Homelab.EgressProxy.Plain
import Homelab.EgressProxy.Swap

/-!
# A guest's own credential

What a guest sends under the names of the secret is discarded: a forwarded request has the header
once and with the proxy's value, or not at all (`Clean`). `credentialInTrailer` extends this to the
trailer section, but it looks at the names the guest *declared*; those it sends come in with the
body, after the check (`Smuggles`).
-/

namespace Homelab.EgressProxy

open Homelab.Lib List

/-! ## Clean requests -/

section

variable (go : GoStd) (sec : SecretEntry) (host : String)

/-- The name of the secret's header, or of its claim. -/
def SecretEntry.Names (name : String) : Prop :=
  go.canonical name = go.canonical sec.header ∨
    sec.claimHeader ≠ "" ∧ go.canonical name = go.canonical sec.claimHeader

instance (name : String) : Decidable (sec.Names go name) :=
  inferInstanceAs (Decidable (_ ∨ _))

/-- The two headers are different ones, and none that `Request.Write` has lines of its own for. -/
structure SecretEntry.Separate : Prop where
  header : go.canonical sec.header ∉ managed
  claim : sec.claimHeader ≠ "" →
    go.canonical sec.claimHeader ∉ managed ∧ go.canonical sec.claimHeader ≠ go.canonical sec.header

/-- A forwarded request has nothing under the names of the secret but what is made from the
credential, and goes to the host of the policy. -/
structure Clean (cred : Credential) (f : Forwarded) : Prop where
  secret : fieldValues go f.fields sec.header = [] ∨
    fieldValues go f.fields sec.header = [go.writeValue (sec.headerValueFor go cred.value)]
  claim : sec.claimHeader ≠ "" → fieldValues go f.fields sec.claimHeader = [] ∨
    ∃ claim, jwtClaim go cred.value sec.claimPath = some claim ∧
      fieldValues go f.fields sec.claimHeader = [go.writeValue claim]
  trailer : ∀ field ∈ f.trailer, ¬sec.Names go field.1
  host : fieldValues go f.fields "Host" = [go.writeHost host]

/-- The guest sends a field of the secret in the trailer section without having declared it. -/
def Smuggles (a : Arrival) : Prop :=
  ∃ name ∈ a.sent.map Prod.fst, sec.Names go name ∧ name ∉ a.req.trailer

instance (a : Arrival) : Decidable (Smuggles go sec a) :=
  inferInstanceAs (Decidable (∃ name ∈ a.sent.map Prod.fst, _))

end

/-- The request is one of those that stand one after the other in the bytes. -/
inductive Arrives (go : GoStd) : Bytes → Arrival → Prop where
  | here {bytes : Bytes} {a : Arrival} : go.readRequest bytes = some a → Arrives go bytes a
  | later {bytes : Bytes} {a a' : Arrival} :
      go.readRequest bytes = some a → Arrives go (bytes.drop a.used) a' → Arrives go bytes a'

/-- All requests in the bytes, if there are fewer than `n`. -/
def arrivals (go : GoStd) : (n : Nat) → Bytes → Option (List Arrival)
  | 0, _ => none
  | n + 1, bytes =>
    match go.readRequest bytes with
    | none => some []
    | some a => (arrivals go n (bytes.drop a.used)).map (a :: ·)

lemma mem_arrivals {go : GoStd} {n : Nat} {bytes : Bytes} {all : List Arrival} {a : Arrival}
    (h : arrivals go n bytes = some all) (ha : Arrives go bytes a) : a ∈ all := by
  induction n generalizing bytes all with
  | zero => simp [arrivals] at h
  | succ n ih =>
    unfold arrivals at h
    cases ha with
    | here hread =>
      rw [hread] at h
      obtain ⟨rest, -, rfl⟩ := Option.map_eq_some_iff.mp h
      exact mem_cons_self
    | later hread hlater =>
      rw [hread] at h
      obtain ⟨rest, hrest, rfl⟩ := Option.map_eq_some_iff.mp h
      exact mem_cons_of_mem _ (ih hrest hlater)

/-! ## Injection -/

section

variable {go : GoStd} {sec : SecretEntry} {host : String}

/-- The secret's header is gone, or the proxy's. -/
lemma injected_secret (hsec : sec.Separate go) (req : Request) (cred : Credential) :
    (injectRequestWith go req sec cred).1.header.values go sec.header = [] ∨
      (injectRequestWith go req sec cred).1.header.values go sec.header =
        [sec.headerValueFor go cred.value] := by
  unfold injectRequestWith
  by_cases hclaim : sec.claimHeader ≠ ""
  · have hne : go.canonical sec.header ≠ go.canonical sec.claimHeader := (hsec.claim hclaim).2.symm
    rw [if_pos hclaim]
    split
    · left
      rw [Header.values_del, if_neg hne, Header.values_del, if_pos rfl]
    · split
      · left
        rw [Header.values_del, if_neg hne, Header.values_del, if_pos rfl]
      · right
        rw [Header.values_set, if_neg hne, Header.values_set, if_pos rfl]
  · rw [if_neg hclaim]
    split
    · left
      rw [Header.values_del, if_pos rfl]
    · right
      rw [Header.values_set, if_pos rfl]

variable {req : Request} {cred : Credential}

/-- The claim is that of the credential. -/
lemma injected_claim (hclaim : sec.claimHeader ≠ "")
    (h : (injectRequestWith go req sec cred).2 = true) :
    ∃ claim, jwtClaim go cred.value sec.claimPath = some claim ∧
      (injectRequestWith go req sec cred).1.header.values go sec.claimHeader = [claim] := by
  unfold injectRequestWith at h ⊢
  rw [if_pos hclaim] at h ⊢
  split at h
  · simp at h
  · rename_i hrequested
    rw [if_neg hrequested]
    split at h
    · simp at h
    · rename_i claim hjwt
      rw [hjwt]
      exact ⟨claim, rfl, by rw [Header.values_set, if_pos rfl]⟩

lemma injected_canonical (hgo : go.Documented) (h : req.header.Canonical go) (cred : Credential) :
    (injectRequestWith go req sec cred).1.header.Canonical go := by
  have hset : ∀ {h' : Header} (name value), h'.Canonical go → (h'.set go name value).Canonical go :=
    fun name value h' => h'.set hgo.canonical_idem name value
  unfold injectRequestWith
  dsimp only
  split
  · split
    · exact (h.del _).del _
    · split
      · exact (h.del _).del _
      · exact hset _ _ (hset _ _ ((h.del _).del _))
  · split
    · exact h.del _
    · exact hset _ _ (h.del _)

/-- Injection touches the header only. -/
lemma injected_rest (req : Request) (cred : Credential) :
    (injectRequestWith go req sec cred).1.host = req.host ∧
      (injectRequestWith go req sec cred).1.trailer = req.trailer := by
  unfold injectRequestWith
  dsimp only
  split
  · split
    · exact ⟨rfl, rfl⟩
    · split <;> exact ⟨rfl, rfl⟩
  · split <;> exact ⟨rfl, rfl⟩

variable {rawHeader : Bytes} {closing : Bool}

/-- What a request that is not denied has gone through. -/
lemma prepare_eq_some {req' : Request}
    (h : prepare go sec host rawHeader req cred = some (req', closing)) :
    credentialInTrailer go req sec = false ∧ req'.host = host ∧ req'.trailer = req.trailer ∧
      req'.header = (injectRequestWith go { req with host := host } sec cred).1.header ∧
      (sec.claimHeader ≠ "" →
        (injectRequestWith go { req with host := host } sec cred).2 = true) := by
  unfold prepare at h
  split at h
  · simp at h
  · dsimp only at h
    split at h
    · simp at h
    · split at h
      · simp at h
      · rename_i htrailer
        split at h
        · simp at h
        · rename_i hdenied
          obtain ⟨rfl, -⟩ := Prod.mk.inj (Option.some.inj h)
          obtain ⟨hhost, htrailers⟩ := injected_rest { req with host := host } cred
          refine ⟨by simpa [credentialInTrailer] using htrailer, hhost, htrailers, rfl,
            fun hclaim => ?_⟩
          by_contra hnot
          exact hdenied ⟨hclaim, by simpa using hnot⟩

/-! ## One request -/

/-- A declared field of the secret is denied. -/
lemma not_names_of_declared (hgo : go.Documented) (h : credentialInTrailer go req sec = false)
    {name : String} (hname : name ∈ req.trailer) : ¬sec.Names go name := by
  unfold credentialInTrailer at h
  rw [any_eq_false] at h
  rintro (heq | ⟨hclaim, heq⟩)
  · exact h name hname (by simp [hgo.equalFold_of_canonical _ _ heq])
  · exact h name hname (by simp [hgo.equalFold_of_canonical _ _ heq, hclaim])

variable {f : Forwarded} {a : Arrival}

/-- **One request.** What is forwarded of a request that does not smuggle is clean. -/
theorem clean_of_prepare (hgo : go.Documented) (hsec : sec.Separate go)
    (hcanonical : a.req.header.Canonical go) (hsmuggles : ¬Smuggles go sec a)
    (h : prepare go sec host rawHeader a.req cred = some (req, closing))
    (hfields : f.fields = go.fields req) (htrailer : ∀ x ∈ f.trailer, x ∈ go.trailers req a.sent) :
    Clean go sec host cred f := by
  obtain ⟨hdeclared, hhost, htrailers, hheader, hinjected⟩ := prepare_eq_some h
  have hreq : req.header.Canonical go := by
    rw [hheader]
    refine injected_canonical hgo ?_ cred
    exact hcanonical
  refine ⟨?_, fun hclaim => ?_, fun x hx => ?_, ?_⟩
  · rw [hfields, hgo.fields_header req _ hreq hsec.header, hheader]
    split_ifs
    · rcases injected_secret hsec { a.req with host := host } cred with hnone | hvalue
      · exact .inl (by rw [hnone]; rfl)
      · exact .inr (by rw [hvalue]; rfl)
    · exact .inl rfl
  · obtain ⟨claim, hjwt, hvalues⟩ := injected_claim hclaim (hinjected hclaim)
    rw [hfields, hgo.fields_header req _ hreq (hsec.claim hclaim).1, hheader, hvalues]
    split_ifs
    · exact .inr ⟨claim, hjwt, rfl⟩
    · exact .inl rfl
  · -- a field of the trailer section was declared, or the guest sent it
    rcases hgo.trailers_names req a.sent x (htrailer x hx) with hname | hname
    · rw [htrailers] at hname
      exact not_names_of_declared hgo hdeclared hname
    · intro hnames
      refine hsmuggles ⟨x.1, hname, hnames, fun hdecl => ?_⟩
      exact not_names_of_declared hgo hdeclared hdecl hnames
  · rw [hfields, hgo.fields_host, hhost]

variable {closeAfter : Bool}

/-- All that is forwarded in a turn is the request, with its trailer section or without. -/
lemma forwarded_of_forward {τ : Type} {t : Turn} {rest : τ}
    (h : .forwarded cred f ∈ (forward go t a req closeAfter rest).1) :
    cred = t.cred ∧ f.fields = go.fields req ∧ ∀ x ∈ f.trailer, x ∈ go.trailers req a.sent := by
  have hone : ∀ {trailer : List (String × String)}, (∀ x ∈ trailer, x ∈ go.trailers req a.sent) →
      Output.forwarded cred f = .forwarded t.cred ⟨go.fields req, trailer⟩ →
      cred = t.cred ∧ f.fields = go.fields req ∧ ∀ x ∈ f.trailer, x ∈ go.trailers req a.sent := by
    intro trailer htrailer heq
    obtain ⟨rfl, rfl⟩ := Output.forwarded.inj heq
    exact ⟨rfl, rfl, htrailer⟩
  unfold forward at h
  split at h
  · exact hone (by simp) (mem_singleton.mp h)
  · split at h
    · refine hone (fun x hx => ?_) (mem_singleton.mp h)
      split at hx
      · exact hx
      · simp at hx
    · split at h
      · exact hone (fun x hx => hx) (mem_singleton.mp h)
      · rcases mem_cons.mp h with h | h
        · exact hone (fun x hx => hx) h
        · split at h
          · exact absurd (mem_singleton.mp h) (by simp)
          · simp at h

/-! ## The connection -/

/-- A turn ends the connection before anything is forwarded, or forwards the request that stands
first in the bytes. -/
lemma turnBytes_cases (t : Turn) (bytes : Bytes) : turnBytes go sec host t bytes = ([], none) ∨
      ∃ header a req closeAfter, go.readRequest bytes = some a ∧
        prepare go sec host header a.req t.cred = some (req, closeAfter) ∧
        turnBytes go sec host t bytes = forward go t a req closeAfter (bytes.drop a.used) := by
  unfold turnBytes
  split
  · exact .inl rfl
  · split
    · rename_i header _
      split
      · exact .inl rfl
      · split
        · exact .inl rfl
        · rename_i a hread
          split
          · exact .inl rfl
          · split
            · exact .inl rfl
            · rename_i req closeAfter hprepare
              exact .inr ⟨header, a, req, closeAfter, hread, hprepare, rfl⟩
    · exact .inl rfl

/-- The stream a turn leaves is what follows its request. -/
lemma forward_rest {τ : Type} {t : Turn} {rest rest' : τ}
    (h : (forward go t a req closeAfter rest).2 = some rest') : rest' = rest := by
  unfold forward at h
  split at h
  · simp at h
  · split at h
    · simp at h
    · split at h
      · simp at h
      · dsimp only at h
        split at h
        · exact (Option.some.inj h).symm
        · simp at h

/-- All that is forwarded of bytes in which no request smuggles is clean. -/
lemma pumpBytes_clean (hgo : go.Documented) (hsec : sec.Separate go) (turns : List Turn)
    {bytes : Bytes} (hbytes : ∀ a, Arrives go bytes a → ¬Smuggles go sec a)
    (h : .forwarded cred f ∈ pumpBytes go sec host turns bytes) : Clean go sec host cred f := by
  unfold pumpBytes at h
  induction turns generalizing bytes with
  | nil => simp [pump] at h
  | cons t turns ih =>
    unfold pump at h
    rcases turnBytes_cases t bytes with hend | ⟨header, a, req, closeAfter, hread, hprepare, hturn⟩
    · rw [hend] at h
      simp at h
    · have hfirst : .forwarded cred f ∈ (forward go t a req closeAfter (bytes.drop a.used)).1 →
          Clean go sec host cred f := by
        intro hmem
        obtain ⟨rfl, hfields, htrailer⟩ := forwarded_of_forward hmem
        exact clean_of_prepare hgo hsec (hgo.header_canonical bytes a hread)
          (hbytes a (.here hread)) hprepare hfields htrailer
      rw [hturn] at h
      rcases hforward : forward go t a req closeAfter (bytes.drop a.used) with ⟨outputs, _ | rest⟩
      · rw [hforward] at h hfirst
        exact hfirst h
      · rw [hforward] at h hfirst
        rcases mem_append.mp h with h | h
        · exact hfirst h
        · obtain rfl := forward_rest (congrArg Prod.snd hforward)
          exact ih (fun a' ha' => hbytes a' (.later hread ha')) h

end

/-- **No guest smuggles its own credential through the proxy, trailers apart.** On a connection
whose requests send no field of the secret in a trailer section without declaring it, every
forwarded request is clean, however the bytes come in. -/
theorem forwarded_clean {σ : Type} (go : GoStd) (hgo : go.Documented) (R : Reader σ UInt8)
    (sec : SecretEntry) (hsec : sec.Separate go) (host : String) (guest : σ)
    (hguest : ∀ a, Arrives go (R.content guest) a → ¬Smuggles go sec a) (turns : List Turn) :
    ∀ cred f, .forwarded cred f ∈ swapPump go sec host R turns guest →
      Clean go sec host cred f := by
  intro cred f h
  rw [swapPump_eq] at h
  exact pumpBytes_clean hgo hsec turns hguest h

/-! ## Two connections -/

def bytesOf (s : String) : Bytes := s.toList.map fun c => UInt8.ofNat c.toNat

/-- `Authorization: Bearer …` -/
def bearer : SecretEntry := ⟨"Authorization", "Bearer ", "", "", "", false, []⟩

lemma bearer_separate : bearer.Separate Plain.http :=
  ⟨by decide, fun h => absurd rfl h⟩

/-- A turn in which the outside does all it is asked for. -/
def smooth : Turn := ⟨true, true, true, ⟨"grant", "real"⟩, true, false, [103, 200], true⟩

/-- Two requests with a credential of the guest, the second one with a trailer section, in
pieces. -/
def honestGuest : List Bytes :=
  [bytesOf "GET / HTTP/1.1\r\nHost: a.test\r\nauthori",
   bytesOf "zation: x\r\nAUTHORIZATION: \r\n\r\nPOST / HTTP/1.1\r\nHost: A.test\r\n",
   bytesOf "Transfer-Encoding: chunked\r\nTrailer: X\r\n\r\n1\r\na\r\n0\r\nX: y\r\n\r\n"]

/-- What it sends is forwarded, and clean. -/
theorem forwarded_clean_keepAlive :
    (swapPump Plain.http bearer "a.test" Reader.chunks [smooth, smooth] honestGuest).length = 2 ∧
      ∀ cred f, .forwarded cred f ∈
          swapPump Plain.http bearer "a.test" Reader.chunks [smooth, smooth] honestGuest →
        Clean Plain.http bearer "a.test" cred f := by
  refine ⟨by decide +kernel, forwarded_clean _ Plain.http_documented _ _ bearer_separate _ _ ?_ _⟩
  intro a ha
  have hnone : (arrivals Plain.http 3 (Reader.chunks.content honestGuest)).any
      (·.all fun a => !decide (Smuggles Plain.http bearer a)) = true := by
    decide +kernel
  obtain ⟨all, hall, hclean⟩ := (Option.any_eq_true _ _).mp hnone
  simpa using all_eq_true.mp hclean a (mem_arrivals hall ha)

/-- The guest declares one trailer field and sends another. -/
def smuggler : List Bytes :=
  [bytesOf "POST / HTTP/1.1\r\nHost: a.test\r\nTransfer-Encoding: chunked\r\n",
   bytesOf "Trailer: X\r\n\r\n0\r\nAuthorization: Bearer evil\r\n\r\n"]

/-- Its own credential is forwarded. -/
theorem credential_smuggled :
    .forwarded ⟨"grant", "real"⟩ ⟨[("Host", "a.test")], [("Authorization", "Bearer evil")]⟩ ∈
        swapPump Plain.http bearer "a.test" Reader.chunks [smooth] smuggler ∧
      ¬Clean Plain.http bearer "a.test" ⟨"grant", "real"⟩
        ⟨[("Host", "a.test")], [("Authorization", "Bearer evil")]⟩ := by
  refine ⟨by decide +kernel, fun h => ?_⟩
  exact h.trailer _ (mem_singleton.mpr rfl) (.inl rfl)

end Homelab.EgressProxy
