import Homelab.EgressProxy.Smuggling

/-!
# Framing

All requests of a connection come out of one stream. At the start of every turn the stream holds
what the guest sent without the requests that were parsed, and the header that is read of it ends at
its first empty line (`framing_exact`).
-/

namespace Homelab.EgressProxy

open Homelab.Lib

/-! ## The first empty line -/

/-- The bytes end in an empty line: at their start, or after a line feed, there is another line feed
with at most a carriage return between. -/
def EndsBlank (bytes : Bytes) : Prop :=
  [10, 10] <:+ 10 :: bytes ∨ [10, 13, 10] <:+ 10 :: bytes

/-- The header is the start of the bytes up to their first empty line. -/
structure FirstBlank (header bytes : Bytes) : Prop where
  starts : header <+: bytes
  blank : EndsBlank header
  first : ∀ start, start <+: header → EndsBlank start → start = header

instance (bytes : Bytes) : Decidable (EndsBlank bytes) := inferInstanceAs (Decidable (_ ∨ _))

/-- A line that is put after whole lines is empty if the text then ends in an empty line. -/
lemma endsBlank_line {lines body : Bytes} (hlines : [10] <:+ 10 :: lines) (hbody : 10 ∉ body)
    (h : EndsBlank (lines ++ body ++ [10])) : body = [] ∨ body = [13] := by
  obtain ⟨init, hinit⟩ := hlines
  unfold EndsBlank at h
  rw [← List.cons_append, ← List.cons_append, ← hinit, ← List.reverse_prefix,
    ← List.reverse_prefix] at h
  rcases body.eq_nil_or_concat with rfl | ⟨before, last, rfl⟩
  · exact .inl rfl
  · rw [List.concat_eq_append, List.mem_append, List.mem_singleton, not_or] at hbody
    rcases before.eq_nil_or_concat with rfl | ⟨before, last', rfl⟩
    · simp [List.cons_prefix_cons, hbody.2] at h
      simp [h]
    · simp [List.cons_prefix_cons, hbody.2] at h hbody
      exact absurd h.2 hbody.2

/-- No text within a line ends in an empty line, but for those before the line. -/
lemma eq_of_endsBlank {lines body start : Bytes}
    (hnone : ∀ start, start <+: lines → ¬EndsBlank start) (hbody : 10 ∉ body)
    (hstart : start <+: lines ++ body ++ [10]) (hblank : EndsBlank start) :
    start = lines ++ body ++ [10] := by
  refine (List.prefix_concat_iff.mp hstart).resolve_right fun hwithin => ?_
  rcases List.prefix_or_prefix_of_prefix hwithin (List.prefix_append lines body) with
    hbefore | ⟨part, rfl⟩
  · exact hnone start hbefore hblank
  · rcases part.eq_nil_or_concat with rfl | ⟨before, last, rfl⟩
    · exact hnone _ (by simp) hblank
    · -- the text ends in a byte of the line
      have hmem : last ∈ body := ((List.prefix_append_right_inj lines).mp hwithin).subset (by simp)
      have hlast : 10 = last := by
        unfold EndsBlank at hblank
        rw [← List.reverse_prefix, ← List.reverse_prefix] at hblank
        simp only [List.reverse_cons, List.reverse_append, List.concat_eq_append, List.reverse_nil,
          List.nil_append, List.cons_append, List.cons_prefix_cons] at hblank
        exact hblank.elim And.left And.left
      exact hbody (hlast ▸ hmem)

lemma headerOf_first {fuel : Nat} {lines rest header : Bytes} (hlines : [10] <:+ 10 :: lines)
    (hnone : ∀ start, start <+: lines → ¬EndsBlank start)
    (h : (readHeader (sliceOf bufferSize 10) fuel lines 0 rest).1 = .header header) :
    EndsBlank header ∧ ∀ start, start <+: header → EndsBlank start → start = header := by
  induction fuel generalizing lines rest with
  | zero => simp [readHeader] at h
  | succ fuel ih =>
    unfold readHeader at h
    dsimp only at h
    split_ifs at h with hlarge
    rcases sliceOf_cases bufferSize 10 rest with
      ⟨body, hbody, hslice⟩ | ⟨_, hlong, hslice⟩ | hslice
    · rw [hslice] at h
      dsimp only at h
      have hfirst : ∀ start, start <+: lines ++ (body ++ [10]) → EndsBlank start →
          start = lines ++ (body ++ [10]) := by
        rw [← List.append_assoc]
        exact fun start => eq_of_endsBlank hnone hbody
      split_ifs at h with hblank
      · obtain rfl := HeaderRead.header.inj h
        refine ⟨?_, hfirst⟩
        obtain ⟨init, hinit⟩ := hlines
        rcases hblank.2 with hline | hline
        · exact .inr ⟨init, by rw [hline, ← List.cons_append, ← hinit]; simp⟩
        · exact .inl ⟨init, by rw [hline, ← List.cons_append, ← hinit]; simp⟩
      · refine ih ⟨10 :: lines ++ body, by simp⟩ (fun start hstart hends => hblank ⟨rfl, ?_⟩) h
        obtain rfl := hfirst start hstart hends
        rw [← List.append_assoc] at hends
        rcases endsBlank_line hlines hbody hends with rfl | rfl
        · exact .inr rfl
        · exact .inl rfl
    · -- a line longer than the buffer is too large for a header
      rw [hslice] at hlarge
      simp only [Slice.items, hlong, bufferSize] at hlarge
      omega
    · rw [hslice] at h
      cases h

/-! ## The stream between requests -/

/-- The bytes of the first requests that stand one after the other, and what follows them. -/
def parsed (go : GoStd) : Nat → Bytes → Option (List Bytes × Bytes)
  | 0, bytes => some ([], bytes)
  | n + 1, bytes => do
    let a ← go.readRequest bytes
    let (requests, rest) ← parsed go n (bytes.drop a.used)
    some (bytes.take a.used :: requests, rest)

lemma flatten_parsed {go : GoStd} {n : Nat} {bytes rest : Bytes} {requests : List Bytes}
    (h : parsed go n bytes = some (requests, rest)) : requests.flatten ++ rest = bytes := by
  induction n generalizing bytes requests with
  | zero =>
    cases h
    rfl
  | succ n ih =>
    simp only [parsed, Option.bind_eq_bind, Option.bind_eq_some_iff] at h
    obtain ⟨a, -, ⟨later, rest'⟩, hlater, heq⟩ := h
    obtain ⟨rfl, rfl⟩ := Prod.mk.inj (Option.some.inj heq)
    rw [List.flatten_cons, List.append_assoc, ih hlater, List.take_append_drop]

/-- The streams at the start of the turns of a connection. -/
def streams {τ : Type} (step : Turn → τ → List Output × Option τ) : List Turn → τ → List τ
  | [], s => [s]
  | t :: turns, s => s :: ((step t s).2.map (streams step turns)).getD []

section

variable {σ : Type} {R : Reader σ UInt8} {go : GoStd} {sec : SecretEntry} {host : String}

/-- A turn that the connection survives takes one request off the stream. -/
lemma turn_content {t : Turn} {s s' : Replay σ} (h : (turn go sec host R t s).2 = some s') :
    ∃ a, go.readRequest (s.content R) = some a ∧ s'.content R = (s.content R).drop a.used := by
  have hbytes : (turnBytes go sec host t (s.content R)).2 = some (s'.content R) := by
    rw [← turn_eq, h]
    rfl
  have hcases : turnBytes go sec host t (s.content R) = ([], none) ∨ _ :=
    turnBytes_cases t (s.content R)
  rcases hcases with hend | ⟨header, a, req, closeAfter, hread, -, hturn⟩
  · rw [hend] at hbytes
    cases hbytes
  · rw [hturn] at hbytes
    exact ⟨a, hread, forward_rest hbytes⟩

lemma parsed_streams {turns : List Turn} {i : Nat} {start s : Replay σ}
    (h : (streams (turn go sec host R) turns start)[i]? = some s) :
    ∃ requests, parsed go i (start.content R) = some (requests, s.content R) := by
  induction turns generalizing i start with
  | nil =>
    obtain ⟨rfl, rfl⟩ : i = 0 ∧ start = s := by
      simpa [streams] using List.getElem?_eq_some_iff.mp h
    exact ⟨[], rfl⟩
  | cons t turns ih =>
    cases i with
    | zero =>
      obtain rfl : start = s := by simpa [streams] using h
      exact ⟨[], rfl⟩
    | succ i =>
      rw [streams, List.getElem?_cons_succ] at h
      rcases hturn : (turn go sec host R t start).2 with _ | next
      · rw [hturn] at h
        simp at h
      · rw [hturn] at h
        obtain ⟨a, hread, hnext⟩ := turn_content hturn
        obtain ⟨requests, hparsed⟩ := ih h
        refine ⟨(start.content R).take a.used :: requests, ?_⟩
        rw [hnext] at hparsed
        simp [parsed, hread, hparsed]

end

/-- **Keep-alive loses no byte.** However the bytes of the guest come in, at the start of turn `i`
the stream holds what follows the first `i` requests, these and the stream are all that the guest
sent, in order, and a header that is read ends at the first empty line of the stream. -/
theorem framing_exact {σ : Type} (go : GoStd) (R : Reader σ UInt8) (sec : SecretEntry)
    (host : String) (guest : σ) (turns : List Turn) (i : Nat) (s : Replay σ)
    (h : (streams (turn go sec host R) turns ⟨[], guest⟩)[i]? = some s) :
    (∃ requests, parsed go i (R.content guest) = some (requests, s.content R) ∧
      requests.flatten ++ s.content R = R.content guest) ∧
    ∀ header, (readRequestHeader R ⟨[], s⟩).1 = .header header →
      FirstBlank header (s.content R) := by
  obtain ⟨requests, hparsed⟩ := parsed_streams h
  refine ⟨⟨requests, hparsed, flatten_parsed hparsed⟩, fun header hheader => ?_⟩
  have hread : (headerOf (s.content R)).1 = .header header := by
    rw [← readRequestHeader_eq, hheader]
  have hnone : ∀ start, start <+: [] → ¬EndsBlank start := by
    intro start hstart
    rw [List.prefix_nil.mp hstart]
    decide
  obtain ⟨hblank, hfirst⟩ := headerOf_first (List.suffix_refl _) hnone hread
  exact ⟨⟨_, headerOf_append hread⟩, hblank, hfirst⟩

/-- The second request of a guest whose pieces end within requests. -/
theorem framing_exact_second :
    ∃ s, (streams (turn Plain.http bearer "a.test" Reader.chunks) [smooth, smooth]
        ⟨[], honestGuest⟩)[1]? = some s ∧
      ∃ requests : List Bytes,
        requests.flatten ++ s.content Reader.chunks = Reader.chunks.content honestGuest := by
  obtain ⟨s, hs⟩ : ∃ s, (streams (turn Plain.http bearer "a.test" Reader.chunks) [smooth, smooth]
      ⟨[], honestGuest⟩)[1]? = some s := Option.isSome_iff_exists.mp (by decide +kernel)
  obtain ⟨⟨requests, -, hall⟩, -⟩ :=
    framing_exact Plain.http Reader.chunks bearer "a.test" honestGuest [smooth, smooth] 1 s hs
  exact ⟨s, hs, requests, hall⟩

end Homelab.EgressProxy
