import Homelab.Noded.Store.Aead

/-!
# A sealed file is read back, and only that file

However a text is cut into pieces, the writer makes the frames of its chunks
(`sealPieces_eq`). What a reader has left to say is a string of bytes and an error, whatever the
buffers it is called with (`Yields`, `Yields.endsIn`). On the sealed stream that is the text and
`io.EOF`; on any other stream, under an ideal cipher, a part of the text and another error.

The index of a chunk is a 64-bit number, so the second half is for texts of up to `2 ^ 64` chunks:
beyond, chunk `2 ^ 64` is sealed as chunk `0` is, and the two can be exchanged
(`wrapped_index_spliced`).
-/

namespace Homelab.Noded

open Homelab.Lib List

/-! ## Nonces and associated data -/

lemma toNat_toUInt8_shiftRight (x : UInt64) {i : Nat} (hi : i < 8) :
    (x >>> UInt64.ofNat (8 * i)).toUInt8.toNat = x.toNat / 2 ^ (8 * i) % 256 := by
  have hlt : 8 * i < 64 := by omega
  have hmod : (UInt64.ofNat (8 * i)).toNat % 64 = 8 * i := by
    rw [UInt64.toNat_ofNat', Nat.mod_eq_of_lt (show 8 * i < 2 ^ 64 by omega),
      Nat.mod_eq_of_lt hlt]
  rw [UInt64.toNat_toUInt8, UInt64.toNat_shiftRight, hmod, Nat.shiftRight_eq_div_pow]

/-- A 64-bit number is its eight bytes. -/
lemma eq_of_bytes {x y : UInt64}
    (h : ∀ i < 8, (x >>> UInt64.ofNat (8 * i)).toUInt8 = (y >>> UInt64.ofNat (8 * i)).toUInt8) :
    x = y := by
  have hb : ∀ i < 8, x.toNat / 2 ^ (8 * i) % 256 = y.toNat / 2 ^ (8 * i) % 256 := by
    intro i hi
    rw [← toNat_toUInt8_shiftRight x hi, ← toNat_toUInt8_shiftRight y hi, h i hi]
  have hx := x.toNat_lt
  have hy := y.toNat_lt
  have h0 := hb 0 (by omega)
  have h1 := hb 1 (by omega)
  have h2 := hb 2 (by omega)
  have h3 := hb 3 (by omega)
  have h4 := hb 4 (by omega)
  have h5 := hb 5 (by omega)
  have h6 := hb 6 (by omega)
  have h7 := hb 7 (by omega)
  apply UInt64.toNat_inj.mp
  clear h hb
  norm_num at h0 h1 h2 h3 h4 h5 h6 h7
  omega

/-- The bytes of a nonce from the end, after the first `n` bytes of the index have gone in. -/
lemma getElem?_foldl_modify (base : Bytes) (index : UInt64) {n k : Nat} (hn : n ≤ base.length)
    (hk : k < base.length) :
    let nonce := (range n).foldl (fun nonce i => nonce.modify (nonce.length - 1 - i)
      (· ^^^ (index >>> UInt64.ofNat (8 * i)).toUInt8)) base
    nonce.length = base.length ∧
      nonce[base.length - 1 - k]? = base[base.length - 1 - k]?.map fun b =>
        if k < n then b ^^^ (index >>> UInt64.ofNat (8 * k)).toUInt8 else b := by
  induction n with
  | zero => simp
  | succ n ih =>
    obtain ⟨hlen, hget⟩ := ih (by omega)
    rw [range_succ, foldl_append, foldl_cons, foldl_nil]
    refine ⟨by rw [length_modify, hlen], ?_⟩
    rw [getElem?_modify, hlen, hget]
    rcases Nat.lt_trichotomy k n with h | rfl | h
    · simp [h, Nat.lt_succ_of_lt h, show base.length - 1 - n ≠ base.length - 1 - k by omega]
    · simp
    · simp [Nat.not_lt_of_lt h, show ¬ k < n + 1 by omega,
        show base.length - 1 - n ≠ base.length - 1 - k by omega]

lemma chunkNonce_inj {base : Bytes} (hbase : base.length = 12) {i j : UInt64}
    (h : chunkNonce base i = chunkNonce base j) : i = j := by
  apply eq_of_bytes
  intro k hk
  have hlt : k < base.length := by omega
  have hi := (getElem?_foldl_modify base i (n := 8) (by omega) hlt).2
  have hj := (getElem?_foldl_modify base j (n := 8) (by omega) hlt).2
  have heq := hi.symm.trans ((congrArg (·[base.length - 1 - k]?) h).trans hj)
  rw [getElem?_eq_getElem (by omega)] at heq
  simpa [hk] using heq

lemma chunkAAD_flag_inj {i j : UInt64} {a b : UInt8} (h : chunkAAD i a = chunkAAD j b) : a = b := by
  have := congrArg getLast? h
  simpa [chunkAAD] using this

/-! ## The frames of a text -/

/-- The flag of a chunk that the chunks `cs` follow. -/
def lastFlag : List Bytes → UInt8
  | [] => 1
  | _ :: _ => 0

/-- The call of `Seal` for chunk `i`. -/
def sealCall (nonce : Bytes) (i : Nat) (flag : UInt8) (c : Bytes) : Bytes × Bytes × Bytes :=
  (chunkNonce nonce (UInt64.ofNat i), c, chunkAAD (UInt64.ofNat i) flag)

/-- The frame of chunk `i`. -/
def sealedFrame (A : FileAead) (nonce : Bytes) (i : Nat) (flag : UInt8) (c : Bytes) : Bytes :=
  frame flag (A.seal (chunkNonce nonce (UInt64.ofNat i)) c (chunkAAD (UInt64.ofNat i) flag))

/-- The calls for the chunks `cs`, the first of which has index `i` and the last of which is
final. -/
def callsFrom (nonce : Bytes) : Nat → List Bytes → List (Bytes × Bytes × Bytes)
  | _, [] => []
  | i, c :: cs => sealCall nonce i (lastFlag cs) c :: callsFrom nonce (i + 1) cs

/-- Their frames. -/
def framesFrom (A : FileAead) (nonce : Bytes) : Nat → List Bytes → Bytes
  | _, [] => []
  | i, c :: cs => sealedFrame A nonce i (lastFlag cs) c ++ framesFrom A nonce (i + 1) cs

/-- The calls for chunks that more is to follow. -/
def openCalls (nonce : Bytes) (cs : List Bytes) : List (Bytes × Bytes × Bytes) :=
  cs.mapIdx fun i c => sealCall nonce i 0 c

/-- Their frames. -/
def openFrames (A : FileAead) (nonce : Bytes) (cs : List Bytes) : Bytes :=
  (cs.mapIdx fun i c => sealedFrame A nonce i 0 c).flatten

lemma callsFrom_append_singleton (nonce : Bytes) (i : Nat) (cs : List Bytes) (c : Bytes) :
    callsFrom nonce i (cs ++ [c]) =
      (cs.mapIdx fun j c => sealCall nonce (i + j) 0 c) ++
        [sealCall nonce (i + cs.length) 1 c] := by
  induction cs generalizing i with
  | nil => rfl
  | cons d cs ih =>
    have hflag : lastFlag (cs ++ [c]) = 0 := by cases cs <;> rfl
    rw [cons_append, callsFrom, hflag, ih, mapIdx_cons]
    simp [Nat.add_assoc, Nat.add_comm 1]

lemma framesFrom_append_singleton (A : FileAead) (nonce : Bytes) (i : Nat) (cs : List Bytes)
    (c : Bytes) : framesFrom A nonce i (cs ++ [c]) =
      (cs.mapIdx fun j c => sealedFrame A nonce (i + j) 0 c).flatten ++
        sealedFrame A nonce (i + cs.length) 1 c := by
  induction cs generalizing i with
  | nil => simp [framesFrom, lastFlag]
  | cons d cs ih =>
    have hflag : lastFlag (cs ++ [c]) = 0 := by cases cs <;> rfl
    rw [cons_append, framesFrom, hflag, ih, mapIdx_cons]
    simp [Nat.add_assoc, Nat.add_comm 1]

/-! ## The writer -/

/-- An open writer that has sealed the full chunks `cs` and holds back what follows them. -/
structure Wrote (A : FileAead) (nonce : Bytes) (w : SealWriter) (cs : List Bytes) : Prop where
  aead : w.aead = A
  base : w.nonce = nonce
  closed : w.closed = false
  index : w.index = UInt64.ofNat cs.length
  out : w.out = openFrames A nonce cs
  calls : w.calls = openCalls nonce cs
  full : ∀ c ∈ cs, c.length = fileChunkSize
  held : cs ≠ [] → w.buf ≠ []

section Writer

variable {A : FileAead} {nonce : Bytes} {w : SealWriter} {cs : List Bytes} (h : Wrote A nonce w cs)
include h

/-- One turn of the loop of `Write` on a piece that is not empty. -/
lemma Wrote.absorb {p : Bytes} (hp : p ≠ []) : ∃ cs', Wrote A nonce (w.flushFull.absorb p) cs' ∧
      cs'.flatten ++ (w.flushFull.absorb p).buf =
        cs.flatten ++ w.buf ++ p.take (min p.length (fileChunkSize - w.flushFull.buf.length)) := by
  have htake : p.take (min p.length (fileChunkSize - w.flushFull.buf.length)) ≠ [] := by
    have h₁ := w.length_flushFull_lt
    have h₂ := length_pos_of_ne_nil hp
    intro h
    have := congrArg length h
    rw [length_take, length_nil] at this
    omega
  have hbuf : (w.flushFull.absorb p).buf ≠ [] := fun h => htake (append_eq_nil_iff.mp h).2
  by_cases hfull : w.buf.length = fileChunkSize
  · have hflush : w.flushFull = w.writeFrame false := if_pos hfull
    refine ⟨cs ++ [w.buf], ?_, ?_⟩
    · rw [hflush] at hbuf ⊢
      exact
        { aead := h.aead
          base := h.base
          closed := h.closed
          index := by
            change w.index + 1 = _
            rw [h.index, length_append, length_singleton, UInt64.ofNat_add]
            rfl
          out := by
            change w.out ++ frame 0 _ = _
            rw [h.out, h.aead, h.base, h.index, openFrames, openFrames, mapIdx_append]
            simp [sealedFrame]
          calls := by
            change w.calls ++ [_] = _
            rw [h.calls, h.base, h.index, openCalls, openCalls, mapIdx_append]
            simp [sealCall]
          full := by
            intro c hc
            rcases mem_append.mp hc with hc | hc
            · exact h.full c hc
            · rw [mem_singleton.mp hc]
              exact hfull
          held := fun _ => hbuf }
    · rw [hflush, flatten_append, flatten_singleton]
      rfl
  · have hflush : w.flushFull = w := if_neg hfull
    rw [hflush] at hbuf ⊢
    refine ⟨cs, ⟨h.aead, h.base, h.closed, h.index, h.out, h.calls, h.full, fun _ => hbuf⟩, ?_⟩
    rw [append_assoc]
    rfl

lemma Wrote.writeLoop (p : Bytes) : ∃ cs', Wrote A nonce (w.writeLoop p) cs' ∧
      cs'.flatten ++ (w.writeLoop p).buf = cs.flatten ++ w.buf ++ p := by
  induction w, p using SealWriter.writeLoop.induct generalizing cs with
  | case1 w =>
    rw [SealWriter.writeLoop, dif_pos rfl, append_nil]
    exact ⟨cs, h, rfl⟩
  | case2 w p hp ih =>
    rw [SealWriter.writeLoop, dif_neg hp]
    obtain ⟨cs₁, h₁, hflat₁⟩ := h.absorb hp
    obtain ⟨cs₂, h₂, hflat₂⟩ := ih h₁
    refine ⟨cs₂, h₂, ?_⟩
    rw [hflat₂, hflat₁, append_assoc, take_append_drop]

lemma Wrote.pieces (pieces : List Bytes) :
    ∃ w' cs', pieces.foldlM SealWriter.write w = some w' ∧ Wrote A nonce w' cs' ∧
      cs'.flatten ++ w'.buf = cs.flatten ++ w.buf ++ pieces.flatten := by
  induction pieces generalizing w cs with
  | nil => exact ⟨w, cs, rfl, h, by simp⟩
  | cons p pieces ih =>
    obtain ⟨cs₁, h₁, hflat₁⟩ := h.writeLoop p
    obtain ⟨w', cs', hrun, h', hflat'⟩ := ih h₁
    refine ⟨w', cs', ?_, h', ?_⟩
    · have hwrite : w.write p = some (w.writeLoop p) := by simp [SealWriter.write, h.closed]
      rw [foldlM_cons, hwrite]
      exact hrun
    · rw [hflat', hflat₁, flatten_cons, append_assoc _ p]

lemma Wrote.chunks_eq : chunks fileChunkSize (cs.flatten ++ w.buf) = cs ++ [w.buf] := by
  rw [chunks_flatten_append (by decide) h.full h.held, chunks_of_le w.buf_le]

lemma Wrote.close : w.close.out = framesFrom A nonce 0 (cs ++ [w.buf]) ∧
      w.close.calls = callsFrom nonce 0 (cs ++ [w.buf]) := by
  have hclose : w.close = { w.writeFrame true with closed := true } := by
    simp [SealWriter.close, h.closed]
  constructor
  · rw [hclose, framesFrom_append_singleton]
    change w.out ++ frame 1 _ = _
    rw [h.out, h.aead, h.base, h.index]
    simp [openFrames, sealedFrame]
  · rw [hclose, callsFrom_append_singleton]
    change w.calls ++ [_] = _
    rw [h.calls, h.base, h.index]
    simp [openCalls, sealCall]

end Writer

/-- A writer for a key and a nonce of the right sizes. -/
def freshWriter (A : FileAead) (nonce : Bytes) : SealWriter :=
  { aead := A, nonce := nonce, buf_le := Nat.zero_le _ }

/-- However the text is cut into pieces, its chunks are sealed. -/
lemma sealPieces_eq (A : FileAead) (nonce : Bytes) (pieces : List Bytes) :
    ∃ w, sealPieces (freshWriter A nonce) pieces = some w ∧
      w.out = framesFrom A nonce 0 (chunks fileChunkSize pieces.flatten) ∧
      w.calls = callsFrom nonce 0 (chunks fileChunkSize pieces.flatten) := by
  have hfresh : Wrote A nonce (freshWriter A nonce) [] :=
    ⟨rfl, rfl, rfl, rfl, rfl, rfl, by simp, by simp⟩
  obtain ⟨w, cs, hrun, hw, hflat⟩ := hfresh.pieces pieces
  have htext : cs.flatten ++ w.buf = pieces.flatten := by simpa [freshWriter] using hflat
  refine ⟨w.close, by rw [sealPieces, hrun]; rfl, ?_⟩
  rw [← htext, hw.chunks_eq]
  exact hw.close

/-! ## Reading one frame -/

namespace OpenReader

variable {flag : UInt8}

lemma flag_le_one (h : ¬ 1 < flag) : flag = 0 ∨ flag = 1 := by
  have hle : flag.toNat ≤ 1 := UInt8.le_iff_toNat_le.mp (UInt8.not_lt.mp h)
  rcases Nat.le_one_iff_eq_zero_or_eq_one.mp hle with h | h
  · exact .inl (UInt8.toNat_inj.mp h)
  · exact .inr (UInt8.toNat_inj.mp h)

variable (r : OpenReader)

/-- A frame is recognised by its header. -/
lemma readFrame_frame {sealed rest : Bytes}
    (hinput : r.input = frame flag sealed ++ rest) (hflag : flag = 0 ∨ flag = 1)
    (hmin : gcmOverhead ≤ sealed.length) (hmax : sealed.length ≤ fileChunkSize + gcmOverhead) :
    r.readFrame = r.accept flag sealed rest := by
  have hlt : sealed.length < 256 ^ 4 := lt_of_le_of_lt hmax (by decide)
  have hlen : BigEndian.decode
      [UInt8.ofNat (sealed.length / 256 ^ 3), UInt8.ofNat (sealed.length / 256 ^ 2),
        UInt8.ofNat (sealed.length / 256 ^ 1), UInt8.ofNat (sealed.length / 256 ^ 0)] =
      sealed.length := BigEndian.decode_encode hlt
  have hone : ¬ 1 < flag := by
    rcases hflag with rfl | rfl <;> decide
  have hbody : ¬ (sealed ++ rest).length < sealed.length := by simp
  unfold readFrame
  rw [hinput]
  change (if 1 < flag then _ else if _ ∨ _ then _ else if _ then _ else _) = _
  rw [if_neg hone, hlen, if_neg (by omega)]
  change (if (sealed ++ rest).length < _ then _
    else r.accept flag ((sealed ++ rest).take _) ((sealed ++ rest).drop _)) = _
  rw [if_neg hbody, take_left, drop_left]

/-- A whole frame is there. -/
lemma eq_frame_of_header {header rest : Bytes} {n : Nat}
    (hheader : BigEndian.encode 4 n = header) (hn : n ≤ rest.length) :
    flag :: (header ++ rest) = frame flag (rest.take n) ++ rest.drop n := by
  rw [frame, length_take_of_le hn, hheader, append_assoc]
  simp

/-- What opening a frame can come to. -/
lemma accept_cases (flag : UInt8) (sealed rest : Bytes) :
    (∃ e, e ≠ .eof ∧ r.accept flag sealed rest = { r with input := rest, err := some e }) ∨
    ∃ plain,
      r.aead.open (chunkNonce r.nonce r.index) sealed (chunkAAD r.index flag) = some plain ∧
      (flag = 0 → plain.length = fileChunkSize) ∧ (flag = 1 → rest = []) ∧
      r.accept flag sealed rest = { r with
        input := rest, final := flag = 1, index := r.index + 1, plain := plain } := by
  unfold accept
  split
  next => exact .inl ⟨_, by simp, rfl⟩
  next plain hopen =>
    split_ifs with hlen htrail
    · exact .inl ⟨_, by simp, rfl⟩
    · exact .inl ⟨_, by simp, rfl⟩
    · refine .inr ⟨plain, hopen, ?_, ?_, rfl⟩
      · exact fun h => by_contra fun hne => hlen ⟨h, hne⟩
      · exact fun h => by_contra fun hne => htrail ⟨h, hne⟩

lemma accept_of_open {sealed rest plain : Bytes}
    (hopen : r.aead.open (chunkNonce r.nonce r.index) sealed (chunkAAD r.index flag) = some plain)
    (hfull : flag = 0 → plain.length = fileChunkSize) (hend : flag = 1 → rest = []) :
    r.accept flag sealed rest = { r with
      input := rest, final := flag = 1, index := r.index + 1, plain := plain } := by
  unfold accept
  rw [hopen]
  have h₁ : ¬ (flag = 0 ∧ plain.length ≠ fileChunkSize) := fun h => h.2 (hfull h.1)
  have h₂ : ¬ (flag = 1 ∧ rest ≠ []) := fun h => h.2 (hend h.1)
  simp only [if_neg h₁, if_neg h₂]

/-- What one frame can come to: an error that is not the end, or a plaintext that was opened. -/
lemma readFrame_cases :
    (∃ e input, e ≠ .eof ∧ r.readFrame = { r with input := input, err := some e }) ∨
    ∃ flag sealed rest plain, (flag = 0 ∨ flag = 1) ∧ r.input = frame flag sealed ++ rest ∧
      r.aead.open (chunkNonce r.nonce r.index) sealed (chunkAAD r.index flag) = some plain ∧
      (flag = 0 → plain.length = fileChunkSize) ∧ (flag = 1 → rest = []) ∧
      r.readFrame = { r with
        input := rest, final := flag = 1, index := r.index + 1, plain := plain } := by
  unfold readFrame
  split
  next => exact .inl ⟨_, _, by simp, rfl⟩
  next flag b₀ b₁ b₂ b₃ rest hinput =>
    dsimp only
    split_ifs with hflag hbound hbody
    · exact .inl ⟨_, _, by simp, rfl⟩
    · exact .inl ⟨_, _, by simp, rfl⟩
    · exact .inl ⟨_, _, by simp, rfl⟩
    · rcases r.accept_cases flag (rest.take (BigEndian.decode [b₀, b₁, b₂, b₃]))
        (rest.drop (BigEndian.decode [b₀, b₁, b₂, b₃])) with ⟨e, he, heq⟩ | ⟨plain, h⟩
      · exact .inl ⟨e, _, he, heq⟩
      · exact .inr ⟨flag, _, _, plain, flag_le_one hflag,
          hinput.trans (eq_frame_of_header (BigEndian.encode_decode [b₀, b₁, b₂, b₃])
            (Nat.le_of_not_lt hbody)), h⟩
  next => exact .inl ⟨_, _, by simp, rfl⟩

variable {r : OpenReader}

lemma length_readFrame_lt (h : r.readFrame.err = none) :
    r.readFrame.input.length < r.input.length := by
  rcases r.readFrame_cases with ⟨e, input, -, heq⟩ |
    ⟨flag, sealed, rest, plain, -, hin, -, -, -, heq⟩
  · rw [heq] at h
    cases h
  · rw [heq, hin]
    simp [frame]
    omega

/-! ## What a reader has left to say -/

/-- The reader returns the bytes of `Q` and then the error `e`. -/
inductive Yields : OpenReader → Bytes → ReadError → Prop where
  | failed {r : OpenReader} {e : ReadError} : r.plain = [] → r.err = some e → Yields r [] e
  | ended {r : OpenReader} : r.plain = [] → r.err = none → r.final = true → Yields r [] .eof
  | frame {r : OpenReader} {Q : Bytes} {e : ReadError} : r.plain = [] → r.err = none →
      r.final = false → Yields r.readFrame Q e → Yields r Q e
  | plain {r : OpenReader} {Q : Bytes} {e : ReadError} : r.plain ≠ [] →
      Yields { r with plain := [] } Q e → Yields r (r.plain ++ Q) e

variable {e : ReadError} {Q : Bytes} (h : Yields r Q e)
include h

/-- The loop of `Read` stops with something to return, and loses nothing. -/
lemma Yields.fill {fuel : Nat} (hfuel : r.err = none → r.input.length < fuel) :
    Yields (OpenReader.fill (fuel + 1) r) Q e ∧ ((OpenReader.fill (fuel + 1) r).plain ≠ [] ∨
      (OpenReader.fill (fuel + 1) r).err ≠ none) := by
  induction h generalizing fuel with
  | @failed r e hplain herr =>
    have hfill : OpenReader.fill (fuel + 1) r = r := by simp [OpenReader.fill, herr]
    rw [hfill]
    exact ⟨.failed hplain herr, .inr (by simp [herr])⟩
  | @ended r hplain herr hfinal =>
    have hfill : OpenReader.fill (fuel + 1) r = { r with err := some .eof } := by
      simp [OpenReader.fill, hplain, herr, hfinal]
    rw [hfill]
    exact ⟨.failed hplain rfl, .inr (by simp)⟩
  | @frame r Q e hplain herr hfinal h ih =>
    have hfill : OpenReader.fill (fuel + 1) r = OpenReader.fill fuel r.readFrame := by
      simp [OpenReader.fill, hplain, herr, hfinal]
    have hfuel := hfuel herr
    obtain ⟨fuel, rfl⟩ := Nat.exists_eq_succ_of_ne_zero (Nat.ne_zero_of_lt hfuel)
    rw [hfill]
    apply ih
    intro hnone
    have := length_readFrame_lt hnone
    omega
  | @plain r Q e hplain h =>
    have hfill : OpenReader.fill (fuel + 1) r = r := by simp [OpenReader.fill, hplain]
    rw [hfill]
    exact ⟨.plain hplain h, .inl hplain⟩

/-- A call with a buffer of some size returns the next bytes, or the error when none are left. -/
lemma Yields.read {n : Nat} (hn : 0 < n) :
    (∃ b Q' r', b ≠ [] ∧ Q = b ++ Q' ∧ r.read n = ((b, none), r') ∧ Yields r' Q' e) ∨
    ∃ r', Q = [] ∧ r.read n = (([], some e), r') ∧ Yields r' [] e := by
  obtain ⟨hyields, hstop⟩ := h.fill fun _ => Nat.lt_succ_self r.input.length
  unfold OpenReader.read
  rw [if_neg hn.ne']
  generalize OpenReader.fill (r.input.length + 2) r = s at hyields hstop
  cases hyields with
  | failed hplain herr =>
    refine .inr ⟨s, rfl, ?_, .failed hplain herr⟩
    simp [hplain, herr]
  | ended hplain herr | frame hplain herr => simp [hplain, herr] at hstop
  | @plain _ Q e hplain h =>
    have hb : s.plain.take n ≠ [] := by
      simp [hn.ne', hplain]
    refine .inl ⟨s.plain.take n, s.plain.drop n ++ Q, _, hb, ?_, if_pos hplain, ?_⟩
    · rw [← append_assoc, take_append_drop]
    · by_cases hdrop : s.plain.drop n = []
      · rw [hdrop, nil_append]
        exact h
      · exact .plain (r := { s with plain := s.plain.drop n }) hdrop h

/-- Whatever buffers it is called with, the reader returns the bytes of `Q` in order and then the
error `e`, and it gets there when it is called often enough. -/
structure EndsIn (r : OpenReader) (Q : Bytes) (e : ReadError) : Prop where
  bytes : ∀ ns, ((r.reads ns).map (·.1)).flatten <+: Q
  error : ∀ ns i b e', (r.reads ns)[i]? = some (b, some e') →
    e' = e ∧ b = [] ∧ (((r.reads ns).take i).map (·.1)).flatten = Q
  ends : ∀ ns, Q.length < (ns.filter (0 < ·)).length → ([], some e) ∈ r.reads ns

lemma Yields.bytes (ns : List Nat) : ((r.reads ns).map (·.1)).flatten <+: Q := by
  induction ns generalizing r Q with
  | nil => simp [reads]
  | cons n ns ih =>
    rcases Nat.eq_zero_or_pos n with rfl | hn
    · exact ih h
    · rcases h.read hn with ⟨b, Q', r', -, rfl, hread, h'⟩ | ⟨r', rfl, hread, h'⟩
      · simp only [reads, hread, map_cons, flatten_cons, prefix_append_right_inj]
        exact ih h'
      · simp only [reads, hread, map_cons, flatten_cons, nil_append]
        exact ih h'

lemma Yields.error (ns : List Nat) {i : Nat} {b : Bytes} {e' : ReadError}
    (hi : (r.reads ns)[i]? = some (b, some e')) :
    e' = e ∧ b = [] ∧ (((r.reads ns).take i).map (·.1)).flatten = Q := by
  induction ns generalizing r Q i with
  | nil => simp [reads] at hi
  | cons n ns ih =>
    rcases Nat.eq_zero_or_pos n with rfl | hn
    · cases i with
      | zero => simp [reads, OpenReader.read] at hi
      | succ i => exact ih h hi
    · rcases h.read hn with ⟨c, Q', r', -, rfl, hread, h'⟩ | ⟨r', rfl, hread, h'⟩
      · simp only [reads, hread] at hi ⊢
        cases i with
        | zero => simp at hi
        | succ i =>
          obtain ⟨he, hb, hflat⟩ := ih h' hi
          refine ⟨he, hb, ?_⟩
          rw [take_succ_cons, map_cons, flatten_cons, hflat]
      · simp only [reads, hread] at hi ⊢
        cases i with
        | zero =>
          simp only [getElem?_cons_zero, Option.some.injEq, Prod.mk.injEq] at hi
          exact ⟨hi.2.symm, hi.1.symm, by simp⟩
        | succ i =>
          obtain ⟨he, hb, hflat⟩ := ih h' hi
          refine ⟨he, hb, ?_⟩
          rw [take_succ_cons, map_cons, flatten_cons, hflat, nil_append]

lemma Yields.ends (ns : List Nat) (hns : Q.length < (ns.filter (0 < ·)).length) :
    ([], some e) ∈ r.reads ns := by
  induction ns generalizing r Q with
  | nil => simp at hns
  | cons n ns ih =>
    rcases Nat.eq_zero_or_pos n with rfl | hn
    · exact mem_cons_of_mem _ (ih h (by simpa using hns))
    · rcases h.read hn with ⟨c, Q', r', hc, rfl, hread, h'⟩ | ⟨r', rfl, hread, h'⟩
      · simp only [reads, hread]
        refine mem_cons_of_mem _ (ih h' ?_)
        have hpos := length_pos_of_ne_nil hc
        simp only [hn, filter_cons, decide_true, if_true, length_cons,
          length_append] at hns
        omega
      · simp only [reads, hread]
        exact mem_cons_self

lemma Yields.endsIn : r.EndsIn Q e :=
  ⟨h.bytes, fun ns _ _ _ hi => h.error ns hi, h.ends⟩

end OpenReader

/-! ## Reading the sealed stream, and any other -/

/-- The cipher opens what it sealed. -/
def FileAead.Correct (A : FileAead) : Prop :=
  ∀ n p a, A.open n (A.seal n p a) a = some p

/-- The cipher opens only what was sealed by the calls given. -/
def FileAead.Ideal (A : FileAead) (calls : List (Bytes × Bytes × Bytes)) : Prop :=
  ∀ n c a p, A.open n c a = some p → (n, p, a) ∈ calls ∧ c = A.seal n p a

/-- A reader about to read frame `i`. -/
def readerAt (A : FileAead) (nonce : Bytes) (i : Nat) (input : Bytes) : OpenReader :=
  { aead := A, nonce := nonce, input := input, index := UInt64.ofNat i }

lemma lastFlag_eq_one {cs : List Bytes} : lastFlag cs = 1 ↔ cs = [] := by
  cases cs <;> simp [lastFlag]

lemma lastFlag_cases (cs : List Bytes) : lastFlag cs = 0 ∨ lastFlag cs = 1 := by
  cases cs <;> simp [lastFlag]

section Reader

open OpenReader

variable {A : FileAead} {nonce : Bytes} {cs : List Bytes} {i : Nat}

/-- A reader that has just opened the plaintext `c`, with `cs` to come. -/
lemma Yields.of_plain {c : Bytes} {input Q : Bytes} {e : ReadError}
    (hlast : cs = [] → Q = [] ∧ e = .eof)
    (hmore : cs ≠ [] → c ≠ [] ∧ Yields (readerAt A nonce (i + 1) input) Q e) :
    Yields { aead := A, nonce := nonce, input := input, index := UInt64.ofNat i + 1, plain := c,
             final := lastFlag cs = 1 } (c ++ Q) e := by
  have hnext : UInt64.ofNat i + 1 = UInt64.ofNat (i + 1) := by rw [UInt64.ofNat_add]; rfl
  rcases eq_or_ne cs [] with rfl | hcs
  · obtain ⟨rfl, rfl⟩ := hlast rfl
    have hended : ∀ r : OpenReader, r.plain = [] → r.err = none → r.final = true →
        Yields r [] .eof := fun r => .ended
    by_cases hc : c = []
    · subst hc
      exact hended _ rfl rfl (by simp [lastFlag])
    · exact .plain hc (hended _ rfl rfl (by simp [lastFlag]))
  · obtain ⟨hc, h⟩ := hmore hcs
    refine .plain hc ?_
    have hflag : decide (lastFlag cs = 1) = false := by
      simp [lastFlag_eq_one, hcs]
    rw [hflag, hnext]
    exact h

/-- A stream of frames that all open is read to its end. -/
lemma yields_framesFrom (hne : cs ≠ []) (hcs : Chunked fileChunkSize cs)
    (hopen : ∀ n p a, (n, p, a) ∈ callsFrom nonce i cs → A.open n (A.seal n p a) a = some p) :
    Yields (readerAt A nonce i (framesFrom A nonce i cs)) cs.flatten .eof := by
  induction cs generalizing i with
  | nil => exact absurd rfl hne
  | cons c cs ih =>
    obtain ⟨hle, hfull, hcs⟩ := hcs
    have hlen := A.length_seal (chunkNonce nonce (UInt64.ofNat i)) c
      (chunkAAD (UInt64.ofNat i) (lastFlag cs))
    have hframe := (readerAt A nonce i (framesFrom A nonce i (c :: cs))).readFrame_frame rfl
      (lastFlag_cases cs) (by omega) (by omega)
    have haccept := (readerAt A nonce i (framesFrom A nonce i (c :: cs))).accept_of_open
      (hopen _ _ _ mem_cons_self)
      (fun hflag => hfull fun h => by simp [h, lastFlag] at hflag)
      (show lastFlag cs = 1 → framesFrom A nonce (i + 1) cs = [] from
        fun hflag => by rw [lastFlag_eq_one.mp hflag]; rfl)
    refine .frame rfl rfl rfl ?_
    rw [hframe.trans haccept, flatten_cons]
    apply Yields.of_plain
    · rintro rfl
      exact ⟨rfl, rfl⟩
    · intro hcs'
      refine ⟨?_, ih hcs' hcs fun n p a h => hopen n p a (mem_cons_of_mem _ h)⟩
      intro hc
      have := hfull hcs'
      rw [hc] at this
      exact absurd this (by decide)

lemma mem_callsFrom {x : Bytes × Bytes × Bytes} (h : x ∈ callsFrom nonce i cs) :
    ∃ pre c rest, cs = pre ++ c :: rest ∧
      x = sealCall nonce (i + pre.length) (lastFlag rest) c := by
  induction cs generalizing i with
  | nil => simp [callsFrom] at h
  | cons c cs ih =>
    rcases mem_cons.mp h with rfl | h
    · exact ⟨[], c, cs, rfl, rfl⟩
    · obtain ⟨pre, d, rest, rfl, rfl⟩ := ih h
      exact ⟨c :: pre, d, rest, rfl, by rw [length_cons, Nat.add_right_comm, Nat.add_assoc]⟩

/-- What opens at the place of a chunk is that chunk, under its own flag. -/
lemma open_at_index (hnonce : nonce.length = 12) {all pre : List Bytes} {c plain sealed : Bytes}
    {flag : UInt8} (hA : A.Ideal (callsFrom nonce 0 all)) (hall : all.length ≤ 2 ^ 64)
    (hsplit : all = pre ++ c :: cs)
    (hopen : A.open (chunkNonce nonce (UInt64.ofNat pre.length)) sealed
      (chunkAAD (UInt64.ofNat pre.length) flag) = some plain) :
    plain = c ∧ flag = lastFlag cs ∧
      frame flag sealed = sealedFrame A nonce pre.length (lastFlag cs) c := by
  obtain ⟨hmem, rfl⟩ := hA _ _ _ _ hopen
  obtain ⟨pre', c', cs', hsplit', heq⟩ := mem_callsFrom hmem
  simp only [sealCall, Nat.zero_add, Prod.mk.injEq] at heq
  obtain ⟨hn, rfl, ha⟩ := heq
  have hindex := congrArg UInt64.toNat (chunkNonce_inj hnonce hn)
  have hlt : pre.length < 2 ^ 64 := by
    rw [hsplit, length_append, length_cons] at hall
    omega
  have hlt' : pre'.length < 2 ^ 64 := by
    rw [hsplit', length_append, length_cons] at hall
    omega
  rw [UInt64.toNat_ofNat', UInt64.toNat_ofNat', Nat.mod_eq_of_lt hlt,
    Nat.mod_eq_of_lt hlt'] at hindex
  obtain ⟨rfl, htail⟩ := append_inj (hsplit.symm.trans hsplit') hindex
  obtain ⟨rfl, rfl⟩ := cons.inj htail
  obtain rfl := chunkAAD_flag_inj ha
  exact ⟨rfl, rfl, rfl⟩

/-- Whatever stream is read, what comes out is a part of the text, and its end is reached only on
the sealed stream. -/
lemma yields_of_ideal (hnonce : nonce.length = 12) {all : List Bytes}
    (hA : A.Ideal (callsFrom nonce 0 all)) (hall : all.length ≤ 2 ^ 64) {pre : List Bytes}
    (hsplit : all = pre ++ cs) (hne : cs ≠ []) (input : Bytes) :
    ∃ Q e, Yields (readerAt A nonce pre.length input) Q e ∧ Q <+: cs.flatten ∧
      (e = .eof → input = framesFrom A nonce pre.length cs) := by
  induction cs generalizing pre input with
  | nil => exact absurd rfl hne
  | cons c cs ih =>
    rcases (readerAt A nonce pre.length input).readFrame_cases with
      ⟨e, rest, he, hread⟩ | ⟨flag, sealed, rest, plain, -, hinput, hopen, hfull, hend, hread⟩
    · have hyields : Yields (readerAt A nonce pre.length input) [] e := by
        refine .frame rfl rfl rfl ?_
        rw [hread]
        exact .failed rfl rfl
      exact ⟨[], e, hyields, nil_prefix, fun h => absurd h he⟩
    · obtain ⟨rfl, rfl, hframe⟩ := open_at_index hnonce hA hall hsplit hopen
      have hinput : input = frame (lastFlag cs) sealed ++ rest := hinput
      rcases eq_or_ne cs [] with rfl | hcs
      · refine ⟨plain ++ [], .eof, .frame rfl rfl rfl ?_, by simp, fun _ => ?_⟩
        · rw [hread]
          exact Yields.of_plain (fun _ => ⟨rfl, rfl⟩) fun h => absurd rfl h
        · rw [hinput, hframe, hend rfl]
          rfl
      · obtain ⟨Q, e, hQ, hpre, heof⟩ :=
          ih (show all = (pre ++ [plain]) ++ cs by simp [hsplit]) hcs rest
        rw [length_append, length_singleton] at hQ heof
        have hplain : plain ≠ [] := by
          intro h
          have hflag : lastFlag cs = 0 :=
            (lastFlag_cases cs).resolve_right fun h => hcs (lastFlag_eq_one.mp h)
          have := hfull hflag
          rw [h] at this
          exact absurd this (by decide)
        refine ⟨plain ++ Q, e, .frame rfl rfl rfl ?_, ?_, fun h => ?_⟩
        · rw [hread]
          exact Yields.of_plain (fun h => absurd h hcs) fun _ => ⟨hplain, hQ⟩
        · rw [flatten_cons]
          exact (prefix_append_right_inj _).mpr hpre
        · rw [hinput, hframe, heof h]
          rfl

end Reader

/-! ## The framing -/

variable {nonce : Bytes} {gcm : Bytes → FileAead} {key : Bytes}

lemma newSealWriter_eq (hkey : key.length = 32) (hnonce : nonce.length = 12) :
    newSealWriter gcm key nonce = .ok (freshWriter (gcm key) nonce) := by
  simp [newSealWriter, newFileAEAD, hkey, hnonce, Except.map, freshWriter]

lemma newOpenReader_eq (stream : Bytes) (hkey : key.length = 32) (hnonce : nonce.length = 12) :
    newOpenReader gcm stream key nonce = .ok (readerAt (gcm key) nonce 0 stream) := by
  simp [newOpenReader, newFileAEAD, hkey, hnonce, Except.map, readerAt]

/-- The stream a writer under this key and nonce makes of the pieces, with the calls it makes. -/
def sealFile (gcm : Bytes → FileAead) (key nonce : Bytes) (pieces : List Bytes) :
    Option SealWriter :=
  match newSealWriter gcm key nonce with
  | .error _ => none
  | .ok w => sealPieces w pieces

lemma sealFile_eq (gcm : Bytes → FileAead) (hkey : key.length = 32) (hnonce : nonce.length = 12)
    (pieces : List Bytes) : ∃ w, sealFile gcm key nonce pieces = some w ∧
      w.out = framesFrom (gcm key) nonce 0 (chunks fileChunkSize pieces.flatten) ∧
      w.calls = callsFrom nonce 0 (chunks fileChunkSize pieces.flatten) := by
  obtain ⟨w, hw, hout⟩ := sealPieces_eq (gcm key) nonce pieces
  refine ⟨w, ?_, hout⟩
  unfold sealFile
  rw [newSealWriter_eq hkey hnonce]
  exact hw

/-- The framing is exact: the sealed stream is read back as the text and then `io.EOF`. Under an
ideal cipher it shows tampering: of every other stream a part of the text is read, and then an
error that is not `io.EOF`. No two indices share a nonce. -/
theorem sealed_stream_read_back (gcm : Bytes → FileAead) {key nonce : Bytes}
    (hkey : key.length = 32) (hnonce : nonce.length = 12) :
    (∀ pieces, ∃ w, sealFile gcm key nonce pieces = some w ∧
      ((gcm key).Correct →
        ∃ r, newOpenReader gcm w.out key nonce = .ok r ∧ r.EndsIn pieces.flatten .eof) ∧
      ((gcm key).Ideal w.calls → pieces.flatten.length ≤ 2 ^ 64 * fileChunkSize →
        ∀ stream, stream ≠ w.out →
          ∃ r Q e, newOpenReader gcm stream key nonce = .ok r ∧ r.EndsIn Q e ∧ e ≠ .eof ∧
            Q <+: pieces.flatten)) ∧
    ∀ i j, i ≠ j → chunkNonce nonce i ≠ chunkNonce nonce j := by
  refine ⟨fun pieces => ?_, fun i j hne h => hne (chunkNonce_inj hnonce h)⟩
  obtain ⟨w, hw, hout, hcalls⟩ := sealFile_eq gcm hkey hnonce pieces
  have hchunks := chunks_ne_nil fileChunkSize pieces.flatten
  refine ⟨w, hw, fun hcorrect => ?_, fun hideal hlen stream hstream => ?_⟩
  · refine ⟨_, newOpenReader_eq w.out hkey hnonce, ?_⟩
    have hyields := yields_framesFrom hchunks (chunked_chunks (by decide) _)
      fun n p a (_ : (n, p, a) ∈ callsFrom nonce 0 _) => hcorrect n p a
    rw [flatten_chunks, ← hout] at hyields
    exact hyields.endsIn
  · rw [hcalls] at hideal
    have hcount := length_chunks_le (by decide) hlen
    obtain ⟨Q, e, hyields, hQ, heof⟩ :=
      yields_of_ideal hnonce hideal hcount (nil_append _).symm hchunks stream
    refine ⟨_, Q, e, newOpenReader_eq stream hkey hnonce, hyields.endsIn, ?_, ?_⟩
    · exact fun he => hstream ((heof he).trans hout.symm)
    · rwa [flatten_chunks] at hQ

/-- A cipher without secrets that opens exactly what the calls given sealed. -/
def listedAead (calls : List (Bytes × Bytes × Bytes)) : FileAead where
  «seal» _ p _ := p ++ replicate gcmOverhead 0
  «open» n c a :=
    let p := c.take (c.length - gcmOverhead)
    if (n, p, a) ∈ calls ∧ c = p ++ replicate gcmOverhead 0 then some p else none
  length_seal n p a := by simp

lemma listedAead_open {calls : List (Bytes × Bytes × Bytes)} {n p a : Bytes}
    (h : (n, p, a) ∈ calls) :
    (listedAead calls).open n ((listedAead calls).seal n p a) a = some p := by
  have htake : (p ++ replicate gcmOverhead (0 : UInt8)).take
      ((p ++ replicate gcmOverhead (0 : UInt8)).length - gcmOverhead) = p := by simp
  simp only [listedAead, htake, and_true]
  exact if_pos h

lemma listedAead_ideal (calls : List (Bytes × Bytes × Bytes)) : (listedAead calls).Ideal calls := by
  intro n c a p h
  simp only [listedAead] at h
  split_ifs at h with hc
  obtain rfl := Option.some.inj h
  exact hc

/-- The two ciphers of the theorem exist: one that opens whatever has a tag, and the listed one. -/
theorem sealed_stream_read_back_three_bytes :
    (∃ w r, sealFile (fun _ => ⟨fun _ p _ => p ++ replicate gcmOverhead 0,
          fun _ c _ => some (c.take (c.length - gcmOverhead)), by simp⟩)
        (replicate 32 0) (replicate 12 0) [[1, 2], [3]] = some w ∧
      newOpenReader (fun _ => ⟨fun _ p _ => p ++ replicate gcmOverhead 0,
          fun _ c _ => some (c.take (c.length - gcmOverhead)), by simp⟩) w.out
        (replicate 32 0) (replicate 12 0) = .ok r ∧ r.EndsIn [1, 2, 3] .eof) ∧
    ∃ w r Q e,
      sealFile (fun _ => listedAead (callsFrom (replicate 12 0) 0 [[1, 2, 3]]))
        (replicate 32 0) (replicate 12 0) [[1, 2], [3]] = some w ∧
      newOpenReader (fun _ => listedAead (callsFrom (replicate 12 0) 0 [[1, 2, 3]])) []
        (replicate 32 0) (replicate 12 0) = .ok r ∧
      r.EndsIn Q e ∧ e ≠ .eof ∧ Q <+: [1, 2, 3] := by
  have hchunks : chunks fileChunkSize [[1, 2], [(3 : UInt8)]].flatten = [[1, 2, 3]] :=
    chunks_of_le (by decide)
  constructor
  · obtain ⟨w, hw, hexact, -⟩ := (sealed_stream_read_back
      (fun _ => ⟨fun _ p _ => p ++ replicate gcmOverhead 0,
        fun _ c _ => some (c.take (c.length - gcmOverhead)), by simp⟩)
      (show (replicate 32 (0 : UInt8)).length = 32 from rfl)
      (show (replicate 12 (0 : UInt8)).length = 12 from rfl)).1 [[1, 2], [3]]
    obtain ⟨r, hr, hends⟩ := hexact fun n p a => by simp
    exact ⟨w, r, hw, hr, hends⟩
  · have hfile := sealFile_eq
      (fun _ => listedAead (callsFrom (replicate 12 0) 0 [[1, 2, 3]]))
      (show (replicate 32 (0 : UInt8)).length = 32 from rfl)
      (show (replicate 12 (0 : UInt8)).length = 12 from rfl) [[1, 2], [3]]
    obtain ⟨w, hw, -, htamper⟩ := (sealed_stream_read_back
      (fun _ => listedAead (callsFrom (replicate 12 0) 0 [[1, 2, 3]]))
      (show (replicate 32 (0 : UInt8)).length = 32 from rfl)
      (show (replicate 12 (0 : UInt8)).length = 12 from rfl)).1 [[1, 2], [3]]
    obtain ⟨w', hw', hout, hcalls⟩ := hfile
    obtain rfl : w = w' := Option.some.inj (hw.symm.trans hw')
    rw [hchunks] at hout hcalls
    have hideal : (listedAead (callsFrom (replicate 12 0) 0 [[1, 2, 3]])).Ideal w.calls := by
      rw [hcalls]
      exact listedAead_ideal _
    have hne : [] ≠ w.out := by
      rw [hout]
      simp [framesFrom, sealedFrame, frame]
    obtain ⟨r, Q, e, hr, hends, he, hQ⟩ := htamper hideal (by decide) [] hne
    exact ⟨w, r, Q, e, hw, hr, hends, he, hQ⟩

lemma OpenReader.EndsIn.unique {r : OpenReader} {Q Q' : Bytes} {e e' : ReadError}
    (h : r.EndsIn Q e) (h' : r.EndsIn Q' e') : Q = Q' := by
  obtain ⟨i, hi⟩ := getElem?_of_mem
    (h.ends (replicate (Q.length + 1) 1) (by simp))
  exact (h.error _ i _ _ hi).2.2.symm.trans (h'.error _ i _ _ hi).2.2

section Wrapped

/-- A chunk of one byte throughout. -/
def plainChunk (b : UInt8) : Bytes := replicate fileChunkSize b

/-- A chunk of the byte `b`, then `n` chunks of ones and a one. -/
def wrappedPieces (n : Nat) (b : UInt8) : List Bytes :=
  (plainChunk b :: replicate n (plainChunk 1)) ++ [[1]]

lemma chunks_wrappedPieces (n : Nat) (b : UInt8) :
    chunks fileChunkSize (wrappedPieces n b).flatten = wrappedPieces n b := by
  unfold wrappedPieces
  rw [flatten_append, flatten_singleton, chunks_flatten_append (by decide) _ (by simp),
    chunks_of_le (by decide)]
  intro c hc
  rcases mem_cons.mp hc with rfl | hc
  · exact length_replicate
  · rw [eq_of_mem_replicate hc]
    exact length_replicate

lemma head?_flatten_wrappedPieces (n : Nat) (b : UInt8) :
    (wrappedPieces n b).flatten.head? = some b := by
  rfl

variable {n : Nat}

/-- When the index has come round, a chunk is sealed by the call that seals chunk `0`. -/
lemma callsFrom_wrappedPieces (nonce : Bytes) (hpos : 0 < n)
    (hn : UInt64.ofNat n = UInt64.ofNat 0) :
    callsFrom nonce 0 (wrappedPieces n 1) ⊆ callsFrom nonce 0 (wrappedPieces n 0) := by
  have hwrap : sealCall nonce 0 0 (plainChunk 1) ∈
      callsFrom nonce 1 (replicate n (plainChunk 1) ++ [[1]]) := by
    rw [callsFrom_append_singleton]
    refine mem_append_left _ (mem_mapIdx.mpr ⟨n - 1, by simp [hpos], ?_⟩)
    rw [getElem_replicate, sealCall, sealCall, Nat.add_sub_cancel' hpos, hn]
  have hflag : lastFlag (replicate n (plainChunk 1) ++ [[1]]) = 0 :=
    (lastFlag_cases _).resolve_right fun h => by simp [lastFlag_eq_one] at h
  intro x hx
  unfold wrappedPieces at hx ⊢
  rw [cons_append, callsFrom, mem_cons, hflag] at hx
  rw [cons_append, callsFrom, mem_cons]
  rcases hx with rfl | hx
  · exact .inr hwrap
  · exact .inr hx

/-- A stream whose calls are all listed is read to its end. -/
lemma endsIn_wrappedPieces {calls : List (Bytes × Bytes × Bytes)} {b : UInt8}
    (hsub : callsFrom nonce 0 (wrappedPieces n b) ⊆ calls) : (readerAt (listedAead calls) nonce 0
      (framesFrom (listedAead calls) nonce 0 (wrappedPieces n b))).EndsIn
      (wrappedPieces n b).flatten .eof := by
  apply OpenReader.Yields.endsIn
  apply yields_framesFrom
  · rw [← chunks_wrappedPieces]
    exact chunks_ne_nil _ _
  · rw [← chunks_wrappedPieces]
    exact chunked_chunks (by decide) _
  · exact fun m p a h => listedAead_open (hsub h)

lemma not_prefix_wrappedPieces (n : Nat) :
    ¬ (wrappedPieces n 1).flatten <+: (wrappedPieces n 0).flatten := by
  rintro ⟨rest, hrest⟩
  have hhead := congrArg head? hrest
  rw [head?_append, head?_flatten_wrappedPieces, head?_flatten_wrappedPieces] at hhead
  rw [Option.some_or] at hhead
  exact absurd hhead (by decide)

/-- After `n` chunks the index is the first again: a later chunk can take the place of the first,
and the stream is still read to its end. -/
lemma spliced_of_index_wraps (hpos : 0 < n) (hn : UInt64.ofNat n = UInt64.ofNat 0) :
    ∃ (gcm : Bytes → FileAead) (key nonce : Bytes) (pieces : List Bytes) (w : SealWriter)
      (stream : Bytes) (r : OpenReader) (Q : Bytes),
      key.length = 32 ∧ nonce.length = 12 ∧ sealFile gcm key nonce pieces = some w ∧
      (gcm key).Ideal w.calls ∧ stream ≠ w.out ∧ newOpenReader gcm stream key nonce = .ok r ∧
      r.EndsIn Q .eof ∧ ¬ Q <+: pieces.flatten := by
  have hkey : (replicate 32 (0 : UInt8)).length = 32 := length_replicate
  obtain ⟨nonce, hnonce⟩ : ∃ nonce : Bytes, nonce.length = 12 :=
    ⟨replicate 12 0, length_replicate⟩
  obtain ⟨w, hw, hout, hcalls⟩ := sealFile_eq
    (fun _ => listedAead (callsFrom nonce 0 (wrappedPieces n 0))) hkey hnonce
    (wrappedPieces n 0)
  rw [chunks_wrappedPieces] at hout hcalls
  have hspliced := endsIn_wrappedPieces (callsFrom_wrappedPieces nonce hpos hn)
  refine ⟨_, _, nonce, wrappedPieces n 0, w, _, _, _, hkey, hnonce, hw, ?_, ?_,
    newOpenReader_eq _ hkey hnonce, hspliced, not_prefix_wrappedPieces n⟩
  · rw [hcalls]
    exact listedAead_ideal _
  · intro hstream
    have hsealed := endsIn_wrappedPieces (List.Subset.refl (callsFrom nonce 0 (wrappedPieces n 0)))
    rw [← hout, ← hstream] at hsealed
    have hdiffer := not_prefix_wrappedPieces n
    rw [hspliced.unique hsealed] at hdiffer
    exact hdiffer prefix_rfl

/-- The index of a chunk is a 64-bit number: a text of more than `2 ^ 64` chunks can be spliced. -/
theorem wrapped_index_spliced :
    ∃ (gcm : Bytes → FileAead) (key nonce : Bytes) (pieces : List Bytes) (w : SealWriter)
      (stream : Bytes) (r : OpenReader) (Q : Bytes),
      key.length = 32 ∧ nonce.length = 12 ∧ sealFile gcm key nonce pieces = some w ∧
      (gcm key).Ideal w.calls ∧ stream ≠ w.out ∧ newOpenReader gcm stream key nonce = .ok r ∧
      r.EndsIn Q .eof ∧ ¬ Q <+: pieces.flatten :=
  spliced_of_index_wraps (Nat.pow_pos (n := 64) Nat.zero_lt_two) (by decide)

end Wrapped

end Homelab.Noded
