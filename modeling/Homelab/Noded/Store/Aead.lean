import Homelab.Lib.Framing

/-!
# Encrypted files

`aead.go`: a file is sealed as a stream of frames, one for each chunk of 64 KiB, each encrypted
under the file's key with a nonce and associated data made from the chunk's index. The last chunk is
marked final.

* AES-256-GCM is an argument: what it makes of a key is a `FileAead`. A stream is a string of bytes
  that can be read to its end and written without an error of its own.
* `SealWriter` carries the bound on its buffer, so that its loop makes progress. `calls` is a
  history of what was sealed; the writer does not read it. Sources without a file name are in
  `aead.go`.
-/

namespace Homelab.Noded

open Homelab.Lib

abbrev Bytes := List UInt8

/-- Source: `fileChunkSize` -/
def fileChunkSize : Nat := 64 <<< 10

/-- The bytes of `"embervm-file-v1"`.
Source: `fileAADLabel` -/
def fileAADLabel : Bytes :=
  [0x65, 0x6d, 0x62, 0x65, 0x72, 0x76, 0x6d, 0x2d, 0x66, 0x69, 0x6c, 0x65, 0x2d, 0x76, 0x31]

/-- The size of GCM's tag, by which a ciphertext is longer than its plaintext. -/
def gcmOverhead : Nat := 16

/-- A cipher under one key: a nonce, a plaintext and associated data to a ciphertext, and back. -/
structure FileAead where
  «seal» : Bytes → Bytes → Bytes → Bytes
  «open» : Bytes → Bytes → Bytes → Option Bytes
  length_seal : ∀ n p a, («seal» n p a).length = p.length + gcmOverhead

inductive AeadError where
  | keyLength (n : Nat)
  | nonceLength (n : Nat)
  deriving DecidableEq, Repr

/-- Source: `newFileAEAD` -/
def newFileAEAD (gcm : Bytes → FileAead) (key baseNonce : Bytes) : Except AeadError FileAead :=
  if key.length ≠ 32 then .error (.keyLength key.length)
  else if baseNonce.length ≠ 12 then .error (.nonceLength baseNonce.length)
  else .ok (gcm key)

/-- The index goes into the low 64 bits of the nonce, the last byte first.
Source: `chunkNonce` -/
def chunkNonce (base : Bytes) (index : UInt64) : Bytes :=
  (List.range 8).foldl
    (fun nonce i => nonce.modify (nonce.length - 1 - i)
      (· ^^^ (index >>> UInt64.ofNat (8 * i)).toUInt8)) base

/-- Source: `chunkAAD` -/
def chunkAAD (index : UInt64) (flag : UInt8) : Bytes :=
  fileAADLabel ++ BigEndian.encode 8 index.toNat ++ [flag]

/-! ## Writing -/

/-- Source: `sealWriter` -/
structure SealWriter where
  aead : FileAead
  nonce : Bytes
  /-- What has gone to the underlying writer. -/
  out : Bytes := []
  buf : Bytes := []
  index : UInt64 := 0
  closed : Bool := false
  /-- Nonce, plaintext and associated data of every call of `Seal` so far. -/
  calls : List (Bytes × Bytes × Bytes) := []
  buf_le : buf.length ≤ fileChunkSize

/-- `flag || length || ciphertext`. -/
def frame (flag : UInt8) (sealed : Bytes) : Bytes :=
  flag :: BigEndian.encode 4 sealed.length ++ sealed

/-- Source: `newSealWriter` -/
def newSealWriter (gcm : Bytes → FileAead) (key baseNonce : Bytes) : Except AeadError SealWriter :=
  (newFileAEAD gcm key baseNonce).map fun aead =>
    { aead := aead, nonce := baseNonce, buf_le := Nat.zero_le _ }

namespace SealWriter

variable (w : SealWriter) (p : Bytes)

/-- Source: `sealWriter.writeFrame` -/
def writeFrame (final : Bool) : SealWriter :=
  let flag : UInt8 := if final then 1 else 0
  let nonce := chunkNonce w.nonce w.index
  let aad := chunkAAD w.index flag
  { w with
    out := w.out ++ frame flag (w.aead.seal nonce w.buf aad)
    buf := []
    index := w.index + 1
    calls := w.calls ++ [(nonce, w.buf, aad)]
    buf_le := Nat.zero_le _ }

/-- The test at the head of the loop of `Write`. -/
def flushFull : SealWriter :=
  if w.buf.length = fileChunkSize then w.writeFrame false else w

lemma length_flushFull_lt : w.flushFull.buf.length < fileChunkSize := by
  unfold flushFull
  split_ifs with h
  · exact Nat.pos_of_ne_zero (by decide)
  · exact lt_of_le_of_ne w.buf_le h

lemma length_append_take_le :
    (w.buf ++ p.take (min p.length (fileChunkSize - w.buf.length))).length ≤ fileChunkSize := by
  have := w.buf_le
  rw [List.length_append, List.length_take]
  omega

/-- As much of `p` as the buffer has room for. -/
def absorb : SealWriter :=
  { w with
    buf := w.buf ++ p.take (min p.length (fileChunkSize - w.buf.length))
    buf_le := w.length_append_take_le p }

lemma length_drop_lt {p : Bytes} (hp : p ≠ []) :
    (p.drop (min p.length (fileChunkSize - w.flushFull.buf.length))).length < p.length := by
  have h₁ := w.length_flushFull_lt
  have h₂ := List.length_pos_of_ne_nil hp
  rw [List.length_drop]
  omega

/-- The loop of `Write`. -/
def writeLoop (w : SealWriter) (p : Bytes) : SealWriter :=
  if _h : p = [] then w
  else
    (w.flushFull.absorb p).writeLoop
      (p.drop (min p.length (fileChunkSize - w.flushFull.buf.length)))
termination_by p.length
decreasing_by exact w.length_drop_lt _h

/-- `none`: write to closed seal writer.
Source: `sealWriter.Write` -/
def write : Option SealWriter :=
  if w.closed then none else some (w.writeLoop p)

/-- Source: `sealWriter.Close` -/
def close : SealWriter :=
  if w.closed then w else { w.writeFrame true with closed := true }

end SealWriter

/-- Writes the pieces one after the other and closes. -/
def sealPieces (w : SealWriter) (pieces : List Bytes) : Option SealWriter :=
  (pieces.foldlM SealWriter.write w).map SealWriter.close

/-! ## Reading -/

/-- Source: `openReader.readFrame`; `eof` is `io.EOF` itself -/
inductive ReadError where
  | eof
  | aead (e : AeadError)
  | missingFinalFrame
  | header
  | finalFlag (flag : UInt8)
  | frameLength (n : Nat)
  | body
  | authenticate (index : UInt64)
  | plaintextLength (index : UInt64) (n : Nat)
  | trailingBytes
  deriving DecidableEq, Repr

/-- Source: `openReader` -/
structure OpenReader where
  aead : FileAead
  nonce : Bytes
  /-- What is left of the underlying stream. -/
  input : Bytes
  index : UInt64 := 0
  plain : Bytes := []
  final : Bool := false
  err : Option ReadError := none

/-- Source: `newOpenReader` -/
def newOpenReader (gcm : Bytes → FileAead) (stream key baseNonce : Bytes) :
    Except AeadError OpenReader :=
  (newFileAEAD gcm key baseNonce).map fun aead =>
    { aead := aead, nonce := baseNonce, input := stream }

namespace OpenReader

/-- The rest of `readFrame` once a whole frame is there and `rest` follows it. -/
def accept (r : OpenReader) (flag : UInt8) (sealed rest : Bytes) : OpenReader :=
  match r.aead.open (chunkNonce r.nonce r.index) sealed (chunkAAD r.index flag) with
  | none => { r with input := rest, err := some (.authenticate r.index) }
  | some plain =>
    if flag = 0 ∧ plain.length ≠ fileChunkSize then
      { r with input := rest, err := some (.plaintextLength r.index plain.length) }
    else if flag = 1 ∧ rest ≠ [] then { r with input := rest, err := some .trailingBytes }
    else
      { r with
        input := rest
        final := flag = 1
        index := r.index + 1
        plain := plain }

/-- Source: `openReader.readFrame` -/
def readFrame (r : OpenReader) : OpenReader :=
  match r.input with
  | [] => { r with err := some .missingFinalFrame }
  | flag :: b₀ :: b₁ :: b₂ :: b₃ :: rest =>
    if 1 < flag then { r with input := rest, err := some (.finalFlag flag) }
    else
      let sealedLen := BigEndian.decode [b₀, b₁, b₂, b₃]
      if sealedLen < gcmOverhead ∨ fileChunkSize + gcmOverhead < sealedLen then
        { r with input := rest, err := some (.frameLength sealedLen) }
      else if rest.length < sealedLen then { r with input := [], err := some .body }
      else r.accept flag (rest.take sealedLen) (rest.drop sealedLen)
  | _ => { r with input := [], err := some .header }

/-- The loop of `Read`: frames until there is something to return. -/
def fill : Nat → OpenReader → OpenReader
  | 0, r => r
  | fuel + 1, r =>
    if r.plain ≠ [] ∨ r.err ≠ none then r
    else if r.final then { r with err := some .eof }
    else fill fuel r.readFrame

/-- A call with a buffer of `n` bytes: the bytes put there, the error and the reader after it. A
frame takes something off the stream, so the loop ends within the number of turns given.
Source: `openReader.Read` -/
def read (r : OpenReader) (n : Nat) : (Bytes × Option ReadError) × OpenReader :=
  if n = 0 then (([], none), r)
  else
    let r := fill (r.input.length + 2) r
    if r.plain ≠ [] then ((r.plain.take n, none), { r with plain := r.plain.drop n })
    else (([], r.err), r)

/-- What a sequence of calls returns, with buffers of the given sizes. -/
def reads : OpenReader → List Nat → List (Bytes × Option ReadError)
  | _, [] => []
  | r, n :: ns => (r.read n).1 :: (r.read n).2.reads ns

end OpenReader

end Homelab.Noded
