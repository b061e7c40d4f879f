import Mathlib.Algebra.Group.Nat.Defs
import Homelab.Lib.Aead
import Homelab.Lib.Run
import Homelab.Embervm.OpLog.Tasks

/-!
# The key service

`Embervm.KeyService`: the custodian of the keys that wrap data keys. Per principal it keeps two
numbers, the current epoch and the floor below which nothing is unwrapped any more; the key of an
epoch is derived from a root on demand.

* `KeyEpochs` is the op-log's side: the table `key_epochs` and the projection of the two ops.
* `KekRoots` is the root configuration as the application builds it from its environment: a current
  root, and during a rotation a previous one under another generation.
* A handler is a function of the service and of what it reads from outside: the clock and failure of
  its append, random bytes, the answers of a customer's KMS. The cryptography is an argument
  (`KeyCrypto`): an AEAD, and key derivation by any functions at all.
* `KeyCall` is one call or a restart, possibly with another configuration; `step` runs it.

Telemetry is left out. `wrap`, `unwrap` and `rewrap` ask the server for the custody of the principal
and then act; they change nothing, and are one step each here.
Sources without a file name are in `key_service.ex`.
-/

namespace Homelab.Embervm

open Homelab.Lib
open Homelab.Embervm.OpLog

/-! ## The op-log's side -/

namespace OpLog

/-- The kind of a key op, with its payload.
Source: `append_epoch_set/4` and `append_min_epoch_raised/4` -/
inductive KeyOpKind where
  | keyEpochSet (epoch : Nat) (reason : String)
  | keyMinEpochRaised (minEpoch : Nat) (reason : String)
  deriving DecidableEq, Repr

/-- A key op. -/
structure KeyOp where
  kind : KeyOpKind
  principal : String
  ts : Int
  deriving DecidableEq, Repr

/-- A row of `key_epochs`; the principal is its key. -/
structure KeyEpochRow where
  currentEpoch : Nat
  minEpoch : Nat
  updatedAt : Int
  deriving DecidableEq, Repr

/-- The table `key_epochs`. -/
abbrev KeyEpochs := Table String KeyEpochRow

/-- An epoch is upserted, with floor 0 in a new row; a floor is set in the row the principal has.
Source: `sqlite.ex`, `project/3`, the key kinds -/
def KeyEpochs.project (t : KeyEpochs) (op : KeyOp) : KeyEpochs :=
  match op.kind with
  | .keyEpochSet epoch _ =>
    match t.lookup op.principal with
    | none => t.insert op.principal ⟨epoch, 0, op.ts⟩
    | some row => t.insert op.principal { row with currentEpoch := epoch, updatedAt := op.ts }
  | .keyMinEpochRaised minEpoch _ =>
    t.update op.principal fun row => { row with minEpoch := minEpoch, updatedAt := op.ts }

/-- Source: `sqlite.ex`, `do_append/2` -/
def KeyEpochs.append (t : KeyEpochs) (op : KeyOp) (fault : Option AppendFault) :
    Except (OpLogError × KeyEpochs) KeyEpochs :=
  answered t (.ok (t.project op)) fault

end OpLog

/-! ## Configuration -/

/-- The roots keys are derived from, as the application configures them.
Source: `application.ex`, `kek_roots/0` -/
structure KekRoots (ρ : Type) where
  current : Option ρ
  generation : Nat
  /-- The generation and root before the last rotation. -/
  previous : Option (Nat × ρ)
  generation_pos : 0 < generation
  previous_pos : ∀ p ∈ previous, 0 < p.1
  /-- A previous root requires a current one. -/
  current_of_previous : previous.isSome = true → current.isSome = true
  /-- The two have different generations. -/
  previous_ne : ∀ p ∈ previous, p.1 ≠ generation

/-- The root of a generation.
Source: `fetch_root/2` -/
def KekRoots.fetchRoot {ρ : Type} (roots : KekRoots ρ) (generation : Nat) : Option ρ :=
  if generation = roots.generation then roots.current
  else (roots.previous.filter fun p => p.1 = generation).map Prod.snd

/-- Who holds the key that wraps a principal's data keys. -/
inductive KeyCustody where
  | platform
  | customer
  deriving DecidableEq, Repr

/-- The custody configuration of a principal. -/
structure CustomerKms where
  mode : KeyCustody
  transitionFrom : Option KeyCustody
  keyRef : String
  deriving DecidableEq, Repr

/-- Source: `customer_mode?/1` -/
def customerMode : Option CustomerKms → Bool
  | none => false
  | some config => config.mode = .customer

/-- Source: `unwrap/2` and `platform_envelope_allowed?/1` -/
def platformEnvelopeAllowed : Option CustomerKms → Bool
  | none => true
  | some config => !(customerMode (some config)) || config.transitionFrom = some .platform

/-- Source: `customer_envelope_allowed?/1` -/
def customerEnvelopeAllowed (config : CustomerKms) : Bool :=
  customerMode (some config) || config.transitionFrom = some .customer

/-- The options a service starts with. -/
structure KeyConfig (ρ : Type) where
  roots : KekRoots ρ
  customerKms : Table String CustomerKms

/-! ## Keys and envelopes -/

/-- Source: `@max_epoch` -/
def maxEpoch : Nat := 18446744073709551615

/-- Source: `@kek_size` -/
def kekSize : Nat := 32

/-- Source: `@nonce_size` -/
def nonceSize : Nat := 12

/-- Source: `@tag_size` -/
def tagSize : Nat := 16

/-- A binary. -/
abbrev Bytes := List UInt8

/-- An unsigned number in `width` bytes, the most significant first. -/
def unsigned (width n : Nat) : Bytes :=
  (List.range width).map fun i => UInt8.ofNat (n / 256 ^ (width - 1 - i))

/-- The bytes of a principal. -/
def binary (principal : String) : Bytes := principal.toUTF8.data.toList

/-- Source: `info/2` -/
def info (principal : String) (epoch : Nat) : Bytes :=
  unsigned 4 principal.utf8ByteSize ++ binary principal ++ unsigned 8 epoch

/-- What is bound into an envelope besides the key: its version decides the form.
Source: `envelope_aad/4` -/
def envelopeAad (version : Nat) (principal : String) (epoch generation : Nat) : Bytes :=
  if version = 1 then info principal epoch
  else
    [3] ++ unsigned 8 generation ++ unsigned 4 principal.utf8ByteSize ++ binary principal ++
      unsigned 8 epoch

/-- The cryptography the service calls: roots `ρ`, derived keys `κ`, ciphertexts `χ`, tags `τ`. -/
structure KeyCrypto (ρ κ χ τ : Type) where
  aead : Aead κ Bytes χ τ
  /-- A text is as long as its list of bytes. -/
  size_eq : ∀ b, aead.size b = b.length
  /-- Tags are made with `@tag_size`. -/
  tagLength_eq : aead.tagLength = tagSize
  /-- Source: `hkdf/2` -/
  hkdf : ρ → Bytes → κ
  /-- The two MACs that expand a derived key into a volume's data key.
  Source: `platform_data_key/4` -/
  volumeKey : κ → Bytes → Bytes

/-- A wrapped data key. Versions 1 and 3 are wrapped by the platform, version 1 under root
generation 1; version 2 by a customer's KMS.
Source: `key_service/envelope.ex` -/
inductive Envelope (χ τ : Type) where
  | v1 (principal : String) (epoch : Nat) (nonce : Bytes) (tag : τ) (wrappedKey : χ)
  | v2 (principal : String) (keyRef : String) (wrappedKey : Bytes)
  | v3 (principal : String) (rootGeneration epoch : Nat) (nonce : Bytes) (tag : τ) (wrappedKey : χ)
  deriving DecidableEq

/-- The principal an envelope names. -/
def Envelope.principal {χ τ : Type} : Envelope χ τ → String
  | .v1 principal _ _ _ _ => principal
  | .v2 principal _ _ => principal
  | .v3 principal _ _ _ _ _ => principal

/-- The version of an envelope. -/
def Envelope.version {χ τ : Type} : Envelope χ τ → Nat
  | .v1 _ _ _ _ _ => 1
  | .v2 _ _ _ => 2
  | .v3 _ _ _ _ _ _ => 3

/-- The epoch of a platform envelope. -/
def Envelope.epoch {χ τ : Type} : Envelope χ τ → Option Nat
  | .v1 _ epoch _ _ _ => some epoch
  | .v2 _ _ _ => none
  | .v3 _ _ epoch _ _ _ => some epoch

/-- The root generation of a platform envelope.
Source: `envelope_root_generation/1` -/
def Envelope.rootGeneration {χ τ : Type} : Envelope χ τ → Option Nat
  | .v1 _ _ _ _ _ => some 1
  | .v2 _ _ _ => none
  | .v3 _ generation _ _ _ _ => some generation

/-- `n` random bytes. -/
abbrev RandomBytes (n : Nat) := { b : Bytes // b.length = n }

/-- What a data key is issued for.
Source: `artifact_kind/1` and `artifact_workload/1` -/
structure Artifact where
  kind : String
  workload : String
  deriving DecidableEq, Repr

/-- Why a call failed. -/
inductive KeyError where
  | noRoot
  | noPrincipal
  | invalidEpoch
  | epochNotIncreased
  | floorNotRaised
  | floorAboveCurrentEpoch
  | belowFloor
  | rootGenerationUnavailable
  | invalidDataKey
  | invalidArtifact
  | badEnvelope
  | authFailed
  | custodyMismatch
  | customerKmsNotConfigured
  | principalMismatch
  | opLog (e : OpLogError)
  | kms (reason : String)
  deriving DecidableEq, Repr

/-- Source: `validate_principal/1` -/
def validatePrincipal (principal : String) : Except KeyError Unit :=
  if principal = "" then .error .noPrincipal else .ok ()

/-- Source: `validate_epoch/1` -/
def validateEpoch (epoch : Nat) : Except KeyError Unit :=
  if epoch ≤ maxEpoch then .ok () else .error .invalidEpoch

/-- Source: `validate_data_key/1` -/
def validateDataKey (dataKey : Bytes) : Except KeyError Unit :=
  if dataKey.length = kekSize then .ok () else .error .invalidDataKey

/-- Source: `validate_artifact/1` -/
def validateArtifact (artifact : Artifact) : Except KeyError Unit :=
  if artifact.kind ≠ "" ∧ artifact.workload ≠ "" then .ok () else .error .invalidArtifact

/-- Source: `validate_wrapped_key/1` -/
def validateWrappedKey (wrappedKey : Bytes) : Except KeyError Unit :=
  if wrappedKey ≠ [] then .ok () else .error .badEnvelope

/-! ## The service -/

/-- The service: its options, the epochs in memory, and the table it writes through to. -/
structure KeyService (ρ : Type) where
  config : KeyConfig ρ
  /-- Current epoch and floor of each principal that has a row. -/
  epochs : Table String (Nat × Nat)
  db : KeyEpochs

namespace KeyService

variable {ρ κ χ τ : Type}

/-- A service started on a table.
Source: `init/1` -/
def start (config : KeyConfig ρ) (db : KeyEpochs) : KeyService ρ where
  config := config
  epochs := db.mapVal fun _ row => (row.currentEpoch, row.minEpoch)
  db := db

variable (C : KeyCrypto ρ κ χ τ) (s : KeyService ρ) (envelope : Envelope χ τ)
  (principal : String)

/-- A principal without a row is at epoch 0 with floor 0.
Source: `epochs/2` -/
def epochsOf : Nat × Nat :=
  (s.epochs.lookup principal).getD (0, 0)

/-- The custody configuration of a principal.
Source: the `:customer_kms_config` handler -/
def customerKms : Option CustomerKms :=
  s.config.customerKms.lookup principal

/-- Append, and only when that is answered `ok` update the table in memory. -/
def writeThrough (kind : KeyOpKind) (epochs : Nat × Nat)
    (reply : Nat) (io : AppendIo) : Except KeyError Nat × KeyService ρ :=
  match s.db.append ⟨kind, principal, io.ts⟩ io.fault with
  | .error (e, db) => (.error (.opLog e), { s with db := db })
  | .ok db => (.ok reply, { s with db := db, epochs := s.epochs.insert principal epochs })

/-- Source: the `:set_epoch` handler -/
def setEpoch (epoch : Nat) (reason : String) (io : AppendIo) : Except KeyError Nat × KeyService ρ :=
  match validatePrincipal principal, validateEpoch epoch with
  | .error e, _ | _, .error e => (.error e, s)
  | .ok _, .ok _ =>
    let (currentEpoch, minEpoch) := s.epochsOf principal
    if currentEpoch < epoch then
      s.writeThrough principal (.keyEpochSet epoch reason) (epoch, minEpoch) epoch io
    else (.error .epochNotIncreased, s)

/-- Source: the `:raise_min_epoch` handler -/
def raiseMinEpoch (minEpoch : Nat) (reason : String)
    (io : AppendIo) : Except KeyError Nat × KeyService ρ :=
  match validatePrincipal principal, validateEpoch minEpoch with
  | .error e, _ | _, .error e => (.error e, s)
  | .ok _, .ok _ =>
    let (currentEpoch, currentMinEpoch) := s.epochsOf principal
    if currentMinEpoch < minEpoch then
      if minEpoch ≤ currentEpoch then
        s.writeThrough principal (.keyMinEpochRaised minEpoch reason) (currentEpoch, minEpoch)
          minEpoch io
      else (.error .floorAboveCurrentEpoch, s)
    else (.error .floorNotRaised, s)

/-- A principal's first data key sets its epoch to 1.
Source: `ensure_first_epoch/2` -/
def ensureFirstEpoch (io : AppendIo) : Except KeyError Nat × KeyService ρ :=
  match s.epochsOf principal with
  | (0, minEpoch) =>
    s.writeThrough principal (.keyEpochSet 1 "first_use") (1, minEpoch) 1 io
  | (epoch, _) => (.ok epoch, s)

/-! ## Derivation -/

/-- Source: `do_derive_generation/4` -/
def deriveGeneration (epoch rootGeneration : Nat) : Except KeyError κ := do
  validatePrincipal principal
  validateEpoch epoch
  match s.config.roots.fetchRoot rootGeneration with
  | none => .error .rootGenerationUnavailable
  | some root =>
    if epoch < (s.epochsOf principal).2 then .error .belowFloor
    else .ok (C.hkdf root (info principal epoch))

/-- Source: `do_derive/3` -/
def derive (epoch : Nat) : Except KeyError κ :=
  match s.config.roots.current with
  | none => .error .noRoot
  | some _ => s.deriveGeneration C principal epoch s.config.roots.generation

/-- Source: `platform_data_key/4` -/
def platformDataKey (epoch : Nat)
    (artifact : Artifact) (random : RandomBytes kekSize) : Except KeyError Bytes :=
  if artifact.kind = "volume" then
    (s.derive C principal epoch).map fun kek =>
      C.volumeKey kek (binary ("embervm-volume-key-v1" ++ artifact.workload))
  else .ok random

/-! ## Wrapping -/

/-- Source: `wrap_platform/4` -/
def wrapPlatform (epoch : Nat)
    (dataKey : Bytes) (nonce : RandomBytes nonceSize) : Except KeyError (Envelope χ τ) :=
  let generation := s.config.roots.generation
  match s.deriveGeneration C principal epoch generation with
  | .error e => .error e
  | .ok kek =>
    let version := if generation = 1 then 1 else 3
    let aad := envelopeAad version principal epoch generation
    let sealed := C.aead.encrypt kek nonce aad dataKey
    if version = 1 then .ok (.v1 principal epoch nonce sealed.2 sealed.1)
    else .ok (.v3 principal generation epoch nonce sealed.2 sealed.1)

/-- The generation under which a platform envelope was wrapped, and what it holds.
Source: `envelope_root_generation/1` and `validate_envelope/1` -/
def platformParts : Envelope χ τ → Option (Nat × String × Nat × Bytes × τ × χ)
  | .v1 principal epoch nonce tag wrappedKey =>
    if nonce.length = nonceSize ∧ C.aead.tagSize tag = tagSize ∧
        C.aead.cipherSize wrappedKey = kekSize then
      some (1, principal, epoch, nonce, tag, wrappedKey)
    else none
  | .v2 _ _ _ => none
  | .v3 principal rootGeneration epoch nonce tag wrappedKey =>
    if 0 < rootGeneration ∧ nonce.length = nonceSize ∧ C.aead.tagSize tag = tagSize ∧
        C.aead.cipherSize wrappedKey = kekSize then
      some (rootGeneration, principal, epoch, nonce, tag, wrappedKey)
    else none

/-- Source: `unwrap_platform/2` -/
def unwrapPlatform : Except KeyError Bytes :=
  match platformParts C envelope with
  | none => .error .authFailed
  | some (generation, principal, epoch, nonce, tag, wrappedKey) =>
    match s.deriveGeneration C principal epoch generation with
    | .error .belowFloor => .error .belowFloor
    | .error .rootGenerationUnavailable => .error .rootGenerationUnavailable
    | .error _ => .error .authFailed
    | .ok kek =>
      match C.aead.decrypt kek nonce
        (envelopeAad envelope.version principal epoch generation) wrappedKey tag with
      | none => .error .authFailed
      | some dataKey =>
        if dataKey.length = kekSize then .ok dataKey else .error .authFailed

/-- Source: `customer_wrap/4` -/
def customerWrap (config : CustomerKms) (principal : String) (dataKey : Bytes)
    (kms : Except String Bytes) : Except KeyError (Envelope χ τ) := do
  validatePrincipal principal
  validateDataKey dataKey
  let wrappedKey ← kms.mapError .kms
  validateWrappedKey wrappedKey
  return .v2 principal config.keyRef wrappedKey

/-- Source: `customer_unwrap/2` and `validate_customer_envelope/1` -/
def customerUnwrap (principal keyRef : String) (wrappedKey : Bytes) (kms : Except String Bytes) :
    Except KeyError Bytes := do
  if keyRef = "" ∨ wrappedKey = [] then throw .badEnvelope
  validatePrincipal principal
  let dataKey ← kms.mapError .kms
  validateDataKey dataKey
  return dataKey

/-- Source: `customer_issue/3` -/
def customerIssue (config : CustomerKms) (principal : String) (artifact : Artifact)
    (kms : Except String (Bytes × Bytes)) : Except KeyError (Bytes × Envelope χ τ) := do
  validatePrincipal principal
  validateArtifact artifact
  let (dataKey, wrappedKey) ← kms.mapError .kms
  validateDataKey dataKey
  validateWrappedKey wrappedKey
  return (dataKey, .v2 principal config.keyRef wrappedKey)

/-- Source: the `:wrap` handler -/
def wrapCurrent (dataKey : Bytes) (nonce : RandomBytes nonceSize) :
    Except KeyError (Envelope χ τ) :=
  match s.config.roots.current with
  | none => .error .noRoot
  | some _ => do
    validatePrincipal principal
    validateDataKey dataKey
    s.wrapPlatform C principal (s.epochsOf principal).1 dataKey nonce

/-- Source: `wrap/4` -/
def wrap (dataKey : Bytes)
    (nonce : RandomBytes nonceSize) (kms : Except String Bytes) : Except KeyError (Envelope χ τ) :=
  match s.customerKms principal with
  | some config =>
    if customerMode (some config) then customerWrap config principal dataKey kms
    else s.wrapCurrent C principal dataKey nonce
  | none => s.wrapCurrent C principal dataKey nonce

/-- A platform envelope is unwrapped unless the principal's custody refuses it.
Source: `unwrap/2` and the `:unwrap` handler -/
def unwrapAllowed : Except KeyError Bytes :=
  if platformEnvelopeAllowed (s.customerKms envelope.principal) then
    match s.config.roots.current with
    | none => .error .noRoot
    | some _ => s.unwrapPlatform C envelope
  else .error .custodyMismatch

/-- Source: `unwrap/2` -/
def unwrap (kms : Except String Bytes) : Except KeyError Bytes :=
  match envelope with
  | .v2 principal keyRef wrappedKey =>
    match s.customerKms principal with
    | none => .error .customerKmsNotConfigured
    | some config =>
      if customerEnvelopeAllowed config then customerUnwrap principal keyRef wrappedKey kms
      else .error .custodyMismatch
  | envelope => s.unwrapAllowed C envelope

/-- Source: `envelope_current?/3` -/
def envelopeCurrent : Envelope χ τ → Bool
  | .v1 _ epoch _ _ _ =>
    !(customerMode (s.customerKms principal)) && epoch = (s.epochsOf principal).1 &&
      1 = s.config.roots.generation
  | .v2 _ keyRef _ =>
    match s.customerKms principal with
    | some config => customerMode (some config) && keyRef = config.keyRef
    | none => false
  | .v3 _ rootGeneration epoch _ _ _ =>
    !(customerMode (s.customerKms principal)) && epoch = (s.epochsOf principal).1 &&
      rootGeneration = s.config.roots.generation

/-- The answers of a customer's KMS to one call. -/
structure KmsReplies where
  issue : Except String (Bytes × Bytes)
  wrap : Except String Bytes
  unwrap : Except String Bytes

/-- The new envelope, and whether the key was rewrapped.
Source: `rewrap/4` -/
def rewrap (envelope : Envelope χ τ) (artifact : Artifact)
    (nonce : RandomBytes nonceSize) (kms : KmsReplies) : Except KeyError (Envelope χ τ × Bool) := do
  validatePrincipal principal
  validateArtifact artifact
  if envelope.principal ≠ principal then throw .principalMismatch
  if s.envelopeCurrent principal envelope then return (envelope, false)
  let dataKey ← s.unwrap C envelope kms.unwrap
  let new ← s.wrap C principal dataKey nonce kms.wrap
  return (new, true)

/-- Source: the `:issue_platform_data_key` handler -/
def issuePlatformDataKey (artifact : Artifact) (io : AppendIo) (random : RandomBytes kekSize)
    (nonce : RandomBytes nonceSize) : Except KeyError (Bytes × Envelope χ τ) × KeyService ρ :=
  match validatePrincipal principal, validateArtifact artifact with
  | .error e, _ | _, .error e => (.error e, s)
  | .ok _, .ok _ =>
    match s.ensureFirstEpoch principal io with
    | (.error e, s) => (.error e, s)
    | (.ok epoch, s) =>
      (do
        let dataKey ← s.platformDataKey C principal epoch artifact random
        let envelope ← s.wrapPlatform C principal epoch dataKey nonce
        return (dataKey, envelope), s)

/-- Source: `issue_data_key/3` -/
def issueDataKey (artifact : Artifact) (io : AppendIo)
    (random : RandomBytes kekSize) (nonce : RandomBytes nonceSize) (kms : KmsReplies) :
    Except KeyError (Bytes × Envelope χ τ) × KeyService ρ :=
  match s.customerKms principal with
  | some config =>
    if customerMode (some config) then (customerIssue config principal artifact kms.issue, s)
    else s.issuePlatformDataKey C principal artifact io random nonce
  | none => s.issuePlatformDataKey C principal artifact io random nonce

end KeyService

/-! ## Runs -/

/-- A call of the service, or its restart. -/
inductive KeyCall (ρ χ τ : Type) where
  | setEpoch (principal : String) (epoch : Nat) (reason : String) (io : AppendIo)
  | raiseMinEpoch (principal : String) (minEpoch : Nat) (reason : String) (io : AppendIo)
  | issueDataKey (principal : String) (artifact : Artifact) (io : AppendIo)
      (random : RandomBytes kekSize) (nonce : RandomBytes nonceSize) (kms : KeyService.KmsReplies)
  | wrap (principal : String) (dataKey : Bytes) (nonce : RandomBytes nonceSize)
      (kms : Except String Bytes)
  | unwrap (envelope : Envelope χ τ) (kms : Except String Bytes)
  | rewrap (principal : String) (envelope : Envelope χ τ) (artifact : Artifact)
      (nonce : RandomBytes nonceSize) (kms : KeyService.KmsReplies)
  | restart (config : KeyConfig ρ)

/-- The call makes an append for the principal that times out. -/
def KeyCall.timesOut {ρ χ τ : Type} (principal : String) : KeyCall ρ χ τ → Bool
  | .setEpoch p _ _ io | .raiseMinEpoch p _ _ io | .issueDataKey p _ io _ _ _ =>
    p = principal && io.fault = some .timedOut
  | _ => false

/-- The service after one call.
Source: `handle_call/3` and `init/1` -/
def KeyService.step {ρ κ χ τ : Type} (C : KeyCrypto ρ κ χ τ) (s : KeyService ρ) :
    KeyCall ρ χ τ → KeyService ρ
  | .setEpoch principal epoch reason io => (s.setEpoch principal epoch reason io).2
  | .raiseMinEpoch principal minEpoch reason io => (s.raiseMinEpoch principal minEpoch reason io).2
  | .issueDataKey principal artifact io random nonce kms =>
    (s.issueDataKey C principal artifact io random nonce kms).2
  | .wrap _ _ _ _ | .unwrap _ _ | .rewrap _ _ _ _ _ => s
  | .restart config => start config s.db

end Homelab.Embervm
