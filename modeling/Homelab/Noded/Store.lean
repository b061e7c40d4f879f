import Homelab.Lib.Run
import Homelab.Lib.Table

/-!
# Exporting to the object store

`store.go`: an artifact is a set of objects under a prefix, with `meta.json` as the marker of its
completeness. `Export` writes the files first and the marker last; before it writes, it reads the
marker that is there and decides whether to write at all.

* `StoredArtifact` is a prefix of the store: what was put under each file's name, and the marker. An
  object is represented by the metadata of the file it was made from.
* What `Export` reads locally is data of the call (`ExportCall`), how each request and each local
  operation ends is data of the run (`ExportIo`). A request that fails may have taken effect.
* `plan` is the decision, between the reading of the marker and the first write.

SHA-256 is an argument, and a local file is taken not to change between its hashing and its upload.
`Export` holds a lock per prefix within a node; calls of different nodes are taken one at a time, as
whole steps. Sources without a file name are in `store.go`.
-/

namespace Homelab.Noded

open Homelab.Lib

/-! ## Markers -/

/-- Source: `FileMeta` -/
structure FileMeta where
  size : Int
  sha256 : String
  compression : String
  encryption : String
  nonce : String
  deriving DecidableEq, Repr

/-- The marker `meta.json`.
Source: `Meta` -/
structure Meta where
  files : Table String FileMeta
  generation : Nat
  createdAtUnixMs : Int
  cpuVendor : String
  cpuTemplate : String
  rootfsId : String
  imageRef : String
  envelope : String
  /-- None for an artifact whose device table is unknown. -/
  deviceIds : Option (List String)

/-- Source: `sameFiles` -/
def sameFiles (a b : Table String FileMeta) : Bool :=
  a.entries.length == b.entries.length &&
    a.entries.all fun e => (b.lookup e.1).any fun fb => e.2.sha256 == fb.sha256 &&
      e.2.size == fb.size

/-- Source: `compatibleDeviceIDs` -/
def compatibleDeviceIds (a b : Option (List String)) : Bool :=
  match a, b with
  | some a, some b => a == b
  | _, _ => false

/-- The text that is hashed, by names in order.
Source: `FilesFingerprint` -/
def fingerprintText (files : Table String FileMeta) : String :=
  let names := (files.entries.map (·.1)).mergeSort
  String.join <| names.map fun name =>
    match files.lookup name with
    | some fm => name ++ "\x00" ++ toString fm.size ++ "\x00" ++ fm.sha256.toLower ++ "\n"
    | none => ""

/-- Source: `FilesFingerprint` -/
def filesFingerprint (sha256 : String → String) (files : Table String FileMeta) : String :=
  sha256 (fingerprintText files)

/-! ## Calls -/

/-- Source: `ExportOptions` -/
structure ExportOptions where
  kind : String
  overwrite : Bool
  enforceDeviceShape : Bool
  lineageFence : Bool
  baseFingerprint : String
  deriving DecidableEq, Repr

/-- A call of `Export`, with what it finds in the local directory. -/
structure ExportCall where
  files : List String
  /-- Size and checksum of a local file, none when it cannot be read. -/
  fileMeta : String → Option FileMeta
  /-- The text of a local file. -/
  readFile : String → Option String
  /-- The device table in the jail resources of a snapshot. -/
  deviceSet : String → Option (List String)
  generation : Nat
  nowMs : Int
  cpuVendor : String
  cpuTemplate : String
  options : ExportOptions

/-- How a PUT ends. -/
inductive PutOutcome where
  | ok
  | failed (applied : Bool)
  deriving DecidableEq, Repr

/-- What a data key provider answers. -/
structure DataKeyReply where
  keyLength : Nat
  envelope : String

/-- How the requests and local operations of one call end. -/
structure ExportIo where
  /-- The request for the marker, or its decoding, fails. -/
  markerFails : Bool
  /-- None without a provider, and then none when it fails. -/
  dataKey : Option (Option DataKeyReply)
  /-- The store compresses. -/
  compress : Bool
  nonce : String → String
  /-- The local file is opened again and its encoder set up. -/
  opens : String → Bool
  encodedSize : String → Int
  put : String → PutOutcome
  putMarker : PutOutcome

/-- Source: the errors `Export` returns -/
inductive ExportError where
  | statFile (name : String)
  | readRootfsId
  | readImageRef
  | readDevices
  | incompatibleDeviceShape
  | staleGeneration
  | getMeta
  | dataKey
  | dataKeyLength (length : Nat)
  | emptyEnvelope
  | openFile (name : String)
  | put (name : String)
  deriving DecidableEq, Repr

/-- `unicode.IsSpace` -/
def isSpace (c : Char) : Bool :=
  let n := c.toNat
  (9 ≤ n && n ≤ 13) || n = 32 || n = 0x85 || n = 0xa0 || n = 0x1680 ||
    (0x2000 ≤ n && n ≤ 0x200a) || n = 0x2028 || n = 0x2029 || n = 0x202f || n = 0x205f || n = 0x3000

/-- `strings.TrimSpace` -/
def trimSpace (s : String) : String :=
  String.ofList ((s.toList.dropWhile isSpace).reverse.dropWhile isSpace).reverse

variable (call : ExportCall)

/-- What a marker takes from the sidecar files: the file `name` is read, and its text goes into the
marker by `set`. -/
def ExportCall.addText (sidecar : String) (e : ExportError)
    (set : Meta → String → Meta) (name : String) (m : Meta) : Except ExportError Meta :=
  if name = sidecar then
    match call.readFile name with
    | some text => .ok (set m (trimSpace text))
    | none => .error e
  else .ok m

/-- Source: `Export`, the jail resources of a snapshot -/
def ExportCall.addDevices (name : String) (m : Meta) : Except ExportError Meta :=
  if name = "jail-resources.json" then
    match call.deviceSet name with
    | some ids => .ok { m with deviceIds := some ids }
    | none => .error .readDevices
  else .ok m

/-- Adds a local file to the marker.
Source: `Export`, the body of its first loop -/
def ExportCall.addFile (m : Meta) (name : String) : Except ExportError Meta :=
  match call.fileMeta name with
  | none => .error (.statFile name)
  | some fm =>
    call.addText "rootfsid" .readRootfsId (fun m text => { m with rootfsId := text }) name
        { m with files := m.files.insert name fm }
      >>= call.addText "imageref" .readImageRef (fun m text => { m with imageRef := text }) name
      >>= call.addDevices name

/-- The marker of the local copy.
Source: `Export`, its first loop -/
def ExportCall.localMeta : Except ExportError Meta :=
  call.files.foldlM call.addFile
    { files := ∅, generation := call.generation, createdAtUnixMs := call.nowMs
      cpuVendor := call.cpuVendor, cpuTemplate := call.cpuTemplate, rootfsId := "", imageRef := ""
      envelope := "", deviceIds := none }

/-! ## The decision -/

/-- What `getMeta` returns. -/
inductive MarkerRead where
  | failed
  | absent
  | present (marker : Meta)

/-- What `Export` does once it has decided. -/
inductive ExportPlan where
  | skip
  | backfill (marker : Meta)
  | upload

/-- The marker that is there with what the local copy knows in addition, if anything.
Source: `Export`, `markerChanged` -/
def backfill (options : ExportOptions) (remote m : Meta) : Option Meta :=
  let fillDevices := options.enforceDeviceShape && remote.deviceIds.isNone && m.deviceIds.isSome
  let fillRootfs := m.rootfsId != "" && remote.rootfsId != m.rootfsId
  let fillImage := m.imageRef != "" && remote.imageRef != m.imageRef
  if fillDevices || fillRootfs || fillImage then
    some { remote with
      deviceIds := if fillDevices then m.deviceIds else remote.deviceIds
      rootfsId := if fillRootfs then m.rootfsId else remote.rootfsId
      imageRef := if fillImage then m.imageRef else remote.imageRef }
  else none

variable (sha256 : String → String)

/-- The decision against a marker that was read: same content is not written again, and different
content only over a marker that is neither of a later generation nor of another lineage.
Source: `Export` -/
def planAgainst (options : ExportOptions) (generation : Nat) (remote m : Meta) :
    Except ExportError ExportPlan :=
  if sameFiles remote.files m.files then
    if options.enforceDeviceShape && remote.deviceIds.isSome &&
        !compatibleDeviceIds remote.deviceIds m.deviceIds then
      .error .incompatibleDeviceShape
    else
      match backfill options remote m with
      | some marker => .ok (.backfill marker)
      | none => .ok .skip
  else if options.enforceDeviceShape && !compatibleDeviceIds remote.deviceIds m.deviceIds then
    .error .incompatibleDeviceShape
  else if remote.generation > generation then
    .error .staleGeneration
  else if options.lineageFence && options.baseFingerprint != "" &&
      filesFingerprint sha256 remote.files != options.baseFingerprint then
    .error .staleGeneration
  else
    .ok .upload

/-- Source: `Export` -/
def plan (options : ExportOptions) (generation : Nat) (m : Meta) (read : MarkerRead) :
    Except ExportError ExportPlan :=
  if !options.overwrite then
    match read with
    | .present remote => planAgainst sha256 options generation remote m
    -- a marker that could not be read is treated like none at all
    | .absent => .ok .upload
    | .failed => .ok .upload
  else if options.enforceDeviceShape then
    match read with
    | .failed => .error .getMeta
    | .absent => .ok .upload
    | .present remote =>
      if !compatibleDeviceIds remote.deviceIds m.deviceIds then .error .incompatibleDeviceShape
      else .ok .upload
  else .ok .upload

/-! ## Writing -/

/-- A prefix of the store. -/
structure StoredArtifact where
  objects : Table String FileMeta
  marker : Option Meta

/-- What `Export` returns. -/
structure ExportResult where
  bytesMoved : Int
  skipped : Bool
  error : Option ExportError
  deriving DecidableEq, Repr

/-- Source: `Export`, the data key -/
def dataKey (options : ExportOptions) (io : ExportIo) : Except ExportError (Option String) :=
  if options.kind = "" then .ok none
  else
    match io.dataKey with
    | none => .ok none
    | some none => .error .dataKey
    | some (some reply) =>
      if reply.keyLength ≠ 32 then .error (.dataKeyLength reply.keyLength)
      else if reply.envelope = "" then .error .emptyEnvelope
      else .ok (some reply.envelope)

/-- The metadata of a file as it is stored.
Source: `Export`, the encoding of a file -/
def encodeFile (io : ExportIo) (encrypted : Bool) (name : String) (fm : FileMeta) : FileMeta :=
  if io.compress || encrypted then
    let fm := { fm with compression := "zstd" }
    if encrypted then { fm with encryption := "aes-256-gcm-v1", nonce := io.nonce name } else fm
  else fm

/-- The objects, the marker's files and the bytes moved so far. -/
structure Uploading where
  objects : Table String FileMeta
  files : Table String FileMeta
  bytesMoved : Int

/-- Puts the files one by one, until one fails.
Source: `Export`, its second loop -/
def putFiles (io : ExportIo) (encrypted : Bool) :
    List (String × FileMeta) → Uploading → Uploading × Option ExportError
  | [], u => (u, none)
  | (name, fm) :: rest, u =>
    if io.opens name then
      let fm := encodeFile io encrypted name fm
      let u := { u with files := u.files.insert name fm }
      let written := u.objects.insert name fm
      match io.put name with
      | .ok =>
        putFiles io encrypted rest
          { u with objects := written, bytesMoved := u.bytesMoved + io.encodedSize name }
      | .failed applied =>
        ({ u with objects := if applied then written else u.objects }, some (.put name))
    else (u, some (.openFile name))

variable (s : StoredArtifact)

/-- Puts the marker. -/
def putMarker (outcome : PutOutcome) (marker : Meta) : StoredArtifact × Option ExportError :=
  match outcome with
  | .ok => ({ s with marker := some marker }, none)
  | .failed applied =>
    ({ s with marker := if applied then some marker else s.marker }, some (.put "meta.json"))

/-- Writes the files and then the marker.
Source: `Export` -/
def upload (m : Meta) (options : ExportOptions) (io : ExportIo) : ExportResult × StoredArtifact :=
  match dataKey options io with
  | .error e => (⟨0, false, some e⟩, s)
  | .ok envelope =>
    let files := m.files.entries.map fun e => (e.1, e.2)
    match putFiles io envelope.isSome files ⟨s.objects, m.files, 0⟩ with
    | (u, some e) => (⟨u.bytesMoved, false, some e⟩, { s with objects := u.objects })
    | (u, none) =>
      let marker := { m with files := u.files, envelope := envelope.getD "" }
      let (s, err) := putMarker { s with objects := u.objects } io.putMarker marker
      (⟨u.bytesMoved, false, err⟩, s)

/-- What `getMeta` finds. -/
def StoredArtifact.getMeta (io : ExportIo) : MarkerRead :=
  if io.markerFails then .failed
  else
    match s.marker with
    | none => .absent
    | some marker => .present marker

/-- Source: `Export` -/
def StoredArtifact.exportArtifact (call : ExportCall) (io : ExportIo) :
    ExportResult × StoredArtifact :=
  match call.localMeta with
  | .error e => (⟨0, false, some e⟩, s)
  | .ok m =>
    match plan sha256 call.options call.generation m (s.getMeta io) with
    | .error e => (⟨0, false, some e⟩, s)
    | .ok .skip => (⟨0, true, none⟩, s)
    | .ok (.backfill marker) =>
      let (s, err) := putMarker s io.putMarker marker
      (⟨0, err.isNone, err⟩, s)
    | .ok .upload => upload s m call.options io

end Homelab.Noded
