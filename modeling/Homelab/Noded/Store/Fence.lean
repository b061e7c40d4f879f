import Homelab.Noded.Store

/-!
# The fence of an export

A marker that is there and is read keeps out a copy of an older generation, and one of another
lineage. `Fenced` says so of one export, `exports_fenced` of every sequence of exports.

The fence is inside the branch for a marker that was read. When the read fails, `Export` goes on as
if there were no marker, and an older copy replaces a newer one (`failed_read_replaces_newer`). So
the result is for sequences in which no marker read fails; the writes may fail as they like.
-/

namespace Homelab.Noded

open Homelab.Lib

variable {sha256 : String → String}

/-- An export with the given options left the newer copy alone: the recorded generation did not
decrease, and under a lineage fence content was replaced only if it is what the local copy descends
from. -/
structure Fenced (sha256 : String → String) (options : ExportOptions)
    (before after : StoredArtifact) : Prop where
  generation : ∀ m, before.marker = some m →
    ∃ m', after.marker = some m' ∧ m.generation ≤ m'.generation
  lineage : options.lineageFence = true → options.baseFingerprint ≠ "" →
    ∀ m, before.marker = some m →
      (after.objects ≠ before.objects ∨ after.marker.map (·.files) ≠ some m.files) →
      filesFingerprint sha256 m.files = options.baseFingerprint

lemma Fenced.refl (options : ExportOptions) (s : StoredArtifact) : Fenced sha256 options s s := by
  constructor
  · intro m hm
    exact ⟨m, hm, Nat.le_refl _⟩
  · rintro - - m hm (hobjects | hfiles)
    · exact absurd rfl hobjects
    · rw [hm] at hfiles
      exact absurd rfl hfiles

variable {options : ExportOptions} {s : StoredArtifact}

lemma Fenced.of_none {s' : StoredArtifact} (h : s.marker = none) : Fenced sha256 options s s' := by
  constructor
  · intro m hm
    rw [h] at hm
    cases hm
  · intro _ _ m hm
    rw [h] at hm
    cases hm

/-! ## What an export writes -/

section

variable {call : ExportCall} {m m' : Meta} {name : String}

lemma addText_generation {sidecar : String} {e : ExportError} {set : Meta → String → Meta}
    (h : call.addText sidecar e set name m = .ok m')
    (hset : ∀ m text, (set m text).generation = m.generation) : m'.generation = m.generation := by
  unfold ExportCall.addText at h
  split at h
  · split at h
    · cases h
      exact hset _ _
    · cases h
  · cases h
    rfl

lemma addDevices_generation (h : call.addDevices name m = .ok m') :
    m'.generation = m.generation := by
  unfold ExportCall.addDevices at h
  split at h
  · split at h <;> cases h
    rfl
  · cases h
    rfl

lemma generation_of_bind {x : Except ExportError Meta} {f : Meta → Except ExportError Meta}
    (h : (x >>= f) = .ok m') (hx : ∀ m₁, x = .ok m₁ → m₁.generation = m.generation)
    (hf : ∀ m₁, f m₁ = .ok m' → m'.generation = m₁.generation) : m'.generation = m.generation := by
  cases x with
  | error e => cases h
  | ok m₁ => rw [hf m₁ h, hx m₁ rfl]

lemma addFile_generation (h : call.addFile m name = .ok m') : m'.generation = m.generation := by
  unfold ExportCall.addFile at h
  split at h
  · cases h
  · refine generation_of_bind h (fun m₂ h₂ => ?_) fun m₂ h₂ => addDevices_generation h₂
    refine generation_of_bind h₂ (fun m₁ h₁ => ?_) fun m₁ h₁ => addText_generation h₁ fun _ _ => rfl
    have hrootfs := addText_generation h₁ fun _ _ => rfl
    exact hrootfs

lemma foldlM_addFile_generation {names : List String}
    (h : names.foldlM call.addFile m = .ok m') : m'.generation = m.generation := by
  induction names generalizing m with
  | nil =>
    cases h
    rfl
  | cons name names ih =>
    exact generation_of_bind h (fun m₁ h₁ => addFile_generation h₁) fun m₁ hrest => ih hrest

end

/-- A marker that is put, whether or not the request is answered, replaces the marker by itself or
not at all. -/
lemma putMarker_cases (s : StoredArtifact) (outcome : PutOutcome) (marker : Meta) :
    (putMarker s outcome marker).1 = s ∨
      (putMarker s outcome marker).1 = { s with marker := some marker } := by
  rcases outcome with _ | _ | _
  · exact .inr rfl
  · exact .inl rfl
  · exact .inr rfl

/-- An upload leaves the marker or puts one of the local copy. -/
lemma upload_marker (s : StoredArtifact) (m : Meta) (options : ExportOptions) (io : ExportIo) :
    (upload s m options io).2.marker = s.marker ∨
      ∃ m', (upload s m options io).2.marker = some m' ∧ m'.generation = m.generation := by
  unfold upload
  rcases dataKey options io with e | envelope
  · exact .inl rfl
  · simp only
    split
    · exact .inl rfl
    · next u hput =>
        rcases putMarker_cases { s with objects := u.objects } io.putMarker
          { m with files := u.files, envelope := envelope.getD "" } with h | h
        · left
          simp only [h]
        · right
          exact ⟨{ m with files := u.files, envelope := envelope.getD "" }, by simp only [h], rfl⟩

variable {remote m marker : Meta}

/-- A metadata backfill keeps content and generation. -/
lemma backfill_eq (h : backfill options remote m = some marker) :
    marker.files = remote.files ∧ marker.generation = remote.generation := by
  unfold backfill at h
  simp only at h
  split at h
  · cases h
    exact ⟨rfl, rfl⟩
  · cases h

/-! ## One export -/

/-- What the decision against a marker that was read lets through. -/
lemma planAgainst_upload {generation : Nat}
    (h : planAgainst sha256 options generation remote m = .ok .upload) :
    remote.generation ≤ generation ∧
      (options.lineageFence = true → options.baseFingerprint ≠ "" →
        filesFingerprint sha256 remote.files = options.baseFingerprint) := by
  unfold planAgainst at h
  split at h
  · split at h
    · cases h
    · split at h <;> cases h
  · split at h
    · cases h
    · split at h
      · cases h
      · split at h
        · cases h
        · next hgeneration hlineage =>
            refine ⟨Nat.le_of_not_lt hgeneration, fun hfence hbase => ?_⟩
            simpa [hfence, hbase] using hlineage

lemma planAgainst_backfill {generation : Nat}
    (h : planAgainst sha256 options generation remote m = .ok (.backfill marker)) :
    marker.files = remote.files ∧ marker.generation = remote.generation := by
  unfold planAgainst at h
  split at h
  · split at h
    · cases h
    · split at h
      · next hfill =>
          cases h
          exact backfill_eq hfill
      · cases h
  · split at h
    · cases h
    · split at h
      · cases h
      · split at h <;> cases h

/-- A backfill is of a marker that was read. -/
lemma Fenced.backfill (hremote : s.marker = some remote)
    (hmarker : marker.files = remote.files ∧ marker.generation = remote.generation)
    (outcome : PutOutcome) : Fenced sha256 options s (putMarker s outcome marker).1 := by
  rcases putMarker_cases s outcome marker with hput | hput <;> rw [hput]
  · exact .refl options s
  · constructor
    · intro m hm
      rw [hremote] at hm
      cases hm
      exact ⟨marker, rfl, Nat.le_of_eq hmarker.2.symm⟩
    · rintro - - m hm (hobjects | hfiles)
      · exact absurd rfl hobjects
      · rw [hremote] at hm
        cases hm
        rw [Option.map_some, hmarker.1] at hfiles
        exact absurd rfl hfiles

lemma Fenced.upload (hremote : s.marker = some remote)
    (hplan : planAgainst sha256 options m.generation remote m = .ok .upload) (io : ExportIo) :
    Fenced sha256 options s (upload s m options io).2 := by
  obtain ⟨hgeneration, hlineage⟩ := planAgainst_upload hplan
  constructor
  · intro m₀ hm₀
    rw [hremote] at hm₀
    cases hm₀
    rcases upload_marker s m options io with hsame | ⟨m', hm', heq⟩
    · exact ⟨remote, hsame.trans hremote, Nat.le_refl _⟩
    · exact ⟨m', hm', heq ▸ hgeneration⟩
  · intro hfence hbase m₀ hm₀ _
    rw [hremote] at hm₀
    cases hm₀
    exact hlineage hfence hbase

lemma export_fenced (s : StoredArtifact) {call : ExportCall} {io : ExportIo}
    (hoverwrite : call.options.overwrite = false) (hread : io.markerFails = false) :
    Fenced sha256 call.options s (s.exportArtifact sha256 call io).2 := by
  unfold StoredArtifact.exportArtifact
  rcases hlocal : call.localMeta with e | m
  · exact .refl _ s
  · have hgeneration : m.generation = call.generation := foldlM_addFile_generation hlocal
    rw [← hgeneration]
    rcases hmarker : s.marker with _ | remote
    · exact .of_none hmarker
    · have hget : s.getMeta io = .present remote := by
        rw [StoredArtifact.getMeta, hread, hmarker]
        rfl
      have hplan : plan sha256 call.options m.generation m (s.getMeta io) =
          planAgainst sha256 call.options m.generation remote m := by
        unfold plan
        rw [hoverwrite, hget]
        rfl
      simp only [hplan]
      rcases h : planAgainst sha256 call.options m.generation remote m with e | (_ | marker | _)
      · exact .refl _ s
      · exact .refl _ s
      · exact .backfill hmarker (planAgainst_backfill h) io.putMarker
      · exact .upload hmarker h io

/-! ## Sequences of exports -/

/-- An export and how its requests end. -/
structure ExportStep where
  call : ExportCall
  io : ExportIo

/-- Source: `store.go`, `Export`, on the store alone -/
def StoredArtifact.step (sha256 : String → String) (s : StoredArtifact) (e : ExportStep) :
    StoredArtifact :=
  (s.exportArtifact sha256 e.call e.io).2

/-- **An older copy does not replace a newer one whose marker can be read.** Exports without
`Overwrite` are issued one at a time, with any generations, contents and options, from any state of
the prefix, their writes failing in any way, and no read of the marker fails. Then every one of them
is `Fenced`, and at the end the recorded generation is no lower than at the start. -/
theorem exports_fenced (sha256 : String → String) (s : StoredArtifact) (steps : List ExportStep)
    (h : ∀ e ∈ steps, e.call.options.overwrite = false ∧ e.io.markerFails = false) :
    Along (StoredArtifact.step sha256)
        (fun s e => Fenced sha256 e.call.options s (s.step sha256 e)) s steps ∧
      ∀ m, s.marker = some m → ∃ m', (run (StoredArtifact.step sha256) s steps).marker = some m' ∧
        m.generation ≤ m'.generation := by
  induction steps generalizing s with
  | nil => exact ⟨trivial, fun m hm => ⟨m, hm, Nat.le_refl _⟩⟩
  | cons e steps ih =>
    obtain ⟨hoverwrite, hread⟩ := h e List.mem_cons_self
    have hfenced : Fenced sha256 e.call.options s (s.step sha256 e) :=
      export_fenced s hoverwrite hread
    obtain ⟨hrest, hlater⟩ := ih (s.step sha256 e) fun e' he' => h e' (List.mem_cons_of_mem e he')
    refine ⟨⟨hfenced, hrest⟩, fun m hm => ?_⟩
    obtain ⟨m₁, hm₁, hle₁⟩ := hfenced.generation m hm
    obtain ⟨m₂, hm₂, hle₂⟩ := hlater m₁ hm₁
    exact ⟨m₂, hm₂, Nat.le_trans hle₁ hle₂⟩

/-- An export of the one file of a volume. -/
def volumeExport (sha : String) (generation : Nat) (markerFails : Bool) : ExportStep where
  call :=
    { files := ["volume.img"]
      fileMeta := fun _ => some ⟨1, sha, "", "", ""⟩
      readFile := fun _ => none
      deviceSet := fun _ => none
      generation := generation
      nowMs := 0
      cpuVendor := ""
      cpuTemplate := ""
      options := ⟨"", false, false, false, ""⟩ }
  io :=
    { markerFails := markerFails
      dataKey := none
      compress := false
      nonce := fun _ => ""
      opens := fun _ => true
      encodedSize := fun _ => 1
      put := fun _ => .ok
      putMarker := .ok }

/-- The generation the marker records. -/
def StoredArtifact.generation (s : StoredArtifact) : Option Nat := s.marker.map (·.generation)

/-- A copy of generation 1472 is refused by a store that holds 5076. -/
theorem exports_fenced_two_nodes : (run (StoredArtifact.step id) ⟨∅, none⟩
      [volumeExport "a" 5076 false, volumeExport "b" 1472 false]).generation = some 5076 ∧
    Along (StoredArtifact.step id) (fun s e => Fenced id e.call.options s (s.step id e)) ⟨∅, none⟩
      [volumeExport "a" 5076 false, volumeExport "b" 1472 false] :=
  ⟨by decide +kernel, (exports_fenced id ⟨∅, none⟩ _ (by decide)).1⟩

/-- The same copy, when the request for the marker fails: the store then holds generation 1472. -/
theorem failed_read_replaces_newer :
    (run (StoredArtifact.step id) ⟨∅, none⟩ [volumeExport "a" 5076 false]).generation = some 5076 ∧
    (run (StoredArtifact.step id) ⟨∅, none⟩
      [volumeExport "a" 5076 false, volumeExport "b" 1472 true]).generation = some 1472 := by
  decide +kernel

end Homelab.Noded
