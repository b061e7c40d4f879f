import Homelab.Noded.Store.Fence

/-!
# A marker stands for a complete copy

`Export` writes the files of an artifact first and its marker last. A marker is taken for the sign
that its files are all there. An upload over an older copy replaces the files one by one under the
old marker, so one that breaks off there leaves a marker without its files. `Unbroken` excludes
that, and `exports_complete` needs nothing else: a marker may be unreadable, overwritten or
backfilled.
-/

namespace Homelab.Noded

open Homelab.Lib Table

variable {sha256 : String → String} {s : StoredArtifact}

/-- Every file of the marker is stored as the marker says. -/
def StoredArtifact.Complete (s : StoredArtifact) : Prop :=
  ∀ m, s.marker = some m → ∀ name fm, m.files.lookup name = some fm →
    s.objects.lookup name = some fm

/-- An export under a marker succeeds or has written nothing. -/
def Unbroken (sha256 : String → String) (s : StoredArtifact) (e : ExportStep) : Prop :=
  s.marker = none ∨ (s.exportArtifact sha256 e.call e.io).1.error = none ∨ s.step sha256 e = s

/-- The files that are still to be put are the only ones of the marker that are not stored. -/
lemma putFiles_stored {io : ExportIo} {encrypted : Bool} {files : List (String × FileMeta)}
    {u u' : Uploading} (h : putFiles io encrypted files u = (u', none))
    (hrest : ∀ name fm, u.files.lookup name = some fm →
      name ∈ files.map Prod.fst ∨ u.objects.lookup name = some fm) :
    ∀ name fm, u'.files.lookup name = some fm → u'.objects.lookup name = some fm := by
  induction files generalizing u with
  | nil =>
    cases h
    exact fun name fm hfm => (hrest name fm hfm).resolve_left List.not_mem_nil
  | cons file files ih =>
    unfold putFiles at h
    split_ifs at h
    · split at h
      · refine ih h fun name fm hfm => ?_
        rw [lookup_insert] at hfm ⊢
        split_ifs at hfm ⊢ with hname
        · exact .inr hfm
        · exact (hrest name fm hfm).imp_left fun hmem =>
            (List.mem_cons.mp hmem).resolve_left hname
      · cases h
    · cases h

/-- A backfill is of the marker that is there. -/
lemma plan_backfill {options : ExportOptions} {generation : Nat} {m marker : Meta} {io : ExportIo}
    (h : plan sha256 options generation m (s.getMeta io) = .ok (.backfill marker)) :
    ∃ remote, s.marker = some remote ∧ marker.files = remote.files := by
  unfold plan at h
  split_ifs at h
  · split at h
    · next remote hread =>
      refine ⟨remote, ?_, (planAgainst_backfill h).1⟩
      unfold StoredArtifact.getMeta at hread
      split_ifs at hread
      split at hread
      · cases hread
      · next hmarker =>
        cases hread
        exact hmarker
    · cases h
    · cases h
  · split at h
    · cases h
    · cases h
    · split_ifs at h
      cases h
  · cases h

namespace StoredArtifact.Complete

variable (h : s.Complete)
include h

/-- An upload puts its marker after all its files, or breaks off where there is no marker. -/
lemma upload (m : Meta) (options : ExportOptions) (io : ExportIo) :
    s.marker = none ∨ (upload s m options io).1.error = none →
      (upload s m options io).2.Complete := by
  unfold Homelab.Noded.upload
  rcases dataKey options io with _ | envelope
  · exact fun _ => h
  dsimp only
  split
  · exact fun hio m' hm' => nomatch (hio.resolve_right nofun).symm.trans hm'
  · next u hput =>
    have hstored := putFiles_stored hput fun name fm hfm => .inl <| by
      rw [List.map_map]
      exact List.mem_map_of_mem (f := Sigma.fst) (AList.mem_lookup_iff.mp hfm)
    rcases io.putMarker with _ | _ | _
    · rintro - _ ⟨⟩
      exact hstored
    · exact fun hio m' hm' => nomatch (hio.resolve_right nofun).symm.trans hm'
    · rintro - _ ⟨⟩
      exact hstored

lemma exportArtifact (call : ExportCall) (io : ExportIo) :
    s.marker = none ∨ (s.exportArtifact sha256 call io).1.error = none →
      (s.exportArtifact sha256 call io).2.Complete := by
  unfold StoredArtifact.exportArtifact
  rcases call.localMeta with _ | m
  · exact fun _ => h
  dsimp only
  split
  · exact fun _ => h
  · exact fun _ => h
  · next marker hplan =>
    obtain ⟨remote, hremote, hfiles⟩ := plan_backfill hplan
    intro _
    rcases putMarker_cases s io.putMarker marker with hput | hput
    · dsimp only
      rw [hput]
      exact h
    · dsimp only
      rw [hput]
      rintro _ ⟨⟩
      rw [hfiles]
      exact h remote hremote
  · exact h.upload m _ io

end StoredArtifact.Complete

/-- **A marker stands for a complete copy.** From a prefix without a marker, and as long as no
export breaks off in its writes under a marker, every file of the marker is in the store as it
says. -/
theorem exports_complete (sha256 : String → String) (s : StoredArtifact) (hs : s.marker = none)
    (steps : List ExportStep) (h : Along (StoredArtifact.step sha256) (Unbroken sha256) s steps) :
    (run (StoredArtifact.step sha256) s steps).Complete := by
  refine run_induction StoredArtifact.Complete (fun s e hs he => ?_)
    (fun _ hm => nomatch hs.symm.trans hm) h
  rcases or_assoc.mpr he with hio | hsame
  · exact hs.exportArtifact e.call e.io hio
  · rwa [hsame]

theorem exports_complete_twice : (run (StoredArtifact.step id) ⟨∅, none⟩
      [volumeExport "a" 1 false, volumeExport "b" 2 false]).Complete :=
  exports_complete id _ rfl _ ⟨.inl rfl, .inr (.inl (by decide +kernel)), trivial⟩

end Homelab.Noded
