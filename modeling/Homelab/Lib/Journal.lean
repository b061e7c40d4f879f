import Mathlib.Data.List.Basic
import Mathlib.Data.List.MinMax
import Mathlib.Tactic.Common

/-!
# A journal with prefix compaction

An append-only journal of entries numbered from 1, whose oldest entries may be deleted behind a
durable marker. A reader that has consumed the journal up to a number `s` asks for everything
after `s`; when `s` is below the marker the answer is refused, so that a reader can never mistake
a gap for the end of the journal.

* `Journal` carries what every operation keeps: the surviving rows are in increasing order of
  their numbers, no row and no marker is past the last number issued.
* `blocker` and `candidate` compute how far a compaction may move the marker when the rows
  matching `p` must stay; `advance` moves it (never backwards, `marker_le_advance`) and
  `deletePrefix` deletes a bounded batch of rows at or below it, in any scan order.
* `Tracks h j` relates a journal to the history `h` of all its appends: the surviving rows are the
  history without some entries at or below the marker. Every operation keeps it, and it gives
  `readFrom_eq_of_tracks`: above the marker, compaction is invisible.
* `le_marker_advance` and `le_marker_of_deleted` say which entries one batch can delete.
-/

namespace Homelab.Lib

open List

/-- A journal of entries in `α`, compacted behind `marker`. -/
structure Journal (α : Type) where
  /-- The last number issued; 0 before the first append. -/
  lastSeq : Nat
  /-- Entries at or below the marker may be gone. -/
  marker : Nat
  /-- The surviving entries. -/
  rows : List (Nat × α)
  /-- They are in the order of their numbers. -/
  sorted : rows.Pairwise fun a b => a.1 < b.1
  /-- No row is numbered past the last append. -/
  le_lastSeq : ∀ r ∈ rows, r.1 ≤ lastSeq
  /-- The marker is not past the last append. -/
  marker_le : marker ≤ lastSeq

namespace Journal

variable {α : Type}

/-- The journal before the first append. -/
def empty : Journal α := ⟨0, 0, [], List.Pairwise.nil, by simp, le_rfl⟩

/-! ## Appending and reading -/

variable (j : Journal α)

/-- Append an entry under the next number. -/
def append (a : α) : Journal α where
  lastSeq := j.lastSeq + 1
  marker := j.marker
  rows := j.rows ++ [(j.lastSeq + 1, a)]
  sorted := by
    rw [pairwise_append]
    refine ⟨j.sorted, pairwise_singleton _ _, fun r hr r' hr' => ?_⟩
    have hle := j.le_lastSeq r hr
    rw [mem_singleton.mp hr']
    show r.1 < j.lastSeq + 1
    omega
  le_lastSeq := fun r hr => by
    rcases mem_append.mp hr with hr | hr
    · exact Nat.le_succ_of_le (j.le_lastSeq r hr)
    · rw [mem_singleton.mp hr]
  marker_le := Nat.le_succ_of_le j.marker_le

/-- Everything after `s`, or the marker when `s` is below it. -/
def readFrom (s : Nat) : Except Nat (List (Nat × α)) :=
  if s < j.marker then .error j.marker else .ok (j.rows.filter fun r => s < r.1)

/-! ## Compaction -/

variable (p : Nat × α → Bool)

/-- `SELECT MIN(seq) .. WHERE p`. -/
def blocker : Option Nat :=
  ((j.rows.filter p).map Prod.fst).min?

/-- How far the marker may go when the rows matching `p` must stay: just below the first of them,
or to the last row when there is none. -/
def candidate : Nat :=
  match j.blocker p with
  | some b => b - 1
  | none => (j.rows.map Prod.fst).max?.getD 0

lemma candidate_le : j.candidate p ≤ j.lastSeq := by
  have hmem : ∀ s ∈ j.rows.map Prod.fst, s ≤ j.lastSeq := by
    intro s hs
    obtain ⟨r, hr, rfl⟩ := mem_map.mp hs
    exact j.le_lastSeq r hr
  unfold candidate
  split
  next b hb =>
    have hb' : b ∈ j.rows.map Prod.fst := by
      obtain ⟨r, hr, rfl⟩ := mem_map.mp (min?_mem hb)
      exact mem_map_of_mem (mem_of_mem_filter hr)
    have := hmem b hb'
    omega
  next =>
    rcases hm : (j.rows.map Prod.fst).max? with _ | m
    · simp
    · exact hmem m (max?_mem hm)

variable {j : Journal α} {r : Nat × α} {p : Nat × α → Bool}

/-- No row at or below the candidate matches `p`. -/
lemma not_of_le_candidate (hr : r ∈ j.rows) (hpos : 0 < r.1) (hle : r.1 ≤ j.candidate p) :
    p r = false := by
  by_contra hp
  have hp : p r = true := by simpa using hp
  have hmem : r.1 ∈ (j.rows.filter p).map Prod.fst :=
    mem_map_of_mem (mem_filter.mpr ⟨hr, hp⟩)
  unfold candidate at hle
  split at hle
  next b hb =>
    have hmin : b ≤ r.1 := (min?_eq_some_iff.mp hb).2 r.1 hmem
    omega
  next hb =>
    rw [min?_eq_none_iff.mp hb] at hmem
    simp at hmem

/-- Move the marker to the candidate, never backwards. -/
def advance (j : Journal α) (p : Nat × α → Bool) : Journal α :=
  { j with
    marker := max j.marker (j.candidate p)
    marker_le := max_le j.marker_le (j.candidate_le p) }

/-- What the advanced marker covers: what it covered before, and rows that do not match. -/
lemma le_marker_advance (hr : r ∈ j.rows) (hpos : 0 < r.1) (hle : r.1 ≤ (j.advance p).marker) :
    r.1 ≤ j.marker ∨ p r = false := by
  rcases le_max_iff.mp hle with hm | hc
  · exact Or.inl hm
  · exact Or.inr (not_of_le_candidate hr hpos hc)

lemma marker_le_advance (j : Journal α) (p : Nat × α → Bool) : j.marker ≤ (j.advance p).marker :=
  le_max_left _ _

/-- The numbers a bounded delete picks: the first `n` of the scan at or below the marker that
still have a row. -/
def victims (j : Journal α) (n : Nat) (scan : List Nat) : List Nat :=
  (scan.filter fun s => s ≤ j.marker && j.rows.any (·.1 = s)).take n

/-- `DELETE .. WHERE seq IN (SELECT seq .. WHERE seq <= marker LIMIT n)`. -/
def deletePrefix (j : Journal α) (n : Nat) (scan : List Nat) : Journal α :=
  { j with
    rows := j.rows.filter fun r => r.1 ∉ j.victims n scan
    sorted := j.sorted.filter _
    le_lastSeq := fun r hr => j.le_lastSeq r (mem_of_mem_filter hr) }

variable {scan : List Nat}

lemma le_marker_of_mem_victims {n : Nat} {s : Nat} (h : s ∈ j.victims n scan) : s ≤ j.marker := by
  have h' := (mem_filter.mp (mem_of_mem_take h)).2
  simp only [Bool.and_eq_true, decide_eq_true_eq] at h'
  exact h'.1

/-- A bounded delete takes only rows at or below the marker. -/
lemma le_marker_of_deleted {n : Nat} (hr : r ∈ j.rows) (hdel : r ∉ (j.deletePrefix n scan).rows) :
    r.1 ≤ j.marker := by
  have hv : r.1 ∈ j.victims n scan := by
    by_contra hv
    refine hdel (mem_filter.mpr ⟨hr, ?_⟩)
    simpa using hv
  exact le_marker_of_mem_victims hv

/-- A row above the marker that must stay is above the advanced marker. -/
lemma marker_advance_lt (hr : r ∈ j.rows) (hpos : 0 < r.1) (hm : j.marker < r.1)
    (hp : p r = true) : (j.advance p).marker < r.1 := by
  by_contra hle
  rcases le_marker_advance hr hpos (Nat.not_lt.mp hle) with hle | hnot
  · exact absurd hm (Nat.not_lt.mpr hle)
  · rw [hp] at hnot
    simp at hnot

/-- A bounded delete leaves the rows above the marker. -/
lemma mem_deletePrefix (hr : r ∈ j.rows) (hm : j.marker < r.1) (n : Nat) (scan : List Nat) :
    r ∈ (j.deletePrefix n scan).rows := by
  by_contra hdel
  exact absurd hm (Nat.not_lt.mpr (le_marker_of_deleted hr hdel))

/-- A delete large enough to scan every row leaves only rows above the marker. -/
lemma marker_lt_of_mem_deletePrefix
    (hr : r ∈ (j.deletePrefix j.rows.length (j.rows.map Prod.fst)).rows) : j.marker < r.1 := by
  obtain ⟨hmem, hkeep⟩ := mem_filter.mp hr
  by_contra hle
  refine absurd ?_ (of_decide_eq_true hkeep)
  unfold victims
  rw [take_of_length_le ((length_filter_le _ _).trans (by rw [length_map]))]
  refine mem_filter.mpr ⟨mem_map_of_mem hmem, ?_⟩
  rw [Bool.and_eq_true, decide_eq_true_eq, any_eq_true]
  exact ⟨Nat.not_lt.mp hle, r, hmem, by simp⟩

/-! ## The history behind a journal -/

/-- The journal `j` holds the history `h` less some entries at or below its marker. -/
def Tracks (h : List (Nat × α)) (j : Journal α) : Prop :=
  (∀ r ∈ h, 0 < r.1) ∧ h.Pairwise (fun a b => a.1 < b.1) ∧ (∀ r ∈ h, r.1 ≤ j.lastSeq) ∧
    ∃ keep : Nat → Bool, j.rows = h.filter (fun r => keep r.1) ∧ ∀ s, j.marker < s → keep s = true

lemma tracks_empty : Tracks ([] : List (Nat × α)) empty :=
  ⟨by simp, List.Pairwise.nil, by simp, fun _ => true, rfl, fun _ _ => rfl⟩

variable {h : List (Nat × α)} (ht : Tracks h j)
include ht

lemma Tracks.append (a : α) : Tracks (h ++ [(j.lastSeq + 1, a)]) (j.append a) := by
  obtain ⟨hpos, hsorted, hle, keep, hrows, hkeep⟩ := ht
  refine ⟨fun r hr => ?_, ?_, fun r hr => ?_, keep, ?_, hkeep⟩
  · rcases mem_append.mp hr with hr | hr
    · exact hpos r hr
    · rw [mem_singleton.mp hr]
      exact Nat.succ_pos _
  · rw [pairwise_append]
    refine ⟨hsorted, pairwise_singleton _ _, fun r hr r' hr' => ?_⟩
    have hr_le := hle r hr
    rw [mem_singleton.mp hr']
    show r.1 < j.lastSeq + 1
    omega
  · rcases mem_append.mp hr with hr | hr
    · exact Nat.le_succ_of_le (hle r hr)
    · rw [mem_singleton.mp hr]
      exact le_rfl
  · have hnew : keep (j.lastSeq + 1) = true := hkeep _ (Nat.lt_succ_of_le j.marker_le)
    rw [filter_append, ← hrows]
    simp [Journal.append, hnew]

lemma Tracks.advance (p : Nat × α → Bool) : Tracks h (j.advance p) := by
  obtain ⟨hpos, hsorted, hle, keep, hrows, hkeep⟩ := ht
  exact ⟨hpos, hsorted, hle, keep, hrows,
    fun s hs => hkeep s (lt_of_le_of_lt (marker_le_advance j p) hs)⟩

lemma Tracks.deletePrefix (n : Nat) (scan : List Nat) : Tracks h (j.deletePrefix n scan) := by
  obtain ⟨hpos, hsorted, hle, keep, hrows, hkeep⟩ := ht
  refine ⟨hpos, hsorted, hle, fun s => keep s && s ∉ j.victims n scan, ?_, fun s hs => ?_⟩
  · show j.rows.filter _ = _
    rw [hrows, filter_filter]
    exact filter_congr fun r _ => by rw [Bool.and_comm]
  · have hnot : s ∉ j.victims n scan := fun hmem =>
      absurd (le_marker_of_mem_victims hmem) (Nat.not_le.mpr hs)
    simp [hkeep s hs, hnot]

/-- **Compaction is invisible above the marker**: a reader at or above it gets exactly the entries
ever appended after it, in order. -/
theorem readFrom_eq_of_tracks {s : Nat} (hs : j.marker ≤ s) :
    j.readFrom s = .ok (h.filter fun r => s < r.1) := by
  obtain ⟨-, -, -, keep, hrows, hkeep⟩ := ht
  unfold readFrom
  rw [if_neg (Nat.not_lt.mpr hs), hrows, filter_filter]
  congr 1
  refine filter_congr fun r _ => ?_
  by_cases hlt : s < r.1
  · simp [hlt, hkeep r.1 (lt_of_le_of_lt hs hlt)]
  · simp [hlt]

/-- Every row a tracked journal holds has a positive sequence number. -/
lemma pos_of_tracks (hr : r ∈ j.rows) : 0 < r.1 := by
  obtain ⟨hpos, -, -, keep, hrows, -⟩ := ht
  rw [hrows] at hr
  exact hpos r (mem_of_mem_filter hr)

end Journal

end Homelab.Lib
