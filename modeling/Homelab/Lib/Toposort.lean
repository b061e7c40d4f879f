import Mathlib.Data.Fintype.EquivFin
import Mathlib.Data.List.Lex
import Mathlib.Data.List.Sort
import Mathlib.Data.List.Perm.Subperm
import Mathlib.Logic.Function.Basic

/-!
# Topological sorting, smallest vertex first

The loop with a heap: take the smallest vertex nothing points to any more, put it out, and lower the
indegree of its successors; a vertex whose indegree reaches zero joins the heap. A heap is here the
ascending list of its elements. Vertices on a cycle are never put out.

`Sorting.Sound` is the invariant: a vertex of the graph is put out or waiting exactly when no edge
from a vertex still inside points to it. From it, for a graph without repeated edges:

* `toposort_nodup` and `toposort_subset`: no vertex is put out twice, and none from outside; with
  `toposort_perm`, an order of full length lists every vertex once;
* `toposort_respects`: the source of every edge is put out before its target;
* `toposort_le`: among the orders of all vertices that respect the edges it is the least;
* `toposort_finished` and `toposort_length`: the loop has come to its end, and without a cycle every
  vertex is out.
-/

namespace Homelab.Lib

open List

variable {α : Type*} [LinearOrder α]

/-- The variables of the loop. -/
structure Sorting (α : Type*) where
  /-- The heap, ascending. -/
  available : List α
  indegree : α → Nat
  order : List α

variable (edges : List (α × α))

/-- The successors of a vertex, ascending. -/
def successors (v : α) : List α :=
  ((edges.filter (·.1 = v)).map Prod.snd).insertionSort (· ≤ ·)

/-- One edge into `w` is gone. -/
def Sorting.release (st : Sorting α) (w : α) : Sorting α :=
  { st with
    indegree := Function.update st.indegree w (st.indegree w - 1)
    available :=
      if st.indegree w - 1 = 0 then st.available.orderedInsert (· ≤ ·) w else st.available }

/-- The loop, for a number of rounds. -/
def Sorting.rounds (edges : List (α × α)) : Nat → Sorting α → Sorting α
  | 0, st => st
  | fuel + 1, st =>
    match st.available with
    | [] => st
    | v :: rest =>
      Sorting.rounds edges fuel <| (successors edges v).foldl Sorting.release
        { st with available := rest, order := st.order ++ [v] }

/-- The number of edges into a vertex. -/
def indegreeIn (v : α) : Nat :=
  (edges.filter (·.2 = v)).length

/-- The variables before the first round. -/
def Sorting.start (vertices : List α) (edges : List (α × α)) : Sorting α where
  available := (vertices.filter (indegreeIn edges · = 0)).insertionSort (· ≤ ·)
  indegree := indegreeIn edges
  order := []

/-- The order the loop puts the vertices out in. -/
def toposort (vertices : List α) (edges : List (α × α)) : List α :=
  (Sorting.rounds edges vertices.length (Sorting.start vertices edges)).order

/-- In the order, every vertex comes after the sources of its edges. -/
def Respects (order : List α) : Prop :=
  ∀ pre v post, order = pre ++ v :: post → ∀ u, (u, v) ∈ edges → u ∈ pre

/-- The edges into `v` whose source has not been put out. -/
def openEdges (order : List α) (v : α) : List (α × α) :=
  edges.filter fun e => e.2 = v ∧ e.1 ∉ order

/-- The invariant of the loop. -/
structure Sorting.Sound (vertices : List α) (edges : List (α × α)) (st : Sorting α) : Prop where
  nodup : (st.order ++ st.available).Nodup
  mem_iff : ∀ v, v ∈ st.order ++ st.available ↔ v ∈ vertices ∧ st.indegree v = 0
  count : ∀ v, st.indegree v = (openEdges edges st.order v).length
  respects : Respects edges st.order

section Release

lemma foldl_release_order (ws : List α) (st : Sorting α) :
    (ws.foldl Sorting.release st).order = st.order := by
  induction ws generalizing st with
  | nil => rfl
  | cons w ws ih => exact ih (st.release w)

/-- Releasing distinct vertices lowers each once and adds those that were at one. -/
lemma foldl_release (st : Sorting α) {ws : List α} (hnodup : ws.Nodup)
    (hpos : ∀ w ∈ ws, 0 < st.indegree w) :
    (∀ v, (ws.foldl Sorting.release st).indegree v =
        if v ∈ ws then st.indegree v - 1 else st.indegree v) ∧
      (ws.foldl Sorting.release st).available.Perm
        (st.available ++ ws.filter (st.indegree · = 1)) := by
  induction ws generalizing st with
  | nil => exact ⟨fun v => by simp, by simp⟩
  | cons w ws ih =>
    obtain ⟨hw, hrest⟩ := nodup_cons.mp hnodup
    -- the other vertices have the same indegree after the first release
    have hsame : ∀ v ∈ ws, (st.release w).indegree v = st.indegree v := by
      rintro v hv
      exact Function.update_of_ne (ne_of_mem_of_not_mem hv hw) _ _
    have hposRest : ∀ v ∈ ws, 0 < (st.release w).indegree v := fun v hv => by
      rw [hsame v hv]
      exact hpos v (mem_cons_of_mem _ hv)
    obtain ⟨hdegree, havailable⟩ := ih (st.release w) hrest hposRest
    refine ⟨fun v => ?_, ?_⟩
    · rw [foldl_cons, hdegree v]
      by_cases hvw : v = w
      · subst hvw
        rw [if_neg hw, if_pos mem_cons_self]
        exact Function.update_self ..
      · have : (st.release w).indegree v = st.indegree v := Function.update_of_ne hvw _ _
        simp [this, hvw]
    · refine havailable.trans ?_
      have hfilter : ws.filter ((st.release w).indegree · = 1) =
          ws.filter (st.indegree · = 1) :=
        filter_congr fun v hv => by rw [hsame v hv]
      rw [hfilter]
      have hwpos := hpos w mem_cons_self
      by_cases hone : st.indegree w = 1
      · have hzero : st.indegree w - 1 = 0 := by omega
        rw [filter_cons_of_pos (by simpa using hone)]
        simp only [Sorting.release, if_pos hzero]
        exact ((perm_orderedInsert _ _ _).append_right _).trans perm_middle.symm
      · have hzero : st.indegree w - 1 ≠ 0 := by omega
        rw [filter_cons_of_neg (by simpa using hone)]
        simp only [Sorting.release, if_neg hzero]
        exact .refl _

end Release

section Invariant

variable {vertices : List α} {edges : List (α × α)}

lemma mem_successors {v w : α} : w ∈ successors edges v ↔ (v, w) ∈ edges := by
  simp [successors]

lemma successors_nodup (hedges : edges.Nodup) (v : α) : (successors edges v).Nodup := by
  rw [successors, (perm_insertionSort _ _).nodup_iff]
  refine List.Nodup.map_on ?_ (hedges.filter _)
  rintro ⟨a, b⟩ ha ⟨c, d⟩ hc heq
  have hav : a = v := by simpa using (mem_filter.mp ha).2
  have hcv : c = v := by simpa using (mem_filter.mp hc).2
  exact Prod.ext (hav.trans hcv.symm) heq

/-- Putting `v` out closes its one edge into `w`, if there is one. -/
lemma length_openEdges_snoc (hedges : edges.Nodup) {order : List α} {v : α} (hv : v ∉ order)
    (w : α) : (openEdges edges (order ++ [v]) w).length =
      if (v, w) ∈ edges then (openEdges edges order w).length - 1
      else (openEdges edges order w).length := by
  have herase : openEdges edges (order ++ [v]) w = (openEdges edges order w).erase (v, w) := by
    unfold openEdges
    rw [List.Nodup.erase_eq_filter (hedges.filter _), filter_filter]
    apply filter_congr
    rintro ⟨a, b⟩ -
    rw [Bool.eq_iff_iff]
    simp only [mem_append, mem_singleton, decide_eq_true_eq, Bool.and_eq_true, bne_iff_ne, ne_eq,
      Prod.mk.injEq]
    tauto
  rw [herase, length_erase]
  simp [openEdges, hv]

lemma Sorting.sound_start (hvertices : vertices.Nodup) :
    (Sorting.start vertices edges).Sound vertices edges where
  nodup := by
    exact (perm_insertionSort _ _).nodup_iff.mpr (hvertices.filter _)
  mem_iff v := by simp [Sorting.start]
  count v := by simp [Sorting.start, openEdges, indegreeIn]
  respects := by
    intro pre v post h
    simp [Sorting.start] at h

omit [LinearOrder α] in
lemma Respects.snoc {order : List α} {v : α} (h : Respects edges order)
    (hv : ∀ u, (u, v) ∈ edges → u ∈ order) : Respects edges (order ++ [v]) := by
  intro pre w post heq u hu
  rcases eq_nil_or_concat post with rfl | ⟨post', x, rfl⟩
  · obtain ⟨rfl, hw⟩ := append_inj' heq rfl
    obtain rfl : v = w := by simpa using hw
    exact hv u hu
  · have : order ++ [v] = (pre ++ w :: post') ++ [x] := by simpa using heq
    exact h pre w post' (append_inj' this rfl).1 u hu

lemma idxOf_lt_iff {pre post : List α} {u v : α} (h : (pre ++ v :: post).Nodup) :
    (pre ++ v :: post).idxOf u < (pre ++ v :: post).idxOf v ↔ u ∈ pre := by
  have hv : v ∉ pre := fun hv => disjoint_of_nodup_append h hv mem_cons_self
  rw [idxOf_append_of_notMem hv, idxOf_cons_self, Nat.add_zero, idxOf_append]
  split_ifs with hu
  · exact iff_of_true (idxOf_lt_length_iff.mpr hu) hu
  · exact iff_of_false (by omega) hu

/-- In an order without repetitions the edges are a matter of places. -/
lemma respects_iff {order : List α} (hnodup : order.Nodup) : Respects edges order ↔
      ∀ u v, (u, v) ∈ edges → v ∈ order → order.idxOf u < order.idxOf v := by
  constructor
  · intro h u v huv hv
    obtain ⟨pre, post, rfl⟩ := append_of_mem hv
    exact (idxOf_lt_iff hnodup).mpr (h pre v post rfl u huv)
  · rintro h pre v post rfl u huv
    exact (idxOf_lt_iff hnodup).mp (h u v huv (by simp))

variable {st : Sorting α} {v : α} {rest : List α}

/-- The variables after a round. -/
def Sorting.pop (st : Sorting α) (edges : List (α × α)) (v : α) (rest : List α) : Sorting α :=
  (successors edges v).foldl Sorting.release
    { st with available := rest, order := st.order ++ [v] }

lemma Sorting.pop_order (st : Sorting α) : (st.pop edges v rest).order = st.order ++ [v] :=
  foldl_release_order _ _

lemma foldl_release_sorted (ws : List α) (h : st.available.Pairwise (· ≤ ·)) :
    (ws.foldl Sorting.release st).available.Pairwise (· ≤ ·) := by
  refine foldlRecOn (motive := fun st : Sorting α => st.available.Pairwise (· ≤ ·)) ws _ h ?_
  intro st hst w _
  unfold Sorting.release
  split_ifs
  · exact hst.orderedInsert w _
  · exact hst

lemma Sorting.order_rounds (edges : List (α × α)) (fuel : Nat) (st : Sorting α) :
    st.order <+: (st.rounds edges fuel).order := by
  induction fuel generalizing st with
  | zero => exact prefix_rfl
  | succ fuel ih =>
    rw [Sorting.rounds]
    split
    · exact prefix_rfl
    · refine List.IsPrefix.trans ?_ (ih _)
      rw [foldl_release_order]
      exact prefix_append _ _

namespace Sorting.Sound

variable (h : st.Sound vertices edges)
include h

lemma length_le : (st.order ++ st.available).length ≤ vertices.length :=
  (h.nodup.subperm fun v hv => ((h.mem_iff v).mp hv).1).length_le

/-- A vertex all of whose sources are out is out or waiting. -/
lemma mem_of_sources (hv : v ∈ vertices)
    (hu : ∀ u, (u, v) ∈ edges → u ∈ st.order) : v ∈ st.order ++ st.available := by
  refine (h.mem_iff v).mpr ⟨hv, ?_⟩
  rw [h.count v, length_eq_zero_iff, openEdges, filter_eq_nil_iff]
  rintro ⟨u, w⟩ he
  simp only [decide_eq_true_eq, not_and, not_not]
  rintro rfl
  exact hu u he

variable (hedges : edges.Nodup) (hinside : ∀ e ∈ edges, e.2 ∈ vertices)
include hedges hinside

/-- One round keeps the invariant. -/
lemma pop (havail : st.available = v :: rest) : (st.pop edges v rest).Sound vertices edges := by
  have hold := h.nodup
  rw [havail] at hold
  have hv : v ∉ st.order := fun hmem =>
    disjoint_of_nodup_append hold hmem mem_cons_self
  have hpos : ∀ w ∈ successors edges v, 0 < st.indegree w := by
    intro w hw
    rw [h.count w]
    have hopen : (v, w) ∈ openEdges edges st.order w :=
      mem_filter.mpr ⟨mem_successors.mp hw, by simpa using hv⟩
    exact length_pos_of_mem hopen
  have horder : (st.pop edges v rest).order = st.order ++ [v] := st.pop_order
  obtain ⟨hdegree, havailable⟩ :=
    foldl_release { st with available := rest, order := st.order ++ [v] }
      (successors_nodup hedges v) hpos
  change ∀ w, (st.pop edges v rest).indegree w = _ at hdegree
  change (st.pop edges v rest).available.Perm _ at havailable
  generalize st.pop edges v rest = st' at horder hdegree havailable ⊢
  -- what is out or waiting afterwards: what was, and the successors this round set free
  have hperm : (st'.order ++ st'.available).Perm
      ((st.order ++ st.available) ++ (successors edges v).filter (st.indegree · = 1)) := by
    rw [horder, havail]
    refine (havailable.append_left _).trans ?_
    simp
  refine ⟨?_, fun w => ?_, fun w => ?_, ?_⟩
  · rw [hperm.nodup_iff]
    refine h.nodup.append ((successors_nodup hedges v).filter _) fun w hw hfree => ?_
    have hzero := ((h.mem_iff w).mp hw).2
    have hone : st.indegree w = 1 := by simpa using (mem_filter.mp hfree).2
    omega
  · rw [hperm.mem_iff, mem_append, h.mem_iff w, mem_filter, hdegree w]
    simp only [decide_eq_true_eq]
    constructor
    · rintro (⟨hw, hzero⟩ | ⟨hw, hone⟩)
      · exact ⟨hw, by split_ifs <;> omega⟩
      · exact ⟨hinside _ (mem_successors.mp hw), by rw [if_pos hw]; omega⟩
    · rintro ⟨hw, hzero⟩
      split_ifs at hzero with hsucc
      · exact .inr ⟨hsucc, by have := hpos w hsucc; omega⟩
      · exact .inl ⟨hw, hzero⟩
  · rw [hdegree w, horder, length_openEdges_snoc hedges hv w, h.count w]
    simp only [mem_successors]
  · rw [horder]
    refine h.respects.snoc fun u hu => ?_
    -- nothing still inside points to a vertex on the heap
    by_contra hout
    have hzero := ((h.mem_iff v).mp (by simp [havail])).2
    rw [h.count v] at hzero
    have hopen : (u, v) ∈ openEdges edges st.order v :=
      mem_filter.mpr ⟨hu, by simpa using hout⟩
    rw [length_eq_zero_iff.mp hzero] at hopen
    exact absurd hopen not_mem_nil

lemma rounds (fuel : Nat) : (st.rounds edges fuel).Sound vertices edges := by
  induction fuel generalizing st with
  | zero => exact h
  | succ fuel ih =>
    rw [Sorting.rounds]
    split
    · exact h
    · rename_i v rest havail
      exact ih (h.pop hedges hinside havail)

/-- With a round left for every vertex not yet out, the loop runs until its heap is empty. -/
lemma rounds_available (fuel : Nat) (hfuel : vertices.length ≤ st.order.length + fuel) :
    (st.rounds edges fuel).available = [] := by
  induction fuel generalizing st with
  | zero =>
    have hlen := h.length_le
    rw [length_append] at hlen
    exact length_eq_zero_iff.mp (by change st.available.length = 0; omega)
  | succ fuel ih =>
    rw [Sorting.rounds]
    split
    · assumption
    · rename_i v rest havail
      refine ih (h.pop hedges hinside havail) ?_
      rw [foldl_release_order, length_append, length_singleton]
      omega

/-- No order of the vertices that respects the edges and begins as the loop has begun comes before
the one the loop ends with. -/
lemma rounds_le (hvertices : vertices.Nodup) (fuel : Nat)
    (hsorted : st.available.Pairwise (· ≤ ·)) {tail : List α}
    (hperm : (st.order ++ tail).Perm vertices) (hrespects : Respects edges (st.order ++ tail)) :
    (st.rounds edges fuel).order ≤ st.order ++ tail := by
  induction fuel generalizing st tail with
  | zero => exact not_lt.mp (prefix_append st.order tail).le
  | succ fuel ih =>
    rw [Sorting.rounds]
    split
    · exact not_lt.mp (prefix_append st.order tail).le
    · rename_i v rest havail
      have hout : ∀ u, u ∈ st.available → u ∉ st.order := fun u hu hmem =>
        disjoint_of_nodup_append h.nodup hmem hu
      cases tail with
      | nil =>
        have hv : v ∈ st.available := by simp [havail]
        have hin : v ∈ vertices := ((h.mem_iff v).mp (mem_append_right _ hv)).1
        exact absurd (by simpa using hperm.mem_iff.mpr hin) (hout v hv)
      | cons w tail =>
        -- the other order goes on with a vertex that waits, so not with a smaller one
        have hw : w ∈ st.available := by
          have hmem := h.mem_of_sources (hperm.mem_iff.mp (by simp)) (hrespects st.order w tail rfl)
          refine (mem_append.mp hmem).resolve_left fun hold => ?_
          exact disjoint_of_nodup_append (hperm.nodup_iff.mpr hvertices) hold mem_cons_self
        rw [havail] at hw hsorted
        have hle : v ≤ w := by
          rcases mem_cons.mp hw with rfl | hw
          · exact le_rfl
          · exact (pairwise_cons.mp hsorted).1 w hw
        rcases hle.lt_or_eq with hlt | rfl
        · obtain ⟨more, hmore⟩ := Sorting.order_rounds edges fuel (st.pop edges v rest)
          rw [← Sorting.pop, ← hmore, Sorting.pop_order, append_assoc]
          exact le_of_lt (append_left_lt (cons_lt_cons_iff.mpr (.inl hlt)))
        · have horder : (st.pop edges v rest).order = st.order ++ [v] := st.pop_order
          rw [append_cons, ← horder] at hperm hrespects
          have hrest := ih (h.pop hedges hinside havail)
            (foldl_release_sorted _ (pairwise_cons.mp hsorted).2) hperm hrespects
          rwa [horder, ← append_cons] at hrest

end Sorting.Sound

end Invariant

/-- An ascending list comes before its permutations. -/
lemma le_of_perm_of_sorted {l l' : List α} (hsorted : l.Pairwise (· ≤ ·)) (h : l.Perm l') :
    l ≤ l' := by
  induction l generalizing l' with
  | nil => exact not_lt.mp (not_lt_nil l')
  | cons a l ih =>
    cases l' with
    | nil => exact absurd h.length_eq (by simp)
    | cons b l' =>
      obtain ⟨hle, hsorted⟩ := pairwise_cons.mp hsorted
      by_cases hab : a = b
      · subst hab
        exact cons_le_cons a (ih hsorted h.cons_inv)
      · have hb : b ∈ l :=
          (mem_cons.mp (h.mem_iff.mpr mem_cons_self)).resolve_left (Ne.symm hab)
        exact le_of_lt (cons_lt_cons_iff.mpr (.inl (lt_of_le_of_ne (hle b hb) hab)))

/-- Along a chain of steps that each raise `f`, it is raised. -/
lemma lt_of_transGen {β : Type*} {r : β → β → Prop} {f : β → Nat} (h : ∀ u v, r u v → f u < f v)
    {u v : β} (huv : Relation.TransGen r u v) : f u < f v := by
  induction huv with
  | single huv => exact h _ _ huv
  | tail _ hvw ih => exact ih.trans (h _ _ hvw)

section Results

variable {vertices : List α} {edges : List (α × α)} (hvertices : vertices.Nodup)
  (hedges : edges.Nodup) (hinside : ∀ e ∈ edges, e.2 ∈ vertices)

include hvertices hedges hinside

lemma toposort_sound :
    (Sorting.rounds edges vertices.length (Sorting.start vertices edges)).Sound vertices edges :=
  (Sorting.sound_start hvertices).rounds hedges hinside _

lemma toposort_nodup : (toposort vertices edges).Nodup :=
  (toposort_sound hvertices hedges hinside).nodup.of_append_left

lemma toposort_subset : toposort vertices edges ⊆ vertices := fun v hv =>
  (((toposort_sound hvertices hedges hinside).mem_iff v).mp (mem_append_left _ hv)).1

/-- An order of full length lists every vertex once. -/
lemma toposort_perm (hlen : (toposort vertices edges).length = vertices.length) :
    (toposort vertices edges).Perm vertices :=
  ((toposort_nodup hvertices hedges hinside).subperm
    (toposort_subset hvertices hedges hinside)).perm_of_length_le hlen.ge

lemma toposort_finished :
    (Sorting.rounds edges vertices.length (Sorting.start vertices edges)).available = [] :=
  (Sorting.sound_start hvertices).rounds_available hedges hinside _ (by simp)

lemma toposort_respects : Respects edges (toposort vertices edges) :=
  (toposort_sound hvertices hedges hinside).respects

/-- **The order is the least** of those that respect the edges. -/
theorem toposort_le {order : List α} (hperm : order.Perm vertices)
    (hrespects : Respects edges order) : toposort vertices edges ≤ order :=
  (Sorting.sound_start hvertices).rounds_le hedges hinside hvertices vertices.length
    (pairwise_insertionSort _ _) hperm hrespects

/-- Without a cycle every vertex is put out. -/
lemma toposort_length (hsource : ∀ e ∈ edges, e.1 ∈ vertices)
    (hacyclic : ∀ v, ¬ Relation.TransGen (fun u v => (u, v) ∈ edges) v v) :
    (toposort vertices edges).length = vertices.length := by
  have hwf : WellFounded fun u v : { v // v ∈ vertices } =>
      Relation.TransGen (fun u v => (u, v) ∈ edges) u.1 v.1 :=
    @Finite.wellFounded_of_trans_of_irrefl _ _ _ ⟨fun _ _ _ => .trans⟩ ⟨fun v => hacyclic v.1⟩
  have hall : ∀ v : { v // v ∈ vertices }, v.1 ∈ toposort vertices edges := by
    intro v
    induction v using hwf.induction with
    | _ v ih =>
    have hmem := (toposort_sound hvertices hedges hinside).mem_of_sources v.2
      fun u hu => ih ⟨u, hsource _ hu⟩ (.single hu)
    rwa [toposort_finished hvertices hedges hinside, append_nil] at hmem
  refine le_antisymm ?_ (hvertices.subperm fun v hv => hall ⟨v, hv⟩).length_le
  exact ((toposort_nodup hvertices hedges hinside).subperm
    (toposort_subset hvertices hedges hinside)).length_le

end Results

end Homelab.Lib
