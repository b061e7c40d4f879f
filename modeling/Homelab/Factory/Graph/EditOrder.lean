import Homelab.Factory.Graph.Calls

/-!
# The order of a batch of edits

`_order_edits` of `graph.py` is a topological sort over links it takes from the batch itself.
`Before` says what the links are for, without them: edits of one key keep their order, and the first
edit that adds a key comes before the others that depend on it. `Linked` carries through the loop
that collects the links that each is such a constraint, and that each constraint is a chain of
links. So the sort obeys the constraints, and its order is the least that does (`orderEdits_least`).
-/

namespace Homelab.Factory

open Homelab.Lib Option

variable (edits : List Edit)

/-- The edit at place `i` has to come before the one at place `j`: they are of one key and written
in this order, or it is the first to add a key that the other's dependencies name. -/
def Before (edits : List Edit) (i j : Nat) : Prop :=
  ∃ edit ∈ edits[j]?, i < j ∧ edits[i]?.map Edit.nodeKey = some edit.nodeKey ∨
    i ≠ j ∧ ∃ key ∈ edit.deps, producer edits key = some i

instance (i j : Nat) : Decidable (Before edits i j) :=
  inferInstanceAs (Decidable (∃ edit ∈ edits[j]?, _))

/-- An order of the places that keeps every edit behind those it has to follow. -/
def Obeys (edits : List Edit) (places : List Nat) : Prop :=
  ∀ i j, Before edits i j → places.idxOf i < places.idxOf j

/-! ## The links -/

variable {edges : List (Nat × Nat)} {e : Nat × Nat}

lemma mem_link {before after : Nat} :
    e ∈ link edges before after ↔ e ∈ edges ∨ before ≠ after ∧ e = (before, after) := by
  unfold link
  split_ifs with hnew
  · simp [hnew.1]
  · rw [not_and, not_not] at hnew
    refine ⟨.inl, fun h => h.elim id ?_⟩
    rintro ⟨hne, rfl⟩
    exact hnew hne

lemma mem_linkFrom {before : Option Nat} {after : Nat} :
    e ∈ before.elim edges (link edges · after) ↔
      e ∈ edges ∨ before = some e.1 ∧ e.1 ≠ after ∧ e.2 = after := by
  cases before with
  | none => simp
  | some before =>
    rw [elim_some, mem_link, Prod.ext_iff]
    grind

variable {st : List (Nat × Nat) × List (String × Nat)} {edit : Edit}

lemma mem_linkEdit {index : Nat} :
    e ∈ (linkEdit edits st (edit, index)).1 ↔ e ∈ st.1 ∨ e.1 ≠ index ∧ e.2 = index ∧
      (st.2.lookup edit.nodeKey = some e.1 ∨ ∃ key ∈ edit.deps, producer edits key = some e.1) := by
  have hdeps : ∀ (deps : List String) (edges : List (Nat × Nat)),
      e ∈ deps.foldl (fun edges dep => (producer edits dep).elim edges (link edges · index)) edges ↔
        e ∈ edges ∨ e.1 ≠ index ∧ e.2 = index ∧ ∃ key ∈ deps, producer edits key = some e.1 := by
    intro deps
    induction deps with
    | nil => simp
    | cons dep deps ih =>
      intro edges
      rw [List.foldl_cons, ih, mem_linkFrom]
      grind
  unfold linkEdit
  rw [hdeps, mem_linkFrom]
  grind

/-- The links of the first edits. -/
structure Linked (edits : List Edit) (n : Nat) (st : List (Nat × Nat) × List (String × Nat)) :
    Prop where
  before : ∀ i j, (i, j) ∈ st.1 → Before edits i j
  touched : ∀ key i, st.2.lookup key = some i → i < n ∧ edits[i]?.map Edit.nodeKey = some key
  last : ∀ key, ∀ i < n, edits[i]?.map Edit.nodeKey = some key →
    ∃ m, st.2.lookup key = some m ∧ i ≤ m
  linked : ∀ i j, j < n → Before edits i j → Relation.TransGen (fun i j => (i, j) ∈ st.1) i j

variable {edits} in
lemma Linked.step {n : Nat} (h : Linked edits n st) (hedit : edits[n]? = some edit) :
    Linked edits (n + 1) (linkEdit edits st (edit, n)) where
  before i j he := by
    rcases (mem_linkEdit edits).mp he with he | ⟨hne, rfl, htouch | hdep⟩
    · exact h.before i j he
    · exact ⟨edit, hedit, .inl (h.touched _ _ htouch)⟩
    · exact ⟨edit, hedit, .inr ⟨hne, hdep⟩⟩
  touched key i hi := by
    rw [linkEdit, List.lookup_cons] at hi
    split at hi
    · rename_i hkey
      obtain rfl := some.inj hi
      rw [hedit, map_some, eq_of_beq hkey]
      exact ⟨Nat.lt_succ_self _, rfl⟩
    · exact (h.touched key i hi).imp_left Nat.lt_succ_of_lt
  last key i hi hkey := by
    rw [linkEdit, List.lookup_cons]
    split
    · exact ⟨n, rfl, Nat.le_of_lt_succ hi⟩
    · rename_i hne
      refine h.last key i (Nat.lt_of_le_of_ne (Nat.le_of_lt_succ hi) ?_) hkey
      rintro rfl
      rw [hedit, map_some, some.injEq] at hkey
      simp [hkey] at hne
  linked i j hj hbefore := by
    have hold : ∀ i j, j < n → Before edits i j →
        Relation.TransGen (fun i j => (i, j) ∈ (linkEdit edits st (edit, n)).1) i j :=
      fun i j hj hbefore => Relation.TransGen.mono
        (fun i j he => (mem_linkEdit edits).mpr (.inl he)) _ _ (h.linked i j hj hbefore)
    rcases Nat.lt_succ_iff_lt_or_eq.mp hj with hj | rfl
    · exact hold i j hj hbefore
    · obtain ⟨edit', hedit', ⟨hlt, hkey⟩ | ⟨hne, hdep⟩⟩ := hbefore
      · obtain rfl := some.inj (hedit.symm.trans hedit')
        -- the last edit of the key so far is `i` or comes after it
        obtain ⟨m, hm, him⟩ := h.last _ i hlt hkey
        obtain ⟨hmj, hkeym⟩ := h.touched _ _ hm
        have hnew : (m, j) ∈ (linkEdit edits st (edit, j)).1 :=
          (mem_linkEdit edits).mpr (.inr ⟨hmj.ne, rfl, .inl hm⟩)
        rcases Nat.lt_or_eq_of_le him with him | rfl
        · obtain ⟨last, hlast, hkeym⟩ := map_eq_some_iff.mp hkeym
          exact (hold i m hmj ⟨last, hlast, .inl ⟨him, hkeym ▸ hkey⟩⟩).tail hnew
        · exact .single hnew
      · obtain rfl := some.inj (hedit.symm.trans hedit')
        exact .single ((mem_linkEdit edits).mpr (.inr ⟨hne, rfl, .inr hdep⟩))

lemma links_linked : Linked edits edits.length
    (edits.zipIdx.foldl (linkEdit edits) ([], [])) := by
  suffices ∀ first, first <+: edits →
      Linked edits first.length (first.zipIdx.foldl (linkEdit edits) ([], [])) from
    this edits List.prefix_rfl
  intro first
  induction first using List.reverseRecOn with
  | nil =>
    intro _
    exact ⟨by simp, by simp, by simp, by simp⟩
  | append_singleton first edit ih =>
    rintro ⟨rest, rfl⟩
    rw [List.zipIdx_append, List.foldl_append, List.length_append]
    have hprefix := ih (by rw [List.append_assoc]; exact List.prefix_append _ _)
    have hedit : (first ++ [edit] ++ rest)[first.length]? = some edit := by simp
    simpa using hprefix.step hedit

/-! ## The order -/

variable {edits} in
lemma Before.lt {i j : Nat} (h : Before edits i j) : i < edits.length ∧ j < edits.length := by
  obtain ⟨edit, hedit, ⟨hlt, -⟩ | ⟨-, key, -, hkey⟩⟩ := h
  · have hj := (List.getElem?_eq_some_iff.mp hedit).1
    exact ⟨hlt.trans hj, hj⟩
  · obtain ⟨⟨edit', i'⟩, hfind, rfl⟩ := map_eq_some_iff.mp hkey
    exact ⟨by simpa using List.snd_lt_of_mem_zipIdx (List.mem_of_find?_eq_some hfind),
      (List.getElem?_eq_some_iff.mp hedit).1⟩

variable {places : List Nat}

lemma obeys_iff (hperm : places.Perm (List.range edits.length)) :
    Obeys edits places ↔ Respects (links edits) places := by
  have hlinked := links_linked edits
  rw [respects_iff (hperm.nodup_iff.mpr List.nodup_range)]
  constructor
  · intro h i j hij _
    exact h i j (hlinked.before i j hij)
  · intro h i j hij
    refine lt_of_transGen (fun i j hij => h i j hij ?_) (hlinked.linked i j hij.lt.2 hij)
    exact hperm.mem_iff.mpr (List.mem_range.mpr (hlinked.before i j hij).lt.2)

variable {edits} in
/-- An order that obeys shows that nothing has to come before itself. -/
lemma Obeys.acyclic (h : Obeys edits places) (i : Nat) : ¬ Relation.TransGen (Before edits) i i :=
  fun hi => lt_irrefl _ (lt_of_transGen h hi)

/-- The places determine the list of edits with their places. -/
lemma eq_of_places {l l' : List (Nat × Edit)} (h : ∀ p ∈ l, edits[p.1]? = some p.2)
    (h' : ∀ p ∈ l', edits[p.1]? = some p.2) (hplaces : l.map Prod.fst = l'.map Prod.fst) :
    l = l' := by
  have hread : ∀ l : List (Nat × Edit), (∀ p ∈ l, edits[p.1]? = some p.2) →
      (l.map Prod.fst).filterMap (fun i => edits[i]?.map (i, ·)) = l := by
    intro l h
    rw [List.filterMap_map]
    refine (List.filterMap_congr fun p hp => ?_).trans List.filterMap_some
    simp [h p hp]
  rw [← hread l h, hplaces, hread l' h']

/-- Where nothing has to come before itself, the loop puts out every place. -/
lemma orderEdits_places_of_acyclic (h : ∀ i, ¬ Relation.TransGen (Before edits) i i) :
    (orderEdits edits).map Prod.fst = toposort (List.range edits.length) (links edits) := by
  have hlinked := links_linked edits
  have hlen := toposort_length List.nodup_range (links_linksInto edits).1 (links_inside edits)
    (fun e he => List.mem_range.mpr (hlinked.before e.1 e.2 he).lt.1)
    (fun i hi => h i (Relation.TransGen.mono hlinked.before _ _ hi))
  exact orderEdits_places edits (by simpa using hlen)

lemma toposort_obeys (hperm : places.Perm (List.range edits.length))
    (hplaces : places = toposort (List.range edits.length) (links edits)) : Obeys edits places := by
  rw [obeys_iff edits hperm, hplaces]
  exact toposort_respects List.nodup_range (links_linksInto edits).1 (links_inside edits)

/-- **The least valid order.** The result is a permutation of the batch. Where the constraints have
no cycle it obeys them, and no other order of the places that does comes before it; so a batch that
obeys them already is left as it is. So is one whose constraints have a cycle. -/
theorem orderEdits_least : (((orderEdits edits).map Prod.fst).Perm (List.range edits.length) ∧
      ∀ indexed ∈ orderEdits edits, edits[indexed.1]? = some indexed.2) ∧
    ((∀ i, ¬ Relation.TransGen (Before edits) i i) →
      Obeys edits ((orderEdits edits).map Prod.fst) ∧
        ∀ places : List Nat, places.Perm (List.range edits.length) → Obeys edits places →
          (orderEdits edits).map Prod.fst ≤ places) ∧
    (Obeys edits (List.range edits.length) → orderEdits edits = edits.zipIdx.map Prod.swap) ∧
    ((∃ i, Relation.TransGen (Before edits) i i) →
      orderEdits edits = edits.zipIdx.map Prod.swap) := by
  obtain ⟨hperm, hread⟩ := orderEdits_perm edits
  have hle : (∀ i, ¬ Relation.TransGen (Before edits) i i) → ∀ places : List Nat,
      places.Perm (List.range edits.length) → Obeys edits places →
        (orderEdits edits).map Prod.fst ≤ places := by
    intro h places hp hobeys
    rw [orderEdits_places_of_acyclic edits h]
    exact toposort_le List.nodup_range (links_linksInto edits).1 (links_inside edits) hp
      ((obeys_iff edits hp).mp hobeys)
  refine ⟨⟨hperm, hread⟩, fun h => ⟨?_, hle h⟩, fun h => ?_, fun ⟨i, hi⟩ => ?_⟩
  · exact toposort_obeys edits hperm (orderEdits_places_of_acyclic edits h)
  · have hplaces : (orderEdits edits).map Prod.fst = List.range edits.length :=
      le_antisymm (hle h.acyclic _ (.refl _) h)
        (le_of_perm_of_sorted (List.pairwise_lt_range.imp le_of_lt) hperm.symm)
    exact eq_of_places edits hread (zipIdx_read edits) (hplaces.trans (zipIdx_places edits).symm)
  · by_contra hne
    have hlen : (toposort (List.range edits.length) (links edits)).length = edits.length := by
      by_contra hlen
      exact hne (if_pos hlen)
    exact (toposort_obeys edits hperm (orderEdits_places edits hlen)).acyclic i hi

/-- An add of a node that waits for others. -/
def Edit.waiting (nodeKey : String) (deps : List String) : Edit :=
  .addNode .null .null { Task.plainNode nodeKey "" with deps }

/-- Three batches of two adds: one is turned round, one is in order, one has a cycle. -/
theorem orderEdits_least_twoAdds : Obeys [.waiting "a" ["b"], .waiting "b" []] [1, 0] ∧
      (orderEdits [.waiting "a" ["b"], .waiting "b" []]).map Prod.fst ≤ [1, 0] ∧
      orderEdits [.waiting "b" [], .waiting "a" ["b"]] =
        [(0, .waiting "b" []), (1, .waiting "a" ["b"])] ∧
      orderEdits [.waiting "a" ["b"], .waiting "b" ["a"]] =
        [(0, .waiting "a" ["b"]), (1, .waiting "b" ["a"])] := by
  have hturned : Obeys [.waiting "a" ["b"], .waiting "b" []] [1, 0] := fun i j h =>
    (by decide : ∀ i < 2, ∀ j < 2, Before [.waiting "a" ["b"], .waiting "b" []] i j →
      [1, 0].idxOf i < [1, 0].idxOf j) i h.lt.1 j h.lt.2 h
  have hordered : Obeys [.waiting "b" [], .waiting "a" ["b"]] (List.range 2) := fun i j h =>
    (by decide : ∀ i < 2, ∀ j < 2, Before [.waiting "b" [], .waiting "a" ["b"]] i j →
      (List.range 2).idxOf i < (List.range 2).idxOf j) i h.lt.1 j h.lt.2 h
  refine ⟨hturned, ?_, ?_, ?_⟩
  · exact ((orderEdits_least _).2.1 hturned.acyclic).2 [1, 0] (by decide) hturned
  · exact (orderEdits_least _).2.2.1 hordered
  · exact (orderEdits_least _).2.2.2 ⟨0, .tail (.single (b := 1) (by decide)) (by decide)⟩

end Homelab.Factory
