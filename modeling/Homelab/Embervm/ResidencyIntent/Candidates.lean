import Mathlib.Data.Prod.Lex
import Mathlib.Data.String.Basic
import Homelab.Lib.Table
import Homelab.Lib.RoundRobin
import Homelab.Lib.SortBy

/-!
# Which residency intents are tried next

`Embervm.ResidencyIntent.candidates/3`: the queued intents, one of each principal in turn, the
principal's oldest first, up to a limit. The walk over the principals starts after the one that was
served last.

* `queue` is the queue of a principal. `groupBy` keeps these queues in a map, a round takes the head
  of each and drops a queue that is used up (`takeRound`).
* `unfoldRounds_eq`: the rounds end, and what they yield is the round robin over the queues.
* `candidates_fair` is what a caller sees.
-/

namespace Homelab.Embervm.ResidencyIntent

open Homelab.Lib List
open Homelab.Lib.RoundRobin

/-- Source: `residency_intent.ex`, `@active` and `@terminal` -/
inductive IntentState
  | queued | admitting | ready | cancelling
  | consumed | cancelled | expired | failed
  deriving DecidableEq, Repr

/-- The fields of an intent that the selection reads. -/
structure Intent where
  id : String
  principal : Option String
  firstWaitAt : Int
  createdAt : Int
  queueOrder : Option Int
  state : IntentState
  deriving DecidableEq, Repr

/-- `{first_wait_at, queue_order || created_at, id}` -/
def queueKey (i : Intent) : Int ×ₗ Int ×ₗ String :=
  toLex (i.firstWaitAt, toLex (i.queueOrder.getD i.createdAt, i.id))

variable (intents : List Intent)

/-- The queued intents, the oldest first. -/
def eligible : List Intent :=
  (intents.filter (·.state = .queued)).mergeSort fun a b => queueKey a ≤ queueKey b

/-- The queued intents of a principal, the oldest first. -/
def queue (principal : Option String) : List Intent :=
  (eligible intents).filter (·.principal = principal)

/-- A map from principals to their queues. -/
abbrev Groups := Table (Option String) (List Intent)

/-- `Enum.group_by(& &1["principal"])` -/
def groupBy : Groups :=
  intents.foldr (fun i g => g.insert i.principal (i :: (g.lookup i.principal).getD [])) ∅

/-- The order of terms on principals: the atom `nil` is below every string. -/
def principalLe : Option String → Option String → Bool
  | none, _ => true
  | some _, none => false
  | some a, some b => a ≤ b

/-- The sorted principals, those after `after_principal` first. -/
def rotated (groups : Groups) (afterPrincipal : Option String) : List (Option String) :=
  let principals := groups.keys.mergeSort principalLe
  let passed := fun p => principalLe p (some (afterPrincipal.getD ""))
  principals.dropWhile passed ++ principals.takeWhile passed

/-- One round: the head of each queue, and what is left. -/
def takeRound : List (Option String) → Groups → List Intent × Groups
  | [], rest => ([], rest)
  | p :: ps, rest =>
    match rest.lookup p with
    | some (head :: tail) =>
      let rest := if tail = [] then rest.erase p else rest.insert p tail
      let (items, rest) := takeRound ps rest
      (head :: items, rest)
    | _ => takeRound ps rest

/-- The stream of the rounds, which ends when the map is empty; `none` when it has not ended after
the given number of rounds. -/
def unfoldRounds (ordered : List (Option String)) : Nat → Groups → Option (List Intent)
  | n, remaining =>
    if remaining.keys = [] then some []
    else
      match n with
      | 0 => none
      | n + 1 =>
        let (items, rest) := takeRound ordered remaining
        (unfoldRounds ordered n rest).map (items ++ ·)

/-- Source: `residency_intent.ex`, `candidates/3` -/
def candidates (afterPrincipal : Option String) (limit : Nat) : Option (List Intent) :=
  let groups := groupBy (eligible intents)
  let ordered := rotated groups afterPrincipal
  (unfoldRounds ordered (eligible intents).length groups).map (·.take limit)

/-! ## The map of the queues -/

/-- The queue of a principal in a map. -/
def queueAt (g : Groups) (p : Option String) : List Intent := (g.lookup p).getD []

/-- The map has no empty queue, and its principals are among those of a round. -/
def Kept (ordered : List (Option String)) (g : Groups) : Prop :=
  ∀ p l, g.lookup p = some l → l ≠ [] ∧ p ∈ ordered

lemma queueAt_groupBy (l : List Intent) (p : Option String) :
    queueAt (groupBy l) p = l.filter (·.principal = p) := by
  induction l with
  | nil => rfl
  | cons i l ih =>
    unfold groupBy queueAt at ih ⊢
    rw [foldr_cons, Table.lookup_insert]
    by_cases hp : p = i.principal
    · subst hp
      rw [if_pos rfl, filter_cons_of_pos (by simp), Option.getD_some, ih]
    · rw [if_neg hp, filter_cons_of_neg (by simpa using Ne.symm hp), ih]

lemma groupBy_ne_nil (l : List Intent) {p : Option String} {is : List Intent}
    (h : (groupBy l).lookup p = some is) : is ≠ [] := by
  induction l with
  | nil => cases h
  | cons i l ih =>
    obtain ⟨-, rfl⟩ | ⟨-, h⟩ := Table.of_lookup_insert h
    · simp
    · exact ih h

lemma mem_rotated (g : Groups) (after p : Option String) : p ∈ rotated g after ↔ p ∈ g.keys := by
  unfold rotated
  rw [mem_append, or_comm, ← mem_append, takeWhile_append_dropWhile,
    mem_mergeSort]

lemma nodup_rotated (g : Groups) (after : Option String) : (rotated g after).Nodup := by
  refine (perm_append_comm.nodup_iff).mp ?_
  rw [takeWhile_append_dropWhile]
  exact (mergeSort_perm g.keys _).nodup_iff.mpr g.keys_nodup

variable {ordered : List (Option String)}

lemma Kept.keys_eq_nil {g : Groups} (h : Kept ordered g) : g.keys = [] ↔ ∀ p, queueAt g p = [] := by
  constructor
  · intro hnil p
    have hnot : p ∉ g := fun hmem => by simpa [hnil] using AList.mem_keys.mp hmem
    unfold queueAt
    rw [AList.lookup_eq_none.mpr hnot]
    rfl
  · intro hall
    refine eq_nil_iff_forall_not_mem.mpr fun p hp => ?_
    obtain ⟨l, hl⟩ := Option.isSome_iff_exists.mp (AList.lookup_isSome.mpr (AList.mem_keys.mpr hp))
    have hnil := hall p
    unfold queueAt at hnil
    rw [hl] at hnil
    exact (h p l hl).1 hnil

/-- What one round does to a queue that is not empty in the map. -/
lemma takeRound_spec (hnodup : ordered.Nodup) (g : Groups) {all : List (Option String)}
    (hg : Kept all g) : (takeRound ordered g).1 = ordered.filterMap (fun p => (queueAt g p).head?) ∧
      (∀ p, queueAt (takeRound ordered g).2 p =
        if p ∈ ordered then (queueAt g p).tail else queueAt g p) ∧
      Kept all (takeRound ordered g).2 := by
  induction ordered generalizing g with
  | nil => exact ⟨rfl, fun p => by simp [takeRound], hg⟩
  | cons p ps ih =>
    obtain ⟨hp, hps⟩ := nodup_cons.mp hnodup
    unfold takeRound
    rcases hlook : g.lookup p with _ | l
    · obtain ⟨hitems, hrest, hkept⟩ := ih hps g hg
      have hnil : queueAt g p = [] := by
        unfold queueAt
        rw [hlook]
        rfl
      refine ⟨?_, fun k => ?_, hkept⟩
      · rw [filterMap_cons, hnil]
        exact hitems
      · rw [hrest k]
        by_cases hk : k = p
        · subst hk
          simp [hnil]
        · simp [hk]
    · obtain ⟨head, tail, rfl⟩ := exists_cons_of_ne_nil (hg p l hlook).1
      have hqueue : queueAt g p = head :: tail := by
        unfold queueAt
        rw [hlook]
        rfl
      dsimp only
      generalize hnext : (if tail = [] then g.erase p else g.insert p tail) = g'
      have hg' : ∀ k, g'.lookup k =
          if k = p then (if tail = [] then none else some tail) else g.lookup k := by
        intro k
        rw [← hnext]
        split
        · exact Table.lookup_erase g p k
        · exact Table.lookup_insert g p k tail
      have hkept' : Kept all g' := by
        intro k l hl
        rw [hg' k] at hl
        split at hl
        · next hk =>
          split at hl
          · cases hl
          · next hne =>
            cases hl
            exact ⟨hne, hk ▸ (hg p _ hlook).2⟩
        · exact hg k l hl
      have hat : ∀ k, queueAt g' k = if k = p then tail else queueAt g k := by
        intro k
        unfold queueAt
        rw [hg' k]
        by_cases hk : k = p
        · rw [if_pos hk, if_pos hk]
          split
          · next hnil => rw [hnil]; rfl
          · rfl
        · rw [if_neg hk, if_neg hk]
      obtain ⟨hitems, hrest, hkept⟩ := ih hps g' hkept'
      refine ⟨?_, fun k => ?_, hkept⟩
      · rw [filterMap_cons, hqueue]
        refine congrArg (head :: ·) (hitems.trans (filterMap_congr fun k hk => ?_))
        rw [hat k, if_neg (ne_of_mem_of_not_mem hk hp)]
      · rw [hrest k, hat k]
        by_cases hk : k = p
        · subst hk
          simp [hp, hqueue]
        · simp [hk]

/-- **The rounds end**, and yield the round robin over the queues. -/
theorem unfoldRounds_eq (hnodup : ordered.Nodup) (n : Nat) (g : Groups) (hg : Kept ordered g)
    (hlen : ∀ p, (queueAt g p).length ≤ n) :
    unfoldRounds ordered n g = some (rounds ordered n (queueAt g)) := by
  induction n generalizing g with
  | zero =>
    have hnil : g.keys = [] :=
      hg.keys_eq_nil.mpr fun p => length_eq_zero_iff.mp (Nat.le_zero.mp (hlen p))
    rw [unfoldRounds, if_pos hnil]
    rfl
  | succ n ih =>
    rw [unfoldRounds]
    split_ifs with hnil
    · rw [rounds_of_nil (hg.keys_eq_nil.mp hnil)]
    · obtain ⟨hitems, hrest, hkept⟩ := takeRound_spec hnodup g hg
      have htail : queueAt (takeRound ordered g).2 = fun p => (queueAt g p).tail := by
        funext p
        rw [hrest p]
        split
        · rfl
        · next hp =>
          rcases hlook : g.lookup p with _ | l
          · simp [queueAt, hlook]
          · exact absurd (hg p l hlook).2 hp
      dsimp only
      rw [ih _ hkept fun p => ?_, htail, hitems]
      · rfl
      · rw [htail, length_tail]
        have := hlen p
        omega

/-! ## The selection -/

variable (intents : List Intent) (afterPrincipal : Option String)

/-- The round robin that `candidates/3` computes. -/
lemma candidates_eq (limit : Nat) : candidates intents afterPrincipal limit =
      some ((rounds (rotated (groupBy (eligible intents)) afterPrincipal) (eligible intents).length
        (queue intents)).take limit) := by
  have hqueue : queueAt (groupBy (eligible intents)) = queue intents :=
    funext (queueAt_groupBy (eligible intents))
  have hkept : Kept (rotated (groupBy (eligible intents)) afterPrincipal)
      (groupBy (eligible intents)) := fun p l hl =>
    ⟨groupBy_ne_nil _ hl, (mem_rotated _ _ p).mpr
      (AList.mem_keys.mp (AList.lookup_isSome.mp (by rw [hl]; rfl)))⟩
  have hend := unfoldRounds_eq (nodup_rotated (groupBy (eligible intents)) afterPrincipal)
    (eligible intents).length _ hkept fun p => by
      rw [hqueue]
      exact length_filter_le _ _
  unfold candidates
  dsimp only
  rw [hend, hqueue, Option.map_some]

lemma principal_mem_rotated {i : Intent} (hi : i ∈ eligible intents) :
    i.principal ∈ rotated (groupBy (eligible intents)) afterPrincipal := by
  rw [mem_rotated]
  by_contra hnot
  have hnil := queueAt_groupBy (eligible intents) i.principal
  unfold queueAt at hnil
  rw [AList.lookup_eq_none.mpr hnot, Option.getD_none, eq_comm, filter_eq_nil_iff] at hnil
  simpa using hnil i hi

/-- **A bounded round robin over principals.** For every list of intents and every limit the
selection ends, with as many queued intents as the limit allows, each taken at most as often as it
is listed; the intents of a principal are the first ones of its queue; and after every prefix, two
principals that still have untaken intents have been served equally often, up to one. -/
theorem candidates_fair (limit : Nat) :
    ∃ result, candidates intents afterPrincipal limit = some result ∧
      result.length = min limit (intents.filter (·.state = .queued)).length ∧
      result.Subperm (intents.filter (·.state = .queued)) ∧
      (intents.Nodup → result.Nodup) ∧
      (∀ p, result.filter (·.principal = p) <+: queue intents p) ∧
      ∀ l, l <+: result → ∀ p p',
        (l.filter (·.principal = p)).length < (queue intents p).length →
        (l.filter (·.principal = p')).length < (queue intents p').length →
        (l.filter (·.principal = p)).length ≤ (l.filter (·.principal = p')).length + 1 := by
  have hnodup := nodup_rotated (groupBy (eligible intents)) afterPrincipal
  have hall : ∀ i ∈ eligible intents, i.principal ∈ rotated (groupBy (eligible intents))
      afterPrincipal := fun i hi => principal_mem_rotated intents afterPrincipal hi
  have hq : ∀ p, ∀ i ∈ queue intents p, i.principal = p := fun p i hi => by
    simpa using (mem_filter.mp hi).2
  have hperm := (perm_of_rounds Intent.principal hnodup hall le_rfl).trans
    (mergeSort_perm _ _)
  change (rounds _ _ (queue intents)).Perm _ at hperm
  have hsub := (take_sublist limit _).subperm.trans hperm.subperm
  refine ⟨_, candidates_eq intents afterPrincipal limit, ?_, hsub, fun hn => ?_, fun p => ?_,
    fun l hl p p' hp hp' => ?_⟩
  · rw [length_take, hperm.length_eq]
  · exact (take_sublist limit _).nodup (hperm.nodup_iff.mpr (hn.filter _))
  · by_cases hp : p ∈ rotated (groupBy (eligible intents)) afterPrincipal
    · refine ((List.take_prefix limit _).filter _).trans ?_
      rw [filter_rounds hq hnodup hp]
      exact take_prefix _ _
    · rw [filter_eq_nil_iff.mpr]
      · exact nil_prefix
      · intro i hi
        have hmem := key_mem_of_mem_rounds hq _ i (mem_of_mem_take hi)
        simpa using ne_of_mem_of_not_mem hmem hp
  · obtain ⟨m, hm⟩ := served_evenly hq hnodup (hl.trans (List.take_prefix limit _))
    have hmem : ∀ p, (l.filter (·.principal = p)).length < (queue intents p).length →
        p ∈ rotated (groupBy (eligible intents)) afterPrincipal := by
      intro p hp
      obtain ⟨i, hi⟩ := exists_mem_of_length_pos (Nat.zero_lt_of_lt hp)
      rw [← hq p i hi]
      exact hall i (mem_filter.mp hi).1
    have hone := hm p (hmem p hp) hp
    have hother := hm p' (hmem p' hp') hp'
    omega

end Homelab.Embervm.ResidencyIntent
