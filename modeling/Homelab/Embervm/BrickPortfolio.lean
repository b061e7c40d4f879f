import Mathlib.Data.Prod.Lex
import Mathlib.Data.String.Basic
import Mathlib.Tactic.Linarith
import Homelab.Lib.Run
import Homelab.Lib.Table
import Homelab.Lib.SortBy

/-!
# The brick portfolio

`Embervm.Brick.Portfolio`: how many bricks of each class the declared floors of the workloads need.
A floor is that many items of the workload's memory. An item goes to the smallest class that can
hold it and may be scaled, first fit, the largest items first. An item that no class can hold gets a
bin of its own in the last class, marked oversized.

* `Filling` relates the bins to the items in them. `packItem` adds its item (`Filling.packItem`), so
  the bins of a whole run hold the items of the catalog (`filling_pack`).
* The classes and the items are sorted by keys that tell them apart, so the order in which they are
  declared does not matter (`normalizeClasses_perm`, `floorItems_perm`).
Sources without a file name are in `brick_portfolio.ex`.
-/

namespace Homelab.Embervm.Portfolio

open Homelab.Lib List Function

inductive Key
  | atom (s : String) | str (s : String)
  deriving DecidableEq

/-- A value of a declaration: `nil` and `false` are `falsy`, `other` is a truthy term that is
neither an integer nor a string. -/
inductive Value
  | int (v : Int) | str (s : String) | falsy | other
  deriving DecidableEq

abbrev Fields := Table Key Value

variable (m : Fields) (keys : List Key)

/-- Source: `field/2` -/
def field : Option Value :=
  keys.findSome? fun k => (m.lookup k).filter (· ≠ .falsy)

def intField : Option Int :=
  match field m keys with
  | some (.int v) => some v
  | _ => none

def strField : Option String :=
  match field m keys with
  | some (.str s) => some s
  | _ => none

/-- Source: `non_negative/2` -/
def nonNegative (value : Option Int) (default : Nat) : Nat :=
  match value with
  | some v => if 0 ≤ v then v.toNat else default
  | none => default

structure BrickClass where
  name : String
  usableMib : Nat
  capacityMib : Nat
  overheadMib : Nat
  slots : Nat
  min : Nat
  max : Nat

structure Item where
  name : String
  memMib : Nat

structure Bin where
  usedMib : Nat
  usedSlots : Nat
  oversized : Bool

structure ClassResult where
  computedFloor : Nat
  effectiveMin : Nat
  floorOverflow : Bool

/-- The class of a declaration, if it is usable. -/
def normalizeClass : Option BrickClass :=
  match strField m [.atom "name", .str "name"],
    intField m [.atom "usable_mib", .str "usable_mib"],
    intField m [.atom "mem_reject_floor_mib", .str "mem_reject_floor_mib"],
    intField m [.atom "slots", .str "slots", .atom "max_live_vms", .str "max_live_vms",
      .str "maxLiveVMs"] with
  | some name, some usableMib, some rejectFloorMib, some slots =>
    if 0 < usableMib ∧ 0 ≤ rejectFloorMib ∧ 0 ≤ slots then
      let min := nonNegative (intField m [.atom "min", .str "min"]) 0
      let desired := nonNegative (intField m [.atom "desired", .str "desired"]) 0
      let maxReplicas := nonNegative (intField m [.atom "max", .str "max"]) (Nat.max desired min)
      let ceilingBound :=
        nonNegative (intField m [.atom "ceiling_bound", .str "ceiling_bound"]) 0
      some
        { name := name
          usableMib := usableMib.toNat
          capacityMib := (usableMib - rejectFloorMib).toNat
          overheadMib :=
            nonNegative (intField m [.atom "vm_overhead_mib", .str "vm_overhead_mib"]) 0
          slots := slots.toNat
          min := min
          max := if 0 < ceilingBound then Nat.max maxReplicas ceilingBound else maxReplicas }
    else none
  | _, _, _, _ => none

def classKey (c : BrickClass) : Nat ×ₗ String := toLex (c.capacityMib, c.name)

/-- Source: `normalize_classes/1` -/
def normalizeClasses (classes : List Fields) : List BrickClass :=
  sortBy classKey (classes.filterMap normalizeClass)

/-- The items of a catalog entry. -/
def entryItems : List Item :=
  match strField m [.atom "name", .str "name"], intField m [.atom "floor", .str "floor"],
    intField m [.atom "mem_mib", .str "mem_mib", .str "memMib"] with
  | some name, some floor, some memMib =>
    if 0 < floor ∧ 0 < memMib then replicate floor.toNat ⟨name, memMib.toNat⟩ else []
  | _, _, _ => []

def itemKey (i : Item) : Int ×ₗ String := toLex (-(i.memMib : Int), i.name)

/-- Source: `floor_items/1` -/
def floorItems (catalog : List Fields) : List Item :=
  sortBy itemKey (catalog.flatMap entryItems)

/-- Source: `fits?/3` -/
def fits? (bin : Bin) (memMib : Nat) (c : BrickClass) : Bool :=
  bin.usedMib + memMib ≤ c.capacityMib &&
    bin.usedMib + memMib + (bin.usedSlots + 1) * c.overheadMib ≤ c.usableMib &&
      (c.slots = 0 || bin.usedSlots < c.slots)

/-- Source: `@empty_bin` -/
def emptyBin : Bin := ⟨0, 0, false⟩

/-- Source: `first_fit/3` -/
def firstFit (memMib : Nat) (c : BrickClass) : List Bin → List Bin
  | [] => [⟨memMib, 1, false⟩]
  | b :: bins =>
    if fits? b memMib c then ⟨b.usedMib + memMib, b.usedSlots + 1, false⟩ :: bins
    else b :: firstFit memMib c bins

abbrev BinsByClass := Table String (List Bin)

/-- `Map.get(bins_by_class, name, [])` -/
def binsOf (bins : BinsByClass) (name : String) : List Bin := (bins.lookup name).getD []

/-- Source: `mark_unplaceable/3` -/
def markUnplaceable (item : Item) (classes : List BrickClass) (bins : BinsByClass) : BinsByClass :=
  match classes.getLast? with
  | none => bins
  | some c => bins.insert c.name (binsOf bins c.name ++ [⟨item.memMib, 1, true⟩])

variable (classes : List BrickClass)

/-- Source: `pack_item/3` -/
def packItem (bins : BinsByClass) (item : Item) : BinsByClass :=
  let fitting := classes.filter (fits? emptyBin item.memMib ·)
  match (fitting.find? (0 < ·.max)).or fitting.head? with
  | none => markUnplaceable item classes bins
  | some c => bins.insert c.name (firstFit item.memMib c (binsOf bins c.name))

/-- The bins that `floors/2` counts. -/
def pack (items : List Item) : BinsByClass :=
  run (packItem classes) ∅ items

/-- Source: `floors/2` -/
def floors (catalog classes : List Fields) : Table String ClassResult :=
  let binsByClass := pack (normalizeClasses classes) (floorItems catalog)
  (normalizeClasses classes).foldl (fun results c =>
    let bins := binsOf binsByClass c.name
    results.insert c.name
      { computedFloor := bins.length
        effectiveMin := Nat.max c.min bins.length
        floorOverflow := c.max < bins.length || bins.any Bin.oversized }) ∅

/-! ## What the bins hold -/

/-- No class can hold the item. -/
def Unplaceable (item : Item) : Prop :=
  ∀ c ∈ classes, fits? emptyBin item.memMib c = false

/-- These are the items in a bin of class `c`. -/
structure Holds (classes : List BrickClass) (c : BrickClass) (b : Bin) (items : List Item) :
    Prop where
  mib : b.usedMib = (items.map Item.memMib).foldr (· + ·) 0
  slots : b.usedSlots = items.length
  within : b.oversized = false → b.usedMib ≤ c.capacityMib ∧
    b.usedMib + b.usedSlots * c.overheadMib ≤ c.usableMib ∧ (c.slots = 0 ∨ b.usedSlots ≤ c.slots)
  unplaceable : ∀ item ∈ items, Unplaceable classes item → b.oversized = true
  alone : b.oversized = true → ∃ item, items = [item] ∧ Unplaceable classes item

/-- Every item is in one of the bins, and in no other. -/
def Filling (bins : BinsByClass) (items : List Item) : Prop :=
  ∃ contents : String → List (List Item),
    (∀ c ∈ classes, List.Forall₂ (Holds classes c) (binsOf bins c.name) (contents c.name)) ∧
      (classes.flatMap fun c => (contents c.name).flatten).Perm items

variable {classes : List BrickClass} {c : BrickClass} {item : Item}

lemma fits?_iff (b : Bin) (memMib : Nat) (c : BrickClass) :
    fits? b memMib c = true ↔ b.usedMib + memMib ≤ c.capacityMib ∧
      b.usedMib + memMib + (b.usedSlots + 1) * c.overheadMib ≤ c.usableMib ∧
        (c.slots = 0 ∨ b.usedSlots < c.slots) := by
  simp [fits?, and_assoc]

lemma not_unplaceable (hc : c ∈ classes) (hfits : fits? emptyBin item.memMib c = true) :
    ¬ Unplaceable classes item := by
  intro hnone
  rw [hnone c hc] at hfits
  simp at hfits

/-- A bin with room for one more item is not oversized: its class could hold its own item. -/
lemma Holds.not_oversized {b : Bin} {items : List Item} (h : Holds classes c b items)
    (hc : c ∈ classes) {memMib : Nat} (hfits : fits? b memMib c = true) : b.oversized = false := by
  by_contra hover
  obtain ⟨held, rfl, hnone⟩ := h.alone (by simpa using hover)
  have hmib : b.usedMib = held.memMib := h.mib
  have hslots : b.usedSlots = 1 := h.slots
  obtain ⟨hcapacity, husable, hlimit⟩ := (fits?_iff _ _ _).mp hfits
  rw [hslots] at husable hlimit
  refine not_unplaceable hc ((fits?_iff _ _ _).mpr ?_) hnone
  simp only [emptyBin]
  exact ⟨by omega, by linarith, by omega⟩

/-- First fit puts the item into one bin. -/
lemma holds_firstFit (hc : c ∈ classes) (hitem : fits? emptyBin item.memMib c = true)
    {bins : List Bin} {contents : List (List Item)}
    (h : List.Forall₂ (Holds classes c) bins contents) :
    ∃ contents', List.Forall₂ (Holds classes c) (firstFit item.memMib c bins) contents' ∧
      contents'.flatten.Perm (item :: contents.flatten) := by
  have hplaceable := not_unplaceable hc hitem
  induction h with
  | nil =>
    obtain ⟨hcapacity, husable, hlimit⟩ := (fits?_iff _ _ _).mp hitem
    simp only [emptyBin, Nat.zero_add, Nat.one_mul] at hcapacity husable hlimit
    have hholds : Holds classes c ⟨item.memMib, 1, false⟩ [item] := by
      refine ⟨rfl, rfl, fun _ => ⟨hcapacity, by simpa using husable, hlimit⟩,
        fun i hi hnone => ?_, by simp⟩
      rw [mem_singleton.mp hi] at hnone
      exact absurd hnone hplaceable
    exact ⟨[[item]], .cons hholds .nil, by simp⟩
  | @cons b held bins contents hb hrest ih =>
    unfold firstFit
    split_ifs with hfits
    · have hopen := hb.not_oversized hc hfits
      obtain ⟨hcapacity, husable, hlimit⟩ := (fits?_iff _ _ _).mp hfits
      have hholds :
          Holds classes c ⟨b.usedMib + item.memMib, b.usedSlots + 1, false⟩ (item :: held) := by
        refine ⟨?_, by simp [hb.slots], fun _ => ⟨hcapacity, husable, hlimit⟩,
          fun i hi hnone => ?_, by simp⟩
        · simp only [map_cons, foldr_cons, ← hb.mib]
          omega
        · rcases mem_cons.mp hi with rfl | hi
          · exact absurd hnone hplaceable
          · exact absurd (hb.unplaceable i hi hnone) (by simp [hopen])
      exact ⟨(item :: held) :: contents, .cons hholds hrest, by simp⟩
    · obtain ⟨contents', hcontents', hperm⟩ := ih
      refine ⟨held :: contents', .cons hb hcontents', ?_⟩
      exact (hperm.append_left held).trans perm_middle

lemma holds_oversized (h : Unplaceable classes item) :
    Holds classes c ⟨item.memMib, 1, true⟩ [item] :=
  ⟨rfl, rfl, by simp, fun _ _ _ => rfl, fun _ => ⟨item, rfl, h⟩⟩

lemma binsOf_insert (bins : BinsByClass) (name name' : String) (l : List Bin) :
    binsOf (bins.insert name l) name' = if name' = name then l else binsOf bins name' := by
  unfold binsOf
  rw [Table.lookup_insert]
  split <;> rfl

section

variable (hnames : (classes.map BrickClass.name).Nodup)
include hnames

/-- Changing the bins of one class changes what is in them by what changes there. -/
lemma Filling.insert (hc : c ∈ classes)
    {bins : BinsByClass} {items : List Item} (h : Filling classes bins items) {l : List Bin}
    (hl : ∀ contents, List.Forall₂ (Holds classes c) (binsOf bins c.name) contents →
      ∃ contents', List.Forall₂ (Holds classes c) l contents' ∧
        contents'.flatten.Perm (item :: contents.flatten)) :
    Filling classes (bins.insert c.name l) (items ++ [item]) := by
  obtain ⟨contents, hholds, hperm⟩ := h
  obtain ⟨contents', hholds', hperm'⟩ := hl _ (hholds c hc)
  refine ⟨update contents c.name contents', fun d hd => ?_, ?_⟩
  · rw [binsOf_insert]
    by_cases hname : d.name = c.name
    · obtain rfl := inj_on_of_nodup_map hnames hd hc hname
      simpa using hholds'
    · rw [if_neg hname, update_of_ne hname]
      exact hholds d hd
  · -- the class stands once in the list, the others keep their bins
    obtain ⟨before, after, rfl⟩ := append_of_mem hc
    have hother : ∀ d ∈ before ++ after, d.name ≠ c.name := by
      have hnodup := (perm_middle.map BrickClass.name).nodup_iff.mp hnames
      rw [map_cons, nodup_cons] at hnodup
      exact fun d hd hname => hnodup.1 (hname ▸ mem_map_of_mem hd)
    have hkeep : ∀ part : List BrickClass, (∀ d ∈ part, d ∈ before ++ after) →
        (part.flatMap fun d => (update contents c.name contents' d.name).flatten) =
          part.flatMap fun d => (contents d.name).flatten := fun part hpart =>
      flatMap_congr fun d hd => by rw [update_of_ne (hother d (hpart d hd))]
    rw [flatMap_append, flatMap_cons, hkeep before (by simp +contextual),
      hkeep after (by simp +contextual), update_self]
    rw [flatMap_append, flatMap_cons] at hperm
    refine ((hperm'.append_right _).append_left _).trans (perm_middle.trans ?_)
    exact (hperm.cons item).trans (perm_append_singleton item items).symm

omit hnames in
/-- The class that an item goes to can hold it. -/
lemma packItem_cases (item : Item) (bins : BinsByClass) (hne : classes ≠ []) :
    (∃ c ∈ classes, fits? emptyBin item.memMib c = true ∧ packItem classes bins item =
        bins.insert c.name (firstFit item.memMib c (binsOf bins c.name))) ∨
      Unplaceable classes item ∧ ∃ c ∈ classes, packItem classes bins item =
        bins.insert c.name (binsOf bins c.name ++ [⟨item.memMib, 1, true⟩]) := by
  unfold packItem
  dsimp only
  split
  next hnone =>
    refine Or.inr ⟨fun c hc => ?_, classes.getLast hne, getLast_mem hne, ?_⟩
    · have hempty := head?_eq_none_iff.mp (Option.or_eq_none_iff.mp hnone).2
      simpa using filter_eq_nil_iff.mp hempty c hc
    · simp only [markUnplaceable, getLast?_eq_some_getLast hne]
  next c hsome =>
    have hmem : c ∈ classes.filter (fits? emptyBin item.memMib ·) := by
      rcases Option.or_eq_some_iff.mp hsome with h | ⟨_, h⟩
      · exact mem_of_find?_eq_some h
      · exact mem_of_head? h
    rw [mem_filter] at hmem
    exact Or.inl ⟨c, hmem.1, hmem.2, rfl⟩

lemma Filling.packItem (hne : classes ≠ [])
    {bins : BinsByClass} {items : List Item} (h : Filling classes bins items) :
    Filling classes (packItem classes bins item) (items ++ [item]) := by
  rcases packItem_cases item bins hne with ⟨c, hc, hfits, heq⟩ | ⟨hnone, c, hc, heq⟩
  · rw [heq]
    exact h.insert hnames hc fun contents => holds_firstFit hc hfits
  · rw [heq]
    refine h.insert hnames hc fun contents hcontents => ⟨contents ++ [[item]], ?_, ?_⟩
    · exact rel_append hcontents (.cons (holds_oversized hnone) .nil)
    · simp

lemma filling_pack (hne : classes ≠ [])
    (items : List Item) : Filling classes (pack classes items) items := by
  have hrun : Along (Portfolio.packItem classes) (fun _ _ => True) ∅ items :=
    along_of_forall_mem (fun _ _ _ => trivial) ∅
  have hempty : Filling classes ∅ [] := ⟨fun _ => [], fun c _ => by simp [binsOf], by simp⟩
  exact run_history (fun packed bins => Filling classes bins packed)
    (fun packed bins item h _ => h.packItem hnames hne) hempty hrun

end

/-! ## The order of the declarations -/

lemma normalizeClasses_perm {l l' : List Fields}
    (hnames : ((l.filterMap normalizeClass).map BrickClass.name).Nodup) (h : l'.Perm l) :
    normalizeClasses l' = normalizeClasses l := by
  refine sortBy_eq_of_perm (h.filterMap normalizeClass) fun c hc d hd hkey => ?_
  exact inj_on_of_nodup_map hnames hc hd (congrArg (fun k => (ofLex k).2) hkey)

lemma floorItems_perm {l l' : List Fields} (h : l'.Perm l) : floorItems l' = floorItems l := by
  refine sortBy_eq_of_perm (h.flatMap_right entryItems) fun i _ j _ hkey => ?_
  have hmem : -(i.memMib : Int) = -(j.memMib : Int) := congrArg (fun k => (ofLex k).1) hkey
  have hname : i.name = j.name := congrArg (fun k => (ofLex k).2) hkey
  cases i
  cases j
  simp_all

/-- With a usable class, `floors/2` puts every item into one bin, within the limits of its class or
alone and marked oversized; its results do not depend on the order of the declarations. -/
theorem floors_pack (catalog classes : List Fields)
    (hnames : ((classes.filterMap normalizeClass).map BrickClass.name).Nodup) :
    (classes.filterMap normalizeClass ≠ [] →
      Filling (normalizeClasses classes) (pack (normalizeClasses classes) (floorItems catalog))
        (floorItems catalog)) ∧
    ∀ catalog' classes' : List Fields, catalog'.Perm catalog → classes'.Perm classes →
      floors catalog' classes' = floors catalog classes := by
  have hperm := sortBy_perm classKey (classes.filterMap normalizeClass)
  refine ⟨fun hne => filling_pack ((hperm.map _).nodup_iff.mpr hnames) (fun hnil => hne ?_) _, ?_⟩
  · exact List.Perm.nil_eq (hnil ▸ hperm) |>.symm
  · intro catalog' classes' hcatalog hclasses
    unfold floors
    rw [normalizeClasses_perm hnames hclasses, floorItems_perm hcatalog]

/-- A workload with a floor of one. -/
def oneFloor : Fields :=
  (((∅ : Fields).insert (.atom "name") (.str "w")).insert (.atom "floor") (.int 1)).insert
    (.atom "mem_mib") (.int 512)

def sized (name : String) (usableMib : Int) : Fields :=
  ((((∅ : Fields).insert (.atom "name") (.str name)).insert (.atom "usable_mib")
    (.int usableMib)).insert (.atom "mem_reject_floor_mib") (.int 64)).insert (.atom "slots")
    (.int 0)

theorem floors_pack_two_classes : Filling (normalizeClasses [sized "4gi" 4096, sized "2gi" 2048])
      (pack (normalizeClasses [sized "4gi" 4096, sized "2gi" 2048]) (floorItems [oneFloor]))
      (floorItems [oneFloor]) ∧
    floors [oneFloor] [sized "2gi" 2048, sized "4gi" 4096] =
      floors [oneFloor] [sized "4gi" 4096, sized "2gi" 2048] := by
  have hboth := floors_pack [oneFloor] [sized "4gi" 4096, sized "2gi" 2048] (by decide)
  have husable : [sized "4gi" 4096, sized "2gi" 2048].filterMap normalizeClass ≠ [] := fun hnil =>
    absurd (congrArg length hnil) (by decide)
  exact ⟨hboth.1 husable, hboth.2 _ _ (.refl _) (List.Perm.swap _ _ _)⟩

/-- Without a class the item is dropped. -/
theorem no_class_no_bin : (([] : List BrickClass).map BrickClass.name).Nodup ∧
    ¬ Filling (normalizeClasses []) (pack (normalizeClasses []) (floorItems [oneFloor]))
      (floorItems [oneFloor]) := by
  refine ⟨nodup_nil, fun ⟨contents, _, hperm⟩ => ?_⟩
  have hnil : normalizeClasses [] = [] := mergeSort_nil
  rw [hnil, flatMap_nil] at hperm
  have hlength : 0 = ([oneFloor].flatMap entryItems).length :=
    (hperm.trans (sortBy_perm itemKey _)).length_eq
  exact absurd hlength (by decide)

end Homelab.Embervm.Portfolio
