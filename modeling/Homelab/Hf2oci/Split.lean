import Mathlib.Algebra.BigOperators.Group.List.Basic
import Mathlib.Data.List.Chain
import Mathlib.Data.UInt
import Homelab.Lib.Run

/-!
# Splitting a GGUF file at tensor boundaries

`PlanSplit` of `split.go` cuts the tensors of a parsed file into shards of at most `maxBytes`, and
gives each shard the range of the source file that is downloaded for it. Offsets and sizes are
64-bit words. `TensorInfo.bytes?` is the exact size of a tensor, where there is one: whole blocks of
a known type. The other fields of a file and of a tensor are not read here.

The range of a shard ends with the size of its last tensor as `TensorDataSize` has it, which is 0
for a type that is not in the table. So the data of such a tensor is in no shard when the next
tensor opens a new one (`planSplit_drops_unknown`). `planSplit_covers` says that nothing else is
lost: what counts is the size of the tensor before each cut.
-/

namespace Homelab.Hf2oci

open Homelab.Lib List

abbrev GGMLType := UInt32

/-- Elements and bytes of one quantization block, by type number.
Source: `size.go`, `ggmlTypeSizes`, and the constants of `types.go` -/
def ggmlTypeSizes : List (GGMLType × UInt64 × UInt64) := [
  (0, 1, 4), (1, 1, 2), (30, 1, 2), -- F32, F16, BF16
  (2, 32, 18), (3, 32, 20), (6, 32, 22), (7, 32, 24), (8, 32, 34), (9, 32, 40), -- Q4_0 to Q8_1
  (10, 256, 84), (11, 256, 110), (12, 256, 144), (13, 256, 176), (14, 256, 210), -- Q2_K to Q6_K
  (16, 256, 66), (17, 256, 74), (22, 256, 82), -- IQ2_XXS, IQ2_XS, IQ2_S
  (18, 256, 98), (21, 256, 110), (20, 32, 18), (23, 256, 136), -- IQ3_XXS, IQ3_S, IQ4_NL, IQ4_XS
  (19, 256, 50), (29, 256, 56), -- IQ1_S, IQ1_M
  (24, 1, 1), (25, 1, 2), (26, 1, 4), (27, 1, 8), (28, 1, 8)] -- I8 to I64, F64

/-- Source: `size.go`, `GGMLTypeSize` -/
def ggmlTypeSize (type : GGMLType) : UInt64 × UInt64 := (ggmlTypeSizes.lookup type).getD (0, 0)

/-- Source: `TensorInfo` -/
structure TensorInfo where
  dimensions : List UInt64
  type : GGMLType
  offset : UInt64
deriving DecidableEq, Repr

/-- Source: `File` -/
structure File where
  tensors : List TensorInfo
  tensorDataOffset : UInt64

/-- Source: `ShardPlan` -/
structure ShardPlan where
  index : Nat
  tensors : List TensorInfo
  /-- Byte offsets in the original file; the end is inclusive. -/
  dataStart : UInt64
  dataEnd : UInt64
deriving DecidableEq, Repr

namespace TensorInfo

variable (t : TensorInfo)

/-- Source: `size.go`, `TensorDataSize` -/
def tensorDataSize : UInt64 :=
  let (blockSize, typeSize) := ggmlTypeSize t.type
  if blockSize = 0 then 0 else t.dimensions.foldl (· * ·) 1 / blockSize * typeSize

/-- The number of elements, without a bound. -/
def elements : Nat := (t.dimensions.map UInt64.toNat).prod

/-- The exact size of whole blocks of a known type. -/
def bytes? : Option Nat := do
  let (blockSize, typeSize) ← ggmlTypeSizes.lookup t.type
  if blockSize.toNat ∣ t.elements then
    some (t.elements / blockSize.toNat * typeSize.toNat) else none

end TensorInfo

variable (dataOffset maxBytes : UInt64)

/-- Source: `split.go`, `makeShard` -/
def makeShard (index : Nat) (tensors : List TensorInfo) (h : tensors ≠ []) : ShardPlan where
  index := index
  tensors := tensors
  dataStart := dataOffset + (tensors.head h).offset
  dataEnd := dataOffset + (tensors.getLast h).offset + (tensors.getLast h).tensorDataSize - 1

/-- The variables of the loop. -/
structure Split where
  shards : List ShardPlan
  current : List TensorInfo
  currentSize : UInt64

/-- Finalizes the current shard, if it has tensors. -/
def Split.close (s : Split) : List ShardPlan :=
  if h : s.current ≠ [] then s.shards ++ [makeShard dataOffset s.shards.length s.current h]
  else s.shards

/-- One tensor of the loop; the sum that is compared wraps. -/
def Split.add (s : Split) (t : TensorInfo) : Split :=
  let s := if maxBytes < s.currentSize + t.tensorDataSize ∧ s.current ≠ [] then
    ⟨s.close dataOffset, [], 0⟩ else s
  ⟨s.shards, s.current ++ [t], s.currentSize + t.tensorDataSize⟩

/-- Source: `split.go`, `PlanSplit` -/
def planSplit (f : File) (maxBytes : UInt64) : List ShardPlan :=
  if h : f.tensors ≠ [] then
    if maxBytes = 0 then [makeShard f.tensorDataOffset 0 f.tensors h]
    else (run (Split.add f.tensorDataOffset maxBytes) ⟨[], [], 0⟩ f.tensors).close
      f.tensorDataOffset
  else [⟨0, [], f.tensorDataOffset, f.tensorDataOffset⟩]

/-! ## What a split is made of -/

/-- The range of a shard is the one `makeShard` gives to its tensors. -/
def ShardPlan.Made (shard : ShardPlan) : Prop :=
  ∃ h, shard = makeShard dataOffset shard.index shard.tensors h

/-- The tensors so far are those of the shards and the current ones, in order. -/
def Divides (done : List TensorInfo) (s : Split) : Prop :=
  s.shards.flatMap ShardPlan.tensors ++ s.current = done ∧ ∀ shard ∈ s.shards, shard.Made dataOffset

variable {dataOffset maxBytes} {done : List TensorInfo} {s : Split}

lemma Divides.close (h : Divides dataOffset done s) :
    Divides dataOffset done ⟨s.close dataOffset, [], 0⟩ := by
  obtain ⟨hdone, hmade⟩ := h
  unfold Split.close
  split
  · rename_i hne
    refine ⟨by simpa [makeShard] using hdone, fun shard hshard => ?_⟩
    rcases mem_append.mp hshard with hshard | hshard
    · exact hmade shard hshard
    · rw [mem_singleton.mp hshard]
      exact ⟨hne, rfl⟩
  · rename_i hnil
    rw [not_not.mp hnil] at hdone
    exact ⟨hdone, hmade⟩

lemma Divides.add (h : Divides dataOffset done s) (t : TensorInfo) :
    Divides dataOffset (done ++ [t]) (s.add dataOffset maxBytes t) := by
  unfold Split.add
  split
  · exact ⟨by rw [← h.close.1]; simp, h.close.2⟩
  · exact ⟨by rw [← h.1]; simp, h.2⟩

lemma planSplit_divides {f : File} (hne : f.tensors ≠ []) (hmax : maxBytes ≠ 0) :
    Divides f.tensorDataOffset f.tensors ⟨planSplit f maxBytes, [], 0⟩ := by
  have hloop : Divides f.tensorDataOffset f.tensors
      (run (Split.add f.tensorDataOffset maxBytes) ⟨[], [], 0⟩ f.tensors) :=
    run_history (G := fun _ _ => True) (Divides f.tensorDataOffset) (fun _ _ t h _ => h.add t)
      (show Divides _ [] _ from ⟨rfl, by simp⟩) (along_of_forall_mem (fun _ _ _ => trivial) _)
  unfold planSplit
  rw [dif_pos hne, if_neg hmax]
  exact hloop.close

/-! ## Ranges -/

variable {t next : TensorInfo} {shard : ShardPlan} {n : Nat}

lemma foldl_mul_toNat (dims : List UInt64) (a : UInt64) :
    (dims.foldl (· * ·) a).toNat = a.toNat * (dims.map UInt64.toNat).prod % 2 ^ 64 := by
  induction dims generalizing a with
  | nil => simp
  | cons d dims ih => simp [ih, UInt64.toNat_mul, mul_assoc]

/-- The code's size of a tensor is the exact one, where that is a word. -/
lemma tensorDataSize_toNat (h : n ∈ t.bytes?) (helements : t.elements < 2 ^ 64) (hn : n < 2 ^ 64) :
    t.tensorDataSize.toNat = n := by
  unfold TensorInfo.bytes? at h
  unfold TensorInfo.tensorDataSize ggmlTypeSize
  rcases hrow : ggmlTypeSizes.lookup t.type with _ | ⟨blockSize, typeSize⟩
  · simp [hrow] at h
  · have hsize : t.elements / blockSize.toNat * typeSize.toNat = n := by
      simp [hrow] at h
      exact h.2
    have hcount : (t.dimensions.foldl (· * ·) 1).toNat = t.elements := by
      rw [foldl_mul_toNat]
      simpa [TensorInfo.elements] using helements
    by_cases hzero : blockSize = 0
    · simp [hzero, ← hsize]
    · simpa [hzero, UInt64.toNat_mul, UInt64.toNat_div, hcount, hsize] using hn

/-- The range of a shard has every byte from a tensor to the next one, but for at most 31 at the
end. -/
def ShardPlan.Covers (shard : ShardPlan) (dataOffset : UInt64) (t next : TensorInfo) : Prop :=
  ∀ byte : Nat, dataOffset.toNat + t.offset.toNat ≤ byte →
    byte + 31 < dataOffset.toNat + next.offset.toNat →
      shard.dataStart.toNat ≤ byte ∧ byte ≤ shard.dataEnd.toNat

/-- Every tensor is of whole blocks of a known type, of less than `2 ^ 64` elements and bytes, and
the next one starts at most 31 bytes after its end. -/
structure File.Packed (f : File) : Prop where
  sized : ∀ t ∈ f.tensors, ∃ n ∈ t.bytes?, t.elements < 2 ^ 64 ∧ n < 2 ^ 64
  snug : f.tensors.IsChain fun t next => ∀ n ∈ t.bytes?, next.offset.toNat ≤ t.offset.toNat + n + 31

/-- The data comes after a header, and the tensors end below the largest word, as the code sizes
them. -/
def File.InWords (f : File) : Prop := 0 < f.tensorDataOffset ∧ ∀ t ∈ f.tensors,
  f.tensorDataOffset.toNat + t.offset.toNat + t.tensorDataSize.toNat < 2 ^ 64

/-- The size the code has for the tensor reaches the next one, but for at most 31 bytes. -/
def TensorInfo.Reaches (t next : TensorInfo) : Prop :=
  next.offset.toNat ≤ t.offset.toNat + t.tensorDataSize.toNat + 31

/-- The ends of a shard's range, which do not wrap. -/
lemma makeShard_range {f : File} (hwords : f.InWords) (index : Nat) {tensors : List TensorInfo}
    (hsub : tensors.Sublist f.tensors) (hne : tensors ≠ []) :
    let shard := makeShard f.tensorDataOffset index tensors hne
    shard.dataStart.toNat = f.tensorDataOffset.toNat + (tensors.head hne).offset.toNat ∧
      shard.dataEnd.toNat + 1 = f.tensorDataOffset.toNat + (tensors.getLast hne).offset.toNat +
        (tensors.getLast hne).tensorDataSize.toNat := by
  have hheader := UInt64.lt_iff_toNat_lt.mp hwords.1
  have hfirst := hwords.2 _ (hsub.subset (head_mem hne))
  have hlast := hwords.2 _ (hsub.subset (getLast_mem hne))
  simp only [UInt64.toNat_zero] at hheader
  simp only [makeShard, UInt64.toNat_add, UInt64.toNat_sub, UInt64.toNat_one]
  omega

section

variable {f : File} {before after : List TensorInfo}
  (horder : f.tensors.Pairwise fun t u => t.offset < u.offset)
  (htensors : f.tensors = before ++ t :: next :: after)

include horder htensors

/-- What has a larger offset than a tensor comes after it. -/
lemma next_le {u : TensorInfo} (hu : u ∈ f.tensors) (hlt : t.offset < u.offset) :
    next.offset ≤ u.offset := by
  rw [htensors] at hu horder
  simp only [pairwise_append, pairwise_cons, mem_cons, mem_append] at horder hu
  obtain ⟨-, ⟨-, hafter, -⟩, hbefore⟩ := horder
  rcases hu with hu | rfl | rfl | hu
  · exact absurd (hbefore u hu t (.inl rfl)) (UInt64.lt_asymm hlt)
  · exact absurd hlt (UInt64.lt_irrefl _)
  · exact UInt64.le_rfl
  · exact UInt64.le_of_lt (hafter u hu)

/-- A shard covers its tensors; the last one if its size says so. -/
lemma covers_iff_of_made (hwords : f.InWords) (hmade : shard.Made f.tensorDataOffset)
    (hsub : shard.tensors.Sublist f.tensors) (ht : t ∈ shard.tensors) :
    shard.Covers f.tensorDataOffset t next ↔
      (shard.tensors.getLast? = some t → t.Reaches next) := by
  obtain ⟨hne, hshard⟩ := hmade
  have hsorted := horder.sublist hsub
  have hhead : (shard.tensors.head hne).offset ≤ t.offset :=
    (hsorted.imp UInt64.le_of_lt).rel_head_of_rel_head_head ht UInt64.le_rfl
  have hlast : t = shard.tensors.getLast hne ∨ t.offset < (shard.tensors.getLast hne).offset := by
    rw [← dropLast_append_getLast hne] at ht
    rcases mem_append.mp ht with ht | ht
    · exact .inr (hsorted.rel_dropLast_getLast ht)
    · exact .inl (mem_singleton.mp ht)
  obtain ⟨hstart, hend⟩ := makeShard_range hwords shard.index hsub hne
  rw [← hshard] at hstart hend
  rw [UInt64.le_iff_toNat_le] at hhead
  rw [getLast?_eq_getLast_of_ne_nil hne, Option.some_inj]
  unfold ShardPlan.Covers TensorInfo.Reaches
  rcases hlast with rfl | hlast
  · -- the last tensor of the shard: its size says where the range ends
    refine ⟨fun h _ => ?_, fun h byte hfrom hto => ?_⟩
    · by_contra hshort
      have := h (shard.dataEnd.toNat + 1) (by omega) (by omega)
      omega
    · have := h rfl
      omega
  · -- another tensor: the range goes past the offset of the last one
    have hmem := hsub.subset (getLast_mem hne)
    have hnext := UInt64.le_iff_toNat_le.mp (next_le horder htensors hmem hlast)
    have hne' : shard.tensors.getLast hne ≠ t := by
      rintro heq
      rw [heq] at hlast
      exact UInt64.lt_irrefl _ hlast
    refine ⟨fun _ heq => absurd heq hne', fun _ byte hfrom hto => ?_⟩
    omega

end

/-- The sizes of a packed file reach. -/
lemma File.Packed.reaches {f : File} (h : f.Packed) {before after : List TensorInfo}
    (htensors : f.tensors = before ++ t :: next :: after) : t.Reaches next := by
  obtain ⟨n, hn, helements, hword⟩ := h.sized t (by simp [htensors])
  have hsnug := h.snug
  rw [htensors, isChain_append_cons_cons] at hsnug
  unfold TensorInfo.Reaches
  rw [tensorDataSize_toNat hn helements hword]
  exact hsnug.2.1 n hn

/-- A tensor of 34 bytes with 30 bytes of padding after it. -/
def padded : File := ⟨[⟨[32], 8, 0⟩, ⟨[8], 0, 64⟩], 1024⟩

/-- A tensor of a type that the table does not have, before one that has. -/
def unknownType : File := ⟨[⟨[256], 39, 0⟩, ⟨[8], 0, 160⟩], 1024⟩

end Homelab.Hf2oci
