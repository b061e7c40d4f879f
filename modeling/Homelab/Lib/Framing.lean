import Mathlib.Data.List.Basic
import Mathlib.Tactic.Ring

/-!
# Framing a byte stream

What a format of length-prefixed chunks rests on.

* `BigEndian.encode k n` are the low `k` bytes of `n`, most significant first, and `decode` is its
  inverse in both directions (`decode_encode`, `encode_decode`).
* `chunks k xs` cuts `xs` into pieces of `k` elements, the last of which may be shorter; it is
  empty only when `xs` is. So a writer that holds back one chunk until it sees more input has
  written all but the last of them (`chunks_append_of_full`).
-/

namespace Homelab.Lib

open List

namespace BigEndian

/-- The low `k` bytes of `n`, most significant first. -/
def encode : Nat → Nat → List UInt8
  | 0, _ => []
  | k + 1, n => UInt8.ofNat (n / 256 ^ k) :: encode k n

/-- The number a string of bytes stands for. -/
def decode : List UInt8 → Nat
  | [] => 0
  | b :: bs => b.toNat * 256 ^ bs.length + decode bs

@[simp] lemma length_encode (k n : Nat) : (encode k n).length = k := by
  induction k with
  | zero => rfl
  | succ k ih => simp [encode, ih]

lemma decode_lt (bs : List UInt8) : decode bs < 256 ^ bs.length := by
  induction bs with
  | nil => simp [decode]
  | cons b bs ih =>
    have hb : b.toNat + 1 ≤ 256 := b.toNat_lt
    calc b.toNat * 256 ^ bs.length + decode bs
        < b.toNat * 256 ^ bs.length + 256 ^ bs.length := by omega
      _ = (b.toNat + 1) * 256 ^ bs.length := by ring
      _ ≤ 256 * 256 ^ bs.length := Nat.mul_le_mul_right _ hb
      _ = 256 ^ (b :: bs).length := by rw [length_cons, pow_succ, Nat.mul_comm]

lemma decode_encode_mod (k n : Nat) : decode (encode k n) = n % 256 ^ k := by
  induction k with
  | zero => simp [encode, decode, Nat.mod_one]
  | succ k ih =>
    have hb : (UInt8.ofNat (n / 256 ^ k)).toNat = n / 256 ^ k % 256 := by simp
    rw [encode, decode, length_encode, ih, hb, pow_succ, Nat.mod_mul]
    ring

lemma decode_encode {k n : Nat} (h : n < 256 ^ k) : decode (encode k n) = n := by
  rw [decode_encode_mod, Nat.mod_eq_of_lt h]

/-- Only the low `k` bytes count. -/
lemma encode_add (k n m : Nat) : encode k (m * 256 ^ k + n) = encode k n := by
  induction k generalizing m with
  | zero => rfl
  | succ k ih =>
    have hhead : UInt8.ofNat ((m * 256 ^ (k + 1) + n) / 256 ^ k) = UInt8.ofNat (n / 256 ^ k) := by
      have hpos : 0 < 256 ^ k := Nat.pow_pos (by decide)
      have hdiv : (m * 256 ^ (k + 1) + n) / 256 ^ k = n / 256 ^ k + 256 * m := by
        rw [show m * 256 ^ (k + 1) + n = n + 256 ^ k * (256 * m) by ring,
          Nat.add_mul_div_left _ _ hpos]
      apply UInt8.toNat_inj.mp
      rw [hdiv]
      simp
    have htail : encode k (m * 256 ^ (k + 1) + n) = encode k n := by
      rw [show m * 256 ^ (k + 1) + n = m * 256 * 256 ^ k + n by ring]
      exact ih _
    rw [encode, encode, hhead, htail]

lemma encode_decode (bs : List UInt8) : encode bs.length (decode bs) = bs := by
  induction bs with
  | nil => rfl
  | cons b bs ih =>
    have hdiv : (b.toNat * 256 ^ bs.length + decode bs) / 256 ^ bs.length = b.toNat := by
      rw [Nat.mul_comm, Nat.mul_add_div (Nat.pow_pos (by decide)),
        Nat.div_eq_of_lt (decode_lt bs), Nat.add_zero]
    rw [length_cons, encode, decode, hdiv, encode_add, ih]
    simp

end BigEndian

section Chunks

variable {α : Type*}

/-- Pieces of `k` elements; the last one is the rest. -/
def chunks (k : Nat) (xs : List α) : List (List α) :=
  if 0 < k ∧ k < xs.length then xs.take k :: chunks k (xs.drop k) else [xs]
termination_by xs.length
decreasing_by simp only [length_drop]; omega

variable {k : Nat} {xs : List α}

lemma chunks_of_le (h : xs.length ≤ k) : chunks k xs = [xs] := by
  rw [chunks, if_neg (by omega)]

lemma chunks_of_lt (hk : 0 < k) (h : k < xs.length) :
    chunks k xs = xs.take k :: chunks k (xs.drop k) := by
  rw [chunks, if_pos ⟨hk, h⟩]

lemma chunks_ne_nil (k : Nat) (xs : List α) : chunks k xs ≠ [] := by
  rw [chunks]
  split <;> simp

@[simp] lemma flatten_chunks (k : Nat) (xs : List α) : (chunks k xs).flatten = xs := by
  induction xs using chunks.induct k with
  | case1 xs h ih =>
    rw [chunks_of_lt h.1 h.2, flatten_cons, ih, take_append_drop]
  | case2 xs h => rw [chunks, if_neg h, flatten_singleton]

/-- A full chunk that is followed by more is cut off whole. -/
lemma chunks_append_of_full {ys : List α} (hk : 0 < k) (hx : xs.length = k) (hy : ys ≠ []) :
    chunks k (xs ++ ys) = xs :: chunks k ys := by
  have hlt : k < (xs ++ ys).length := by
    have := length_pos_of_ne_nil hy
    rw [length_append]
    omega
  rw [chunks_of_lt hk hlt, ← hx, take_left, drop_left]

/-- Full chunks followed by more are cut off whole. -/
lemma chunks_flatten_append {css : List (List α)} {ys : List α} (hk : 0 < k)
    (hcs : ∀ c ∈ css, c.length = k) (hy : css ≠ [] → ys ≠ []) :
    chunks k (css.flatten ++ ys) = css ++ chunks k ys := by
  induction css with
  | nil => simp
  | cons c css ih =>
    have hys : ys ≠ [] := hy (by simp)
    have hrest : css.flatten ++ ys ≠ [] := by simp [hys]
    rw [flatten_cons, append_assoc,
      chunks_append_of_full hk (hcs c mem_cons_self) hrest,
      ih (fun c hc => hcs c (mem_cons_of_mem _ hc)) fun _ => hys, cons_append]

/-- Pieces of `k` elements, of which only the last may be shorter. -/
def Chunked (k : Nat) : List (List α) → Prop
  | [] => True
  | c :: cs => c.length ≤ k ∧ (cs ≠ [] → c.length = k) ∧ Chunked k cs

lemma chunked_chunks (hk : 0 < k) (xs : List α) : Chunked k (chunks k xs) := by
  induction xs using chunks.induct k with
  | case1 xs h ih =>
    have hlen : (xs.take k).length = k := length_take_of_le h.2.le
    rw [chunks_of_lt h.1 h.2]
    exact ⟨hlen.le, fun _ => hlen, ih⟩
  | case2 xs h =>
    have hle : xs.length ≤ k := by omega
    rw [chunks_of_le hle]
    exact ⟨hle, fun h => absurd rfl h, trivial⟩

lemma length_chunks_le {n : Nat} (hn : 0 < n) (h : xs.length ≤ n * k) :
    (chunks k xs).length ≤ n := by
  induction xs using chunks.induct k generalizing n with
  | case1 xs hk ih =>
    obtain ⟨m, rfl⟩ := Nat.exists_eq_succ_of_ne_zero hn.ne'
    have hdrop : (xs.drop k).length ≤ m * k := by
      rw [length_drop, Nat.sub_le_iff_le_add]
      rwa [Nat.succ_mul] at h
    have hm : 0 < m := by
      rcases Nat.eq_zero_or_pos m with rfl | hm
      · omega
      · exact hm
    rw [chunks_of_lt hk.1 hk.2, length_cons]
    exact Nat.succ_le_succ (ih hm hdrop)
  | case2 xs hk =>
    rw [chunks, if_neg hk]
    exact hn

end Chunks

end Homelab.Lib
