import Mathlib.Data.List.TakeWhile
import Mathlib.Tactic.Common

/-!
# Readers

A stream that arrives in pieces: `Reader.read n` gives some of what is left, at most `n` items, and
nothing only at the end. How it is cut is up to the reader; what there is to read is its `content`.

* `Reader.chunks` reads from a list of pieces.
* `Buffered` is a buffered reader over a reader: `readSlice` reads up to a delimiter or until the
  buffer is full, and `consume` reads a number of items.
* Both are functions of the content alone (`readSlice_eq`, `content_consume`): no program over
  buffered readers sees the pieces.
-/

namespace Homelab.Lib

variable {σ β : Type}

structure Reader (σ β : Type) where
  read : Nat → σ → List β × σ
  /-- All that is left to read. -/
  content : σ → List β
  read_content : ∀ n s, (read n s).1 ++ content (read n s).2 = content s
  read_length : ∀ n s, (read n s).1.length ≤ n
  read_end : ∀ n s, 0 < n → (read n s).1 = [] → content s = []

/-! ## Pieces -/

def readChunks (n : Nat) : List (List β) → List β × List (List β)
  | [] => ([], [])
  | [] :: cs => readChunks n cs
  | (b :: c) :: cs => ((b :: c).take n, (b :: c).drop n :: cs)

/-- The reader of a list of pieces. -/
def Reader.chunks : Reader (List (List β)) β where
  read := readChunks
  content := List.flatten
  read_content := by
    intro n cs
    induction cs with
    | nil => rfl
    | cons c cs ih =>
      cases c with
      | nil => simpa [readChunks] using ih
      | cons b c => simp [readChunks, ← List.append_assoc]
  read_length := by
    intro n cs
    induction cs with
    | nil => simp [readChunks]
    | cons c cs ih =>
      cases c with
      | nil => exact ih
      | cons b c => exact List.length_take_le n (b :: c)
  read_end := by
    intro n cs hn
    induction cs with
    | nil => simp
    | cons c cs ih =>
      cases c with
      | nil => simpa [readChunks] using ih
      | cons b c =>
        intro h
        have hcut : n = 0 ∨ b :: c = [] := List.take_eq_nil_iff.mp h
        exact absurd hcut (by simp; omega)

/-! ## Buffers -/

structure Buffered (σ β : Type) where
  buf : List β
  src : σ
  deriving DecidableEq, Repr

/-- A fragment up to a delimiter, one that fills the buffer, or what was left at the end. -/
inductive Slice (β : Type) where
  | line (items : List β)
  | full (items : List β)
  | eof (items : List β)
  deriving DecidableEq, Repr

def Slice.items : Slice β → List β
  | .line items => items
  | .full items => items
  | .eof items => items

namespace Buffered

variable (R : Reader σ β) (size : Nat)

def content (b : Buffered σ β) : List β := b.buf ++ R.content b.src

/-- One read, into what is free of the buffer. -/
def fill (b : Buffered σ β) : Buffered σ β :=
  let got := R.read (size - b.buf.length) b.src
  ⟨b.buf ++ got.1, got.2⟩

/-- The next fragment; `fuel` bounds the reads. -/
def readSlice [DecidableEq β] (d : β) : (fuel : Nat) → Buffered σ β → Slice β × Buffered σ β
  | 0, b => (.eof b.buf, { b with buf := [] })
  | fuel + 1, b =>
    if d ∈ b.buf then
      (.line (b.buf.takeWhile (· ≠ d) ++ [d]), { b with buf := (b.buf.dropWhile (· ≠ d)).tail })
    else if size ≤ b.buf.length then (.full b.buf, { b with buf := [] })
    else
      let next := fill R size b
      if next.buf.length = b.buf.length then (.eof b.buf, { next with buf := [] })
      else readSlice d fuel next

/-- The reader after `n` more items have been read. -/
def consume : (fuel n : Nat) → Buffered σ β → Buffered σ β
  | 0, _, b => b
  | fuel + 1, n, b =>
    if n ≤ b.buf.length then { b with buf := b.buf.drop n }
    else
      let next := fill R size { b with buf := [] }
      if next.buf = [] then next else consume fuel (n - b.buf.length) next

end Buffered

/-- The next fragment of a list, with what follows it. -/
def sliceOf [DecidableEq β] (size : Nat) (d : β) (items : List β) : Slice β × List β :=
  if d ∈ items.take size then
    (.line (items.takeWhile (· ≠ d) ++ [d]), (items.dropWhile (· ≠ d)).tail)
  else if size ≤ items.length then (.full (items.take size), items.drop size)
  else (.eof items, [])

/-- A fragment and what follows it are the list. -/
lemma items_sliceOf [DecidableEq β] (size : Nat) (d : β) (items : List β) :
    (sliceOf size d items).1.items ++ (sliceOf size d items).2 = items := by
  unfold sliceOf
  split
  · rename_i hmem
    have hne : items.dropWhile (· ≠ d) ≠ [] := by
      intro hnil
      exact absurd (List.dropWhile_eq_nil_iff.mp hnil d (List.mem_of_mem_take hmem)) (by simp)
    have hcons : d :: (items.dropWhile (· ≠ d)).tail = items.dropWhile (· ≠ d) := by
      have hhead := List.head_dropWhile_not (fun x => decide (x ≠ d)) hne
      rw [decide_eq_false_iff_not, not_not] at hhead
      have hsplit := List.cons_head_tail hne
      rwa [hhead] at hsplit
    calc
      _ = items.takeWhile (· ≠ d) ++ (d :: (items.dropWhile (· ≠ d)).tail) := by
        simp [Slice.items]
      _ = items.takeWhile (· ≠ d) ++ items.dropWhile (· ≠ d) := by rw [hcons]
      _ = items := List.takeWhile_append_dropWhile
  · split
    · exact List.take_append_drop _ _
    · exact List.append_nil _

/-- A fragment is a line, fills the buffer, or is all there was. -/
lemma sliceOf_cases [DecidableEq β] (size : Nat) (d : β) (items : List β) :
    (∃ body, d ∉ body ∧ (sliceOf size d items).1 = .line (body ++ [d])) ∨
      (∃ fragment, fragment.length = size ∧ (sliceOf size d items).1 = .full fragment) ∨
      (sliceOf size d items).1 = .eof items := by
  unfold sliceOf
  split_ifs with hfound hlong
  · refine .inl ⟨_, fun hmem => ?_, rfl⟩
    simpa using List.mem_takeWhile_imp hmem
  · exact .inr (.inl ⟨_, List.length_take_of_le hlong, rfl⟩)
  · exact .inr (.inr rfl)

namespace Buffered

variable {R : Reader σ β} {size : Nat}

lemma content_fill (b : Buffered σ β) : (fill R size b).content R = b.content R := by
  simp [fill, content, R.read_content]

lemma length_fill (b : Buffered σ β) (h : b.buf.length ≤ size) :
    (fill R size b).buf.length ≤ size ∧ b.buf.length ≤ (fill R size b).buf.length := by
  have hread := R.read_length (size - b.buf.length) b.src
  simp only [fill, List.length_append]
  omega

variable {b : Buffered σ β}

/-- A read into a buffer with room that adds nothing was made at the end. -/
lemma content_of_fill_eq (h : b.buf.length < size)
    (hsame : (fill R size b).buf.length = b.buf.length) :
    b.content R = b.buf ∧ (fill R size b).content R = (fill R size b).buf := by
  have hnone : (R.read (size - b.buf.length) b.src).1 = [] := by
    rw [← List.length_eq_zero_iff]
    simp only [fill, List.length_append] at hsame
    omega
  have hend := R.read_end _ b.src (by omega) hnone
  have hcontent : b.content R = b.buf := by simp [content, hend]
  refine ⟨hcontent, ?_⟩
  rw [content_fill, hcontent]
  simp [fill, hnone]

variable [DecidableEq β]

/-- **What is read up to a delimiter is a function of the content.** -/
theorem readSlice_eq {d : β} {fuel : Nat} (hbuf : b.buf.length ≤ size)
    (hfuel : size - b.buf.length < fuel) :
    ((readSlice R size d fuel b).1, (readSlice R size d fuel b).2.content R) =
      sliceOf size d (b.content R) := by
  induction fuel generalizing b with
  | zero => omega
  | succ fuel ih =>
    unfold readSlice
    by_cases hd : d ∈ b.buf
    · -- the delimiter is buffered, and what follows the buffer stays where it is
      have htake : d ∈ (b.content R).take size := by
        rw [content, List.take_append, List.take_of_length_le hbuf]
        exact List.mem_append_left _ hd
      have hdrop : b.buf.dropWhile (· ≠ d) ≠ [] := by
        intro hnil
        exact absurd (List.dropWhile_eq_nil_iff.mp hnil d hd) (by simp)
      have htaken : (b.buf.takeWhile (· ≠ d)).length ≠ b.buf.length := by
        intro hlen
        have hall := (List.takeWhile_prefix (· ≠ d)).eq_of_length hlen
        exact absurd (List.takeWhile_eq_self_iff.mp hall d hd) (by simp)
      rw [if_pos hd, sliceOf, if_pos htake]
      simp only [content, List.takeWhile_append, if_neg htaken, List.dropWhile_append,
        List.isEmpty_iff, if_neg hdrop, List.tail_append_of_ne_nil hdrop]
    · rw [if_neg hd]
      by_cases hfull : size ≤ b.buf.length
      · have hsize : b.buf.length = size := by omega
        have htake : (b.content R).take size = b.buf := by
          rw [content, List.take_append_of_le_length hfull, List.take_of_length_le hbuf]
        have hdrop : (b.content R).drop size = R.content b.src := by
          rw [content, ← hsize, List.drop_left]
        have hlen : size ≤ (b.content R).length := by
          rw [content, List.length_append]
          omega
        rw [if_pos hfull, sliceOf, htake, if_neg hd, if_pos hlen, hdrop]
        rfl
      · rw [if_neg hfull]
        by_cases hsame : (fill R size b).buf.length = b.buf.length
        · obtain ⟨hcontent, hrest⟩ := content_of_fill_eq (by omega) hsame
          have hnone : R.content (fill R size b).src = [] := List.append_right_eq_self.mp hrest
          have htake : b.buf.take size = b.buf := List.take_of_length_le hbuf
          rw [if_pos hsame, sliceOf, hcontent, htake, if_neg hd, if_neg hfull]
          simp [content, hnone]
        · rw [if_neg hsame]
          have hlen := length_fill (R := R) b hbuf
          rw [ih hlen.1 (by omega), content_fill]

/-- Reading on does not overfill the buffer. -/
lemma length_readSlice {d : β} {fuel : Nat} (hbuf : b.buf.length ≤ size) :
    (readSlice R size d fuel b).2.buf.length ≤ size := by
  induction fuel generalizing b with
  | zero => simp [readSlice]
  | succ fuel ih =>
    unfold readSlice
    split
    · have hsuffix := (List.dropWhile_suffix (l := b.buf) (· ≠ d)).length_le
      simp only [List.length_tail]
      omega
    · split
      · simp
      · dsimp only
        split
        · simp
        · exact ih (length_fill b hbuf).1

omit [DecidableEq β] in
/-- **Reading a number of items drops them from the content.** -/
theorem content_consume (hsize : 0 < size) {fuel n : Nat} (hfuel : n < fuel)
    (hempty : b.buf = [] → n + 1 < fuel) :
    (consume R size fuel n b).content R = (b.content R).drop n := by
  induction fuel generalizing n b with
  | zero => omega
  | succ fuel ih =>
    unfold consume
    split_ifs with hn
    · rw [content, content, List.drop_append_of_le_length hn]
    · have hfill : (fill R size { b with buf := [] }).content R = R.content b.src := by
        rw [content_fill]
        rfl
      have hdrop : (b.content R).drop n = (R.content b.src).drop (n - b.buf.length) := by
        rw [content, List.drop_append, List.drop_of_length_le (by omega), List.nil_append]
      by_cases hnone : (fill R size { b with buf := [] }).buf = []
      · have hend : R.content b.src = [] := by
          exact R.read_end _ _ (by simpa using hsize) hnone
        rw [if_pos hnone, hfill, hdrop, hend, List.drop_nil]
      · rw [if_neg hnone, hdrop, ← hfill]
        refine ih ?_ fun h => absurd h hnone
        rcases hbuf : b.buf with _ | ⟨x, xs⟩
        · have := hempty hbuf
          omega
        · simp only [List.length_cons]
          omega

end Buffered

end Homelab.Lib
