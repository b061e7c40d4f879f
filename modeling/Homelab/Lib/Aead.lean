import Mathlib.Logic.Basic
import Mathlib.Tactic.Common

/-!
# Authenticated encryption with associated data

An ideal AEAD: decryption under the key and the associated data of the encryption gives back the
plaintext, under any other it fails. Keys, texts, ciphertexts and tags are arbitrary types; only
their sizes are seen.

* `decrypt_eq_some_iff` is the rule proofs use: what a decryption of an encryption can give.
* `symbolic` is the AEAD whose ciphertexts are the records of what was encrypted.
-/

namespace Homelab.Lib

/-- An AEAD over keys `κ`, texts `β`, ciphertexts `χ` and tags `τ`. -/
structure Aead (κ β χ τ : Type) where
  /-- Key, nonce, associated data and plaintext to ciphertext and tag. -/
  encrypt : κ → β → β → β → χ × τ
  /-- Key, nonce, associated data, ciphertext and tag to the plaintext. -/
  decrypt : κ → β → β → χ → τ → Option β
  /-- The size of a text. -/
  size : β → Nat
  /-- The size of a ciphertext. -/
  cipherSize : χ → Nat
  /-- The size of a tag. -/
  tagSize : τ → Nat
  /-- The size all tags are made with. -/
  tagLength : Nat
  cipherSize_encrypt : ∀ k n a p, cipherSize (encrypt k n a p).1 = size p
  tagSize_encrypt : ∀ k n a p, tagSize (encrypt k n a p).2 = tagLength
  decrypt_encrypt : ∀ k n a p, decrypt k n a (encrypt k n a p).1 (encrypt k n a p).2 = some p
  decrypt_other : ∀ k n a p k' a', ¬ (k' = k ∧ a' = a) →
    decrypt k' n a' (encrypt k n a p).1 (encrypt k n a p).2 = none

namespace Aead

variable {κ β χ τ : Type}

lemma decrypt_eq_some_iff (A : Aead κ β χ τ) (k n a p k' a' q) :
    A.decrypt k' n a' (A.encrypt k n a p).1 (A.encrypt k n a p).2 = some q ↔
      (k' = k ∧ a' = a) ∧ p = q := by
  by_cases h : k' = k ∧ a' = a
  · obtain ⟨rfl, rfl⟩ := h
    rw [A.decrypt_encrypt, Option.some.injEq]
    exact (and_iff_right ⟨rfl, rfl⟩).symm
  · rw [A.decrypt_other k n a p k' a' h]
    simp [h]

/-- Ciphertexts that record what was encrypted. -/
def symbolic [DecidableEq κ] [DecidableEq β] (size : β → Nat) (tagLength : Nat) :
    Aead κ β (κ × β × β × β) Unit where
  encrypt k n a p := ((k, n, a, p), ())
  decrypt k n a c _ := if k = c.1 ∧ n = c.2.1 ∧ a = c.2.2.1 then some c.2.2.2 else none
  size := size
  cipherSize c := size c.2.2.2
  tagSize _ := tagLength
  tagLength := tagLength
  cipherSize_encrypt _ _ _ _ := rfl
  tagSize_encrypt _ _ _ _ := rfl
  decrypt_encrypt _ _ _ _ := if_pos ⟨rfl, rfl, rfl⟩
  decrypt_other _ _ _ _ _ _ h := if_neg fun hc => h ⟨hc.1, hc.2.2⟩

end Aead

end Homelab.Lib
