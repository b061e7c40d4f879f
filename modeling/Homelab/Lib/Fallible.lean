import Mathlib.Tactic.Common

/-!
# Fallible steps

Steps that may fail succeed together when each of them does.
-/

namespace Homelab.Lib

variable {ε α β : Type} {x : Except ε α} {b : β}

lemma except_bind_eq_ok {f : α → Except ε β} :
    (x >>= f) = .ok b ↔ ∃ a, x = .ok a ∧ f a = .ok b := by
  cases x with
  | error e => simp [bind, Except.bind]
  | ok a => simp [bind, Except.bind]

lemma except_map_eq_ok {f : α → β} : x.map f = .ok b ↔ ∃ a, x = .ok a ∧ f a = b := by
  cases x with
  | error e => simp [Except.map]
  | ok a => simp [Except.map]

end Homelab.Lib
