import Mathlib.Tactic.Common

/-!
# Loops with a decreasing measure

The body of a loop ends an iteration by stopping in a state or by going round again from one
(`Pass`); it may depend on the number of the iteration, which is how a body that reads the outside
world afresh each time is written. `loop` runs at most `fuel` iterations.

* `loop_induction`: what every iteration keeps holds when the loop ends.
* `loop_fuel`: when each repeated iteration lowers a measure, any fuel above the measure gives the
  same result. The bound is then no restriction: the loop always ends by stopping.
-/

namespace Homelab.Lib

variable {σ : Type}

/-- How an iteration ends. -/
inductive Pass (σ : Type) where
  | stop (s : σ)
  | again (s : σ)

/-- The state an iteration ends in. -/
def Pass.state : Pass σ → σ
  | .stop s => s
  | .again s => s

/-- Run `body` until it stops; `i` is the number of the iteration. -/
def loop (body : Nat → σ → Pass σ) : Nat → Nat → σ → σ
  | 0, _, s => s
  | fuel + 1, i, s =>
    match body i s with
    | .stop s' => s'
    | .again s' => loop body fuel (i + 1) s'

variable {body : Nat → σ → Pass σ}

/-- **Loop rule.** What every iteration keeps holds at the end. -/
theorem loop_induction (I : σ → Prop) (hbody : ∀ i s, I s → I (body i s).state) (fuel i : Nat)
    {s : σ} (h : I s) : I (loop body fuel i s) := by
  induction fuel generalizing i s with
  | zero => exact h
  | succ fuel ih =>
    have hb := hbody i s h
    unfold loop
    rcases hp : body i s with s' | s' <;> rw [hp] at hb
    · exact hb
    · exact ih (i + 1) hb

/-- **Enough fuel.** Fuel past the measure makes no difference. -/
theorem loop_fuel (μ : σ → Nat) (hμ : ∀ i s s', body i s = .again s' → μ s' < μ s) {fuel i : Nat}
    {s : σ} (h : μ s < fuel) (extra : Nat) : loop body (fuel + extra) i s = loop body fuel i s := by
  induction fuel generalizing i s with
  | zero => omega
  | succ fuel ih =>
    rw [Nat.succ_add]
    unfold loop
    rcases hp : body i s with s' | s'
    · rfl
    · have := hμ i s s' hp
      exact ih (by omega)

end Homelab.Lib
