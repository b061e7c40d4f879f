import Mathlib.Algebra.Group.Nat.Defs
import Homelab.Embervm.TaskState

/-!
# Failure classification

`Embervm.Retry`: whether a failure is retried or permanent, from its reason, the attempt it is
charged at and the workload's retry configuration.
-/

namespace Homelab.Embervm

/-- The reason atom of a failure: the ones `Embervm.Retry` names, the `:expired` the store writes
itself, and any other atom. -/
inductive FailReason where
  | transport
  | timeout
  | guest5xx
  | guest4xx
  | capacity
  | expired
  | other (name : String)
  deriving DecidableEq, Repr

/-- Source: `retry.ex`, `retry_config` -/
structure RetryConfig where
  /-- The attempt on which the budget is exhausted. -/
  maxAttempts : Nat
  /-- The base of the backoff. -/
  backoffMs : Nat
  /-- The bound the backoff never exceeds. -/
  backoffCapMs : Nat
  /-- The reasons that are retried. -/
  retryOn : List FailReason
  deriving DecidableEq, Repr

namespace Retry

/-- Source: `retry.ex`, `default_config/0` -/
def defaultConfig : RetryConfig where
  maxAttempts := 3
  backoffMs := 1000
  backoffCapMs := 60000
  retryOn := [.transport, .timeout, .guest5xx]

variable (reason : FailReason)

/-- Source: `retry.ex`, `retryable?/2` -/
def retryable? (cfg : RetryConfig) : Bool :=
  match reason with
  | .guest4xx => false
  | .capacity => true
  | reason => reason ∈ cfg.retryOn

/-- Source: `retry.ex`, `classify/3` -/
def classify (attempt : Nat) (cfg : RetryConfig) : TaskEvent :=
  match reason with
  | .capacity => .failRetryable
  | reason =>
    if retryable? reason cfg && attempt < cfg.maxAttempts then .failRetryable
    else .failPermanent

/-- Source: `retry.ex`, `@max_backoff_exponent` -/
def maxBackoffExponent : Nat := 32

/-- Source: `retry.ex`, `backoff_ms/3` -/
def backoffMs (attempt : Nat) (cfg : RetryConfig) (rand : Nat → Nat) : Nat :=
  let exponent := min (attempt - 1) maxBackoffExponent
  rand (min cfg.backoffCapMs (cfg.backoffMs * 2 ^ exponent))

/-- A failure is classified as one of the two failure events. -/
lemma classify_eq (attempt : Nat) (cfg : RetryConfig) :
    classify reason attempt cfg = .failRetryable ∨
      classify reason attempt cfg = .failPermanent := by
  unfold classify
  split
  · exact .inl rfl
  · split
    · exact .inl rfl
    · exact .inr rfl

end Retry

end Homelab.Embervm
