import Mathlib.Tactic.Common

/-!
# The stateful instance lifecycle

`Embervm.StatefulState`: the FSM of a stateful instance as a transition table.

* `live` lists the states that hold a VM; `banked` is not one of them (it holds a snapshot).
* `live_of_transition`: the only edges from a state that is not live to one that is leave
  `banked`, by `relight`, `cold_boot` or `begin_destroy`.
-/

namespace Homelab.Embervm

/-- Source: `stateful_state.ex`, `@states` -/
inductive StatefulState where
  | starting
  | serving
  | banking
  | checkpointed
  | banked
  | relighting
  | coldBooting
  | destroying
  | evicted
  | destroyed
  | failed
  deriving DecidableEq, Repr

/-- Source: `stateful_state.ex`, `@events` -/
inductive StatefulEvent where
  | publish
  | unpublish
  | bank
  | bankReady
  | bankAbort
  | checkpointReady
  | commit
  | abort
  | relight
  | relightReady
  | relightAbort
  | coldBoot
  | coldReady
  | coldAbort
  | evict
  | beginDestroy
  | destroy
  | fail
  deriving DecidableEq, Repr

namespace StatefulState

/-- Source: `stateful_state.ex`, `@terminal_states` -/
def terminal : StatefulState → Bool
  | evicted | destroyed | failed => true
  | _ => false

/-- Source: `stateful_state.ex`, `@live_states` -/
def live : StatefulState → Bool
  | starting | serving | banking | checkpointed | relighting | coldBooting | destroying => true
  | banked | evicted | destroyed | failed => false

/-- The atom as a string. -/
def name : StatefulState → String
  | starting => "starting"
  | serving => "serving"
  | banking => "banking"
  | checkpointed => "checkpointed"
  | banked => "banked"
  | relighting => "relighting"
  | coldBooting => "cold_booting"
  | destroying => "destroying"
  | evicted => "evicted"
  | destroyed => "destroyed"
  | failed => "failed"

/-- `{:illegal_transition, state, event}`. -/
structure IllegalTransition where
  /-- The state the event was asked in. -/
  state : StatefulState
  /-- The event that has no edge there. -/
  event : StatefulEvent
  deriving DecidableEq, Repr

/-- The transition table.
Source: `stateful_state.ex`, `@transitions` and `transition/2` -/
def transition : StatefulState → StatefulEvent → Except IllegalTransition StatefulState
  | starting, .publish => .ok serving
  | serving, .unpublish => .ok banking
  | serving, .bank => .ok banking
  | banking, .bankReady => .ok banked
  | banking, .bankAbort => .ok serving
  | banking, .checkpointReady => .ok checkpointed
  | checkpointed, .commit => .ok banked
  | checkpointed, .abort => .ok serving
  | banked, .relight => .ok relighting
  | relighting, .relightReady => .ok starting
  | relighting, .relightAbort => .ok banked
  | banked, .coldBoot => .ok coldBooting
  | coldBooting, .coldReady => .ok starting
  | coldBooting, .coldAbort => .ok banked
  | banked, .evict => .ok evicted
  | starting, .destroy => .ok destroyed
  | serving, .destroy => .ok destroyed
  | banking, .destroy => .ok destroyed
  | checkpointed, .destroy => .ok destroyed
  | banked, .destroy => .ok destroyed
  | relighting, .destroy => .ok destroyed
  | coldBooting, .destroy => .ok destroyed
  | starting, .beginDestroy => .ok destroying
  | serving, .beginDestroy => .ok destroying
  | banking, .beginDestroy => .ok destroying
  | checkpointed, .beginDestroy => .ok destroying
  | banked, .beginDestroy => .ok destroying
  | relighting, .beginDestroy => .ok destroying
  | coldBooting, .beginDestroy => .ok destroying
  | destroying, .destroy => .ok destroyed
  | destroying, .fail => .ok failed
  | starting, .fail => .ok failed
  | serving, .fail => .ok failed
  | banking, .fail => .ok failed
  | checkpointed, .fail => .ok failed
  | relighting, .fail => .ok failed
  | coldBooting, .fail => .ok failed
  | s, e => .error ⟨s, e⟩

/-- The FSM has no edge out of a terminal state. -/
lemma not_terminal_of_transition {s s' : StatefulState} {e : StatefulEvent}
    (h : transition s e = .ok s') : s.terminal = false := by
  cases s with
  | evicted | destroyed | failed => cases e <;> cases h
  | _ => rfl

/-- **The edges into life**: an event that takes an instance without a VM to a state with one
leaves `banked`, by a wake or by a destroy intent. -/
theorem live_of_transition {s s' : StatefulState} {e : StatefulEvent}
    (h : transition s e = .ok s') (hs : s.live = false) (hs' : s'.live = true) :
    s = banked ∧ (e = .relight ∨ e = .coldBoot ∨ e = .beginDestroy) := by
  cases s with
  | banked =>
    refine ⟨rfl, ?_⟩
    cases e with
    | relight => exact .inl rfl
    | coldBoot => exact .inr (.inl rfl)
    | beginDestroy => exact .inr (.inr rfl)
    | evict | destroy =>
      cases h
      cases hs'
    | _ => cases h
  | evicted | destroyed | failed => exact absurd (not_terminal_of_transition h) (by decide)
  | _ => cases hs

end StatefulState

end Homelab.Embervm
