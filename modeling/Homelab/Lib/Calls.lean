import Mathlib.Logic.Function.Basic
import Homelab.Lib.Run

/-!
# Concurrent calls over shared state

A server answers calls that run at the same time and share its state. A call is a program over
atomic operations, a `Proc`; between two operations of one call any other call may perform its own.
What an operation finds outside the shared state (a driver that fails, a file that cannot be read)
is data of the event that performs it, so the runs of a `System` are all its interleavings with all
outcomes.

What a call has done so far is summed up in its *role*, computed from its operations and their
answers. A discipline says which operations a call may perform in which role:

* `Proc.Follows` says that a program keeps the discipline whatever it is answered, and what holds
  of its result and its last role; `follows_bind` and `follows_op` are its rules.
* `System.run_invariant` is the induction rule: when all programs keep the discipline, an invariant
  of the shared state and the roles of the calls in flight has to be shown only for one operation
  that the role of its call allows.
* Calls that run one after the other are evaluated by `Proc.eval`, and `Proc.Follows.eval` is the
  same rule for one of them.
-/

namespace Homelab.Lib

open Function

/-! ## Programs -/

/-- A program that performs operations `o` with answers in `Ans o` and returns a value in `α`. -/
inductive Proc {Op : Type} (Ans : Op → Type) (α : Type) where
  | ret (a : α)
  | op (o : Op) (k : Ans o → Proc Ans α)

variable {Op : Type} {Ans : Op → Type} {α β : Type}

namespace Proc

def bind : Proc Ans α → (α → Proc Ans β) → Proc Ans β
  | .ret a, f => f a
  | .op o k, f => .op o fun x => (k x).bind f

instance : Monad (Proc Ans) where
  pure := .ret
  bind := bind

/-- The program of one operation. -/
@[simp] def perform (o : Op) : Proc Ans (Ans o) := .op o .ret

/-- The operation a program performs next. -/
def next? : Proc Ans α → Option Op
  | .ret _ => none
  | .op o _ => some o

end Proc

/-! ## Disciplines -/

/-- Which operations a call may perform in which role, and the role the answer leads to. -/
structure Discipline {Op : Type} (Ans : Op → Type) (ρ : Type) where
  may : ρ → Op → Prop
  next : ρ → (o : Op) → Ans o → ρ

section

variable {ρ : Type} {D : Discipline Ans ρ}

/-- From the role `r` the program performs what its role allows, and returns a value and a role in
`Q`. -/
def Proc.Follows (D : Discipline Ans ρ) (Q : α → ρ → Prop) : Proc Ans α → ρ → Prop
  | .ret a, r => Q a r
  | .op o k, r => D.may r o ∧ ∀ x, (k x).Follows D Q (D.next r o x)

variable (Q : α → ρ → Prop)

@[simp] lemma follows_ret (a : α) (r : ρ) :
    (Proc.ret a : Proc Ans α).Follows D Q r ↔ Q a r := Iff.rfl

@[simp] lemma follows_op (o : Op) (k : Ans o → Proc Ans α) (r : ρ) :
    (Proc.op o k).Follows D Q r ↔ D.may r o ∧ ∀ x, (k x).Follows D Q (D.next r o x) := Iff.rfl

@[simp] lemma follows_pure (a : α) (r : ρ) : (pure a : Proc Ans α).Follows D Q r ↔ Q a r := Iff.rfl

@[simp] lemma follows_bind (p : Proc Ans α) (f : α → Proc Ans β) (Q : β → ρ → Prop) (r : ρ) :
    (p >>= f).Follows D Q r ↔ p.Follows D (fun a r' => (f a).Follows D Q r') r := by
  induction p generalizing r with
  | ret a => exact Iff.rfl
  | op o k ih =>
    constructor
    · rintro ⟨hmay, hk⟩
      exact ⟨hmay, fun x => (ih x (D.next r o x)).mp (hk x)⟩
    · rintro ⟨hmay, hk⟩
      exact ⟨hmay, fun x => (ih x (D.next r o x)).mpr (hk x)⟩

/-- The rule of consequence. -/
lemma Proc.Follows.mono {p : Proc Ans α} {Q Q' : α → ρ → Prop} {r : ρ} (h : p.Follows D Q r)
    (hQ : ∀ a r', Q a r' → Q' a r') : p.Follows D Q' r := by
  induction p generalizing r with
  | ret a => exact hQ a r h
  | op o k ih => exact ⟨h.1, fun x => ih x (h.2 x)⟩

/-- The rule of composition. -/
lemma Proc.Follows.bind {p : Proc Ans α} {f : α → Proc Ans β} {P : α → ρ → Prop} {Q : β → ρ → Prop}
    {r : ρ} (h : p.Follows D P r) (hf : ∀ a r', P a r' → (f a).Follows D Q r') :
    (p >>= f).Follows D Q r :=
  (follows_bind p f Q r).mpr (h.mono hf)

/-- The rule of one operation. -/
lemma Proc.Follows.perform {o : Op} {f : Ans o → Proc Ans β} {Q : β → ρ → Prop} {r : ρ}
    (hmay : D.may r o) (hf : ∀ x, (f x).Follows D Q (D.next r o x)) :
    (Proc.perform o >>= f).Follows D Q r := ⟨hmay, hf⟩

end

/-! ## One call after the other -/

section

variable {σ Io : Type} (exec : (o : Op) → Io → σ → Ans o × σ)

/-- A call that runs alone: its result and the state it leaves. What its operations find outside is
a list, and the default once that is used up. -/
def Proc.eval [Inhabited Io] : Proc Ans α → List Io → σ → α × σ
  | .ret a, _, s => (a, s)
  | .op o k, ios, s =>
    let (x, s') := exec o (ios.headD default) s
    (k x).eval ios.tail s'

/-- Every operation of a call that runs alone meets the condition `G`. -/
def Proc.Along [Inhabited Io] (G : σ → Op → Io → Prop) : Proc Ans α → List Io → σ → Prop
  | .ret _, _, _ => True
  | .op o k, ios, s =>
    G s o (ios.headD default) ∧
      (k (exec o (ios.headD default) s).1).Along G ios.tail (exec o (ios.headD default) s).2

instance Proc.decidableAlong [Inhabited Io] (G : σ → Op → Io → Prop)
    [∀ s o io, Decidable (G s o io)] :
    (p : Proc Ans α) → (ios : List Io) → (s : σ) → Decidable (p.Along exec G ios s)
  | .ret _, _, _ => isTrue trivial
  | .op o k, ios, s =>
    @instDecidableAnd _ _ inferInstance
      (Proc.decidableAlong G (k (exec o (ios.headD default) s).1) ios.tail _)

variable {exec} {ρ : Type} {D : Discipline Ans ρ}

/-- **Rule for one call.** Let the program keep the discipline, and let `I` relate the state and the
role and be kept by every operation that meets the condition and is allowed to the role. Then `I`
holds of the state the call leaves, and `Q` of its result. -/
theorem Proc.Follows.eval [Inhabited Io] {G : σ → Op → Io → Prop} {I : σ → ρ → Prop}
    (hstep : ∀ s r o io, I s r → D.may r o → G s o io →
      I (exec o io s).2 (D.next r o (exec o io s).1))
    {p : Proc Ans α} {Q : α → ρ → Prop} {r : ρ} (hp : p.Follows D Q r) {ios : List Io} {s : σ}
    (hG : p.Along exec G ios s) (hI : I s r) :
    ∃ r', I (p.eval exec ios s).2 r' ∧ Q (p.eval exec ios s).1 r' := by
  induction p generalizing r ios s with
  | ret a => exact ⟨r, hI, hp⟩
  | op o k ih => exact ih _ (hp.2 _) hG.2 (hstep s r o _ hI hp.1 hG.1)

end

/-! ## Systems of calls -/

/-- Operations on a shared state `σ`, requests and the programs that answer them, and the roles of
calls. An operation is given the time and what it finds outside. -/
structure System (σ : Type) {Op : Type} (Ans : Op → Type) (Io Req ρ α : Type) where
  exec : Nat → (o : Op) → Io → σ → Ans o × σ
  body : Req → Proc Ans α
  /-- The role of a call that begins at the given time. -/
  init : Req → Nat → ρ
  next : ρ → (o : Op) → Ans o → ρ

/-- A call: what it was asked, its role, and what is left of its program. -/
structure Call {Op : Type} (Ans : Op → Type) (Req ρ α : Type) where
  req : Req
  role : ρ
  rest : Proc Ans α

/-- The role of a call in flight; a call that has returned has none. -/
def Call.role? {Req ρ : Type} (c : Call Ans Req ρ α) : Option ρ :=
  match c.rest with
  | .ret _ => none
  | .op _ _ => some c.role

/-- The time, the shared state, and all calls so far in the order they began. -/
structure World (σ : Type) {Op : Type} (Ans : Op → Type) (Req ρ α : Type) where
  now : Nat
  shared : σ
  calls : List (Call Ans Req ρ α)

/-- A call begins, a call performs its next operation, or time passes. -/
inductive CallEvent (Req Io : Type) where
  | begin (req : Req)
  | advance (i : Nat) (io : Io)
  | elapse (duration : Nat)

namespace System

variable {σ Io Req ρ : Type} (sys : System σ Ans Io Req ρ α) (w : World σ Ans Req ρ α)

/-- The call `c`, the `i`-th, performs `o`. -/
def perform (i : Nat) (c : Call Ans Req ρ α) (o : Op)
    (k : Ans o → Proc Ans α) (io : Io) : World σ Ans Req ρ α :=
  let (x, shared) := sys.exec w.now o io w.shared
  { w with shared := shared, calls := w.calls.set i ⟨c.req, sys.next c.role o x, k x⟩ }

/-- The `i`-th call performs its next operation, if it has one. -/
def advance (i : Nat) (io : Io) : World σ Ans Req ρ α :=
  match w.calls[i]? with
  | none => w
  | some c =>
    match c.rest with
    | .ret _ => w
    | .op o k => sys.perform w i c o k io

def step : CallEvent Req Io → World σ Ans Req ρ α
  | .begin req => { w with calls := w.calls ++ [⟨req, sys.init req w.now, sys.body req⟩] }
  | .elapse duration => { w with now := w.now + duration }
  | .advance i io => sys.advance w i io

end System

namespace World

variable {σ Io Req ρ : Type} (w : World σ Ans Req ρ α)

/-- The roles of the calls in flight. -/
def roles (i : Nat) : Option ρ := w.calls[i]?.bind Call.role?

/-- The same, as a list. -/
def inFlight : List ρ := w.calls.filterMap Call.role?

lemma mem_inFlight {i : Nat} {r : ρ} (h : w.roles i = some r) : r ∈ w.inFlight := by
  obtain ⟨c, hc, hr⟩ := Option.bind_eq_some_iff.mp h
  exact List.mem_filterMap.mpr ⟨c, List.mem_of_getElem? hc, hr⟩

/-- The operation a call performs next. -/
def next? (i : Nat) : Option Op := w.calls[i]?.bind (·.rest.next?)

/-- A condition on the operations of a run: on the time, the state before, the roles of the calls in
flight, the role of the call that performs it, and the operation with what it finds outside. -/
def Meets (G : Nat → σ → List ρ → ρ → Op → Io → Prop) : CallEvent Req Io → Prop
  | .advance i io => ∀ o ∈ w.next? i, ∀ r ∈ w.roles i, G w.now w.shared w.inFlight r o io
  | _ => True

instance decidableMeets (G : Nat → σ → List ρ → ρ → Op → Io → Prop)
    [∀ now s flying r o io, Decidable (G now s flying r o io)] :
    (e : CallEvent Req Io) → Decidable (w.Meets G e)
  | .begin _ => isTrue trivial
  | .elapse _ => isTrue trivial
  | .advance i io => inferInstanceAs
      (Decidable (∀ o ∈ w.next? i, ∀ r ∈ w.roles i, G w.now w.shared w.inFlight r o io))

end World

/-! ## The invariant rule -/

/-- A change of one role that `f` does not see. -/
lemma update_unseen {ρ β : Type} {roles : Nat → ρ} (f : ρ → β) {i : Nat} {r : ρ}
    (hf : f r = f (roles i)) (j : Nat) : f (update roles i r j) = f (roles j) := by
  by_cases hj : j = i
  · subst hj
    rw [update_self, hf]
  · rw [update_of_ne hj]

section

variable {σ Io Req ρ : Type} {sys : System σ Ans Io Req ρ α}

/-- The roles after an operation: that of its call is the next one, or none once it has returned. -/
lemma System.roles_perform {w : World σ Ans Req ρ α} {i : Nat} {c : Call Ans Req ρ α}
    (hc : w.calls[i]? = some c) (o : Op) (k : Ans o → Proc Ans α) (io : Io) :
    (sys.perform w i c o k io).roles = update w.roles i
      (Call.role? ⟨c.req, sys.next c.role o (sys.exec w.now o io w.shared).1,
        k (sys.exec w.now o io w.shared).1⟩) := by
  have hi : i < w.calls.length := (List.getElem?_eq_some_iff.mp hc).1
  funext j
  unfold World.roles System.perform
  by_cases hj : j = i
  · subst hj
    rw [update_self, List.getElem?_set_self hi]
    rfl
  · rw [update_of_ne hj, List.getElem?_set_ne (Ne.symm hj)]

/-- The roles after a call has begun. -/
lemma System.roles_begin (w : World σ Ans Req ρ α) (req : Req) :
    (sys.step w (.begin req)).roles = update w.roles w.calls.length
      (Call.role? ⟨req, sys.init req w.now, sys.body req⟩) := by
  funext j
  change (w.calls ++ [_])[j]?.bind Call.role? = _
  by_cases hj : j = w.calls.length
  · subst hj
    rw [update_self, List.getElem?_concat_length]
    rfl
  · rw [update_of_ne hj]
    rcases Nat.lt_or_gt_of_ne hj with hlt | hgt
    · rw [List.getElem?_append_left hlt]
      rfl
    · rw [World.roles, List.getElem?_eq_none (Nat.le_of_lt hgt), List.getElem?_eq_none]
      rw [List.length_append]
      exact hgt

/-- An event of a call that has returned, or of none, changes nothing; any other performs the next
operation of its call. -/
lemma System.advance_cases (sys : System σ Ans Io Req ρ α) (w : World σ Ans Req ρ α) (i : Nat)
    (io : Io) :
    sys.step w (.advance i io) = w ∨ ∃ (c : Call Ans Req ρ α) (o : Op) (k : Ans o → Proc Ans α),
      w.calls[i]? = some c ∧ c.rest = .op o k ∧
        sys.step w (.advance i io) = sys.perform w i c o k io := by
  rw [System.step, System.advance]
  rcases hc : w.calls[i]? with _ | c
  · exact .inl rfl
  · obtain ⟨req, role, rest⟩ := c
    cases rest with
    | ret a => exact .inl rfl
    | op o k => exact .inr ⟨_, o, k, rfl, rfl, rfl⟩

/-- Every call keeps the discipline from its role on, and ends in a role in `fin`. -/
def System.Disciplined (sys : System σ Ans Io Req ρ α) (may : ρ → Op → Prop) (fin : ρ → Prop)
    (w : World σ Ans Req ρ α) : Prop :=
  ∀ (i : Nat) (c : Call Ans Req ρ α), w.calls[i]? = some c →
    c.rest.Follows ⟨may, sys.next⟩ (fun _ r => fin r) c.role

variable {may : ρ → Op → Prop} {fin : ρ → Prop}

section

variable (hbody : ∀ req now,
  (sys.body req).Follows ⟨may, sys.next⟩ (fun _ r => fin r) (sys.init req now))

include hbody

lemma System.Disciplined.step {w : World σ Ans Req ρ α} (h : sys.Disciplined may fin w)
    (e : CallEvent Req Io) : sys.Disciplined may fin (sys.step w e) := by
  cases e with
  | begin req =>
    intro i c hc
    rw [System.step, List.getElem?_append] at hc
    split at hc
    · exact h i c hc
    · rw [List.getElem?_singleton] at hc
      split at hc
      · cases hc
        exact hbody req w.now
      · cases hc
  | elapse duration => exact h
  | advance i io =>
    rcases sys.advance_cases w i io with hsame | ⟨c, o, k, hc, hrest, hstep⟩
    · rw [hsame]
      exact h
    · rw [hstep]
      have hi : i < w.calls.length := (List.getElem?_eq_some_iff.mp hc).1
      have hfollows := h i c hc
      rw [hrest] at hfollows
      intro j c' hc'
      by_cases hj : j = i
      · subst hj
        rw [System.perform, List.getElem?_set_self hi] at hc'
        cases hc'
        exact hfollows.2 _
      · rw [System.perform, List.getElem?_set_ne (Ne.symm hj)] at hc'
        exact h j c' hc'

/-- **Invariant rule.** All programs keep the discipline. What relates the time, the shared state and
the roles in flight, and is kept by the beginning and the end of a call, by time, and by each allowed
operation that meets `G`, holds after every run whose operations meet `G`. -/
theorem System.run_invariant {G : Nat → σ → List ρ → ρ → Op → Io → Prop}
    (I : Nat → σ → (Nat → Option ρ) → Prop)
    (hbegin : ∀ now s roles i req, I now s roles → roles i = none →
      I now s (update roles i (some (sys.init req now))))
    (helapse : ∀ now s roles duration, I now s roles → I (now + duration) s roles)
    (hend : ∀ now s roles i r, I now s roles → roles i = some r → fin r →
      I now s (update roles i none))
    (hstep : ∀ now s roles flying i r o io, I now s roles →
      (∀ j r', roles j = some r' → r' ∈ flying) →
      roles i = some r → may r o → G now s flying r o io → I now (sys.exec now o io s).2
        (update roles i (some (sys.next r o (sys.exec now o io s).1))))
    {now : Nat} {s : σ} (h0 : I now s fun _ => none) {es : List (CallEvent Req Io)}
    (hrun : Along sys.step (fun w e => w.Meets G e) ⟨now, s, []⟩ es) :
    sys.Disciplined may fin (run sys.step ⟨now, s, []⟩ es) ∧
      I (run sys.step ⟨now, s, []⟩ es).now (run sys.step ⟨now, s, []⟩ es).shared
        (run sys.step ⟨now, s, []⟩ es).roles := by
  refine run_induction (fun w => sys.Disciplined may fin w ∧ I w.now w.shared w.roles)
    ?_ ⟨?_, h0⟩ hrun
  · rintro w e ⟨hd, hI⟩ hG
    refine ⟨hd.step hbody e, ?_⟩
    cases e with
    | begin req =>
      rw [System.roles_begin]
      have hnone : w.roles w.calls.length = none := by
        rw [World.roles, List.getElem?_eq_none (Nat.le_refl _)]
        rfl
      unfold Call.role?
      rcases hb : sys.body req with a | ⟨o, k⟩
      · rw [← hnone, update_eq_self]
        exact hI
      · exact hbegin w.now w.shared w.roles w.calls.length req hI hnone
    | elapse duration => exact helapse w.now w.shared w.roles duration hI
    | advance i io =>
      rcases sys.advance_cases w i io with hsame | ⟨c, o, k, hc, hrest, hperform⟩
      · rw [hsame]
        exact hI
      · have hrole : w.roles i = some c.role := by
          rw [World.roles, hc, Option.bind_some, Call.role?, hrest]
        have hfollows := hd i c hc
        rw [hrest] at hfollows
        have hguard : G w.now w.shared w.inFlight c.role o io := by
          refine hG o ?_ c.role hrole
          rw [World.next?, hc, Option.bind_some, hrest]
          rfl
        have hI' := hstep w.now w.shared w.roles w.inFlight i c.role o io hI
          (fun j r' => w.mem_inFlight) hrole hfollows.1 hguard
        rw [hperform, System.roles_perform hc]
        rcases hk : k (sys.exec w.now o io w.shared).1 with a | ⟨o', k'⟩
        · -- the call returns with this operation
          have hfin : fin (sys.next c.role o (sys.exec w.now o io w.shared).1) := by
            have := hfollows.2 (sys.exec w.now o io w.shared).1
            rwa [hk] at this
          have := hend _ _ _ i _ hI' (update_self ..) hfin
          rwa [update_idem] at this
        · exact hI'
  · intro i c hc
    simp at hc

end

end

end Homelab.Lib
