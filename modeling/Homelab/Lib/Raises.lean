import Homelab.Lib.Calls
import Homelab.Lib.Fallible

/-!
# Programs that raise

A call that talks to the outside and may raise is a program `ExceptT ε (Proc Ans)`. What it was
answered is its *trace*, the list of its operations with their answers.

* `Proc.Runs p t a` says that `p` returns `a` when it is answered as in `t`; all patterns of answers
  are all such `t`.
* `Proc.Follows.runs` turns a proof that a program keeps a discipline into a statement about all its
  runs. In the discipline `watching see may` the role of a call is what an observer has seen of it.
* `Proc.Can` is the dual: some answers lead to a result in `Q`.
* `follows_run_bind` and `follows_run_tryCatch` are the rules for programs that raise, and
  `Proc.Can.run_bind` and `Proc.Can.run_tryCatch` those of the dual.
-/

namespace Homelab.Lib

open List

variable {Op : Type} {Ans : Op → Type} {α β ε : Type}

/-- An operation with its answer. -/
abbrev Done (Ans : Op → Type) := (o : Op) × Ans o

abbrev Trace (Ans : Op → Type) := List (Done Ans)

/-! ## Runs -/

/-- The program returns `a` when it is answered as in the trace. -/
inductive Proc.Runs : Proc Ans α → Trace Ans → α → Prop where
  | ret (a : α) : Runs (.ret a) [] a
  | op {o : Op} {k : Ans o → Proc Ans α} {x : Ans o} {t : Trace Ans} {a : α} :
      Runs (k x) t a → Runs (.op o k) (⟨o, x⟩ :: t) a

variable {p : Proc Ans α} {t : Trace Ans}

lemma Proc.runs_bind {f : α → Proc Ans β} {b : β} :
    (p >>= f).Runs t b ↔ ∃ t₁ t₂ a, t = t₁ ++ t₂ ∧ p.Runs t₁ a ∧ (f a).Runs t₂ b := by
  induction p generalizing t with
  | ret a =>
    constructor
    · intro h
      exact ⟨[], t, a, rfl, .ret a, h⟩
    · rintro ⟨t₁, t₂, a', rfl, ha, hf⟩
      cases ha
      exact hf
  | op o k ih =>
    constructor
    · intro h
      cases h with
      | op hk =>
        obtain ⟨t₁, t₂, a, rfl, ha, hf⟩ := (ih _).mp hk
        exact ⟨_, t₂, a, rfl, .op ha, hf⟩
    · rintro ⟨t₁, t₂, a, rfl, ha, hf⟩
      cases ha with
      | op hk => exact .op ((ih _).mpr ⟨_, t₂, a, rfl, hk, hf⟩)

/-- A program that is answered the same does the same. -/
lemma Proc.Runs.unique {t' u u' : Trace Ans} {a a' : α} (h : p.Runs t a) (h' : p.Runs t' a')
    (heq : t ++ u = t' ++ u') : t = t' ∧ a = a' := by
  induction h generalizing t' with
  | ret a =>
    cases h'
    exact ⟨rfl, rfl⟩
  | op _ ih =>
    cases h' with
    | op hk' =>
      obtain ⟨hd, htail⟩ := cons.inj heq
      cases hd
      obtain ⟨rfl, rfl⟩ := ih hk' htail
      exact ⟨rfl, rfl⟩

/-- The program answered as in the trace; `none` when its operations are not those of the trace. -/
def Proc.replay [DecidableEq Op] : Proc Ans α → Trace Ans → Option α
  | .ret a, [] => some a
  | .ret _, _ :: _ => none
  | .op _ _, [] => none
  | .op o k, ⟨o', x⟩ :: t => if h : o' = o then (k (h ▸ x)).replay t else none

lemma Proc.runs_iff_replay [DecidableEq Op] {a : α} : p.Runs t a ↔ p.replay t = some a := by
  constructor
  · intro h
    induction h with
    | ret a => rfl
    | op _ ih => simpa [replay] using ih
  · intro h
    induction p generalizing t with
    | ret a' =>
      cases t with
      | nil => exact Option.some.inj h ▸ .ret a'
      | cons d t => simp [replay] at h
    | op o k ih =>
      cases t with
      | nil => simp [replay] at h
      | cons d t =>
        obtain ⟨o', x⟩ := d
        by_cases ho : o' = o
        · subst ho
          exact .op (ih x (by simpa [replay] using h))
        · simp [replay, ho] at h

instance [DecidableEq Op] [DecidableEq α] {p : Proc Ans α} {t : Trace Ans} {a : α} :
    Decidable (p.Runs t a) :=
  decidable_of_iff _ Proc.runs_iff_replay.symm

/-! ## Disciplines on traces -/

section

variable {ρ ω : Type} {D : Discipline Ans ρ}

/-- The role a trace leads to. -/
def Discipline.after (D : Discipline Ans ρ) (r : ρ) (t : Trace Ans) : ρ :=
  t.foldl (fun r d => D.next r d.1 d.2) r

variable {Q : α → ρ → Prop} {r : ρ}

/-- **What a program keeps whatever it is answered holds of all its runs.** -/
theorem Proc.Follows.runs {p : Proc Ans α} {a : α} (h : p.Follows D Q r) (hrun : p.Runs t a) :
    (∀ past o x rest, t = past ++ ⟨o, x⟩ :: rest → D.may (D.after r past) o) ∧
      Q a (D.after r t) := by
  induction hrun generalizing r with
  | ret a => exact ⟨fun past o x rest hnil => absurd hnil (by simp), h⟩
  | op _ ih =>
    rename_i o k x t a _
    obtain ⟨hmay, hQ⟩ := ih (h.2 x)
    refine ⟨fun past o' x' rest heq => ?_, hQ⟩
    rcases past with _ | ⟨d, past⟩
    · obtain ⟨hd, -⟩ := cons.inj heq
      cases hd
      exact h.1
    · obtain ⟨rfl, htail⟩ := cons.inj heq
      exact hmay past o' x' rest htail

/-- Some answers lead from the role to a result in `Q`. -/
def Proc.Can (D : Discipline Ans ρ) (Q : α → ρ → Prop) : Proc Ans α → ρ → Prop
  | .ret a, r => Q a r
  | .op o k, r => ∃ x, (k x).Can D Q (D.next r o x)

variable {p : Proc Ans α}

lemma Proc.Can.mono {Q' : α → ρ → Prop} (h : p.Can D Q r) (hQ : ∀ a r', Q a r' → Q' a r') :
    p.Can D Q' r := by
  induction p generalizing r with
  | ret a => exact hQ a r h
  | op o k ih =>
    obtain ⟨x, hx⟩ := h
    exact ⟨x, ih x hx⟩

lemma Proc.Can.bind {f : α → Proc Ans β} {P : α → ρ → Prop} {Q : β → ρ → Prop} (h : p.Can D P r)
    (hf : ∀ a r', P a r' → (f a).Can D Q r') : (p >>= f).Can D Q r := by
  induction p generalizing r with
  | ret a => exact hf a r h
  | op o k ih =>
    obtain ⟨x, hx⟩ := h
    exact ⟨x, ih x hx⟩

lemma Proc.Can.runs (h : p.Can D Q r) : ∃ t a, p.Runs t a ∧ Q a (D.after r t) := by
  induction p generalizing r with
  | ret a => exact ⟨[], a, .ret a, h⟩
  | op o k ih =>
    obtain ⟨x, hx⟩ := h
    obtain ⟨t, a, hrun, hQ⟩ := ih x hx
    exact ⟨⟨o, x⟩ :: t, a, .op hrun, hQ⟩

/-- The role of a call is what an observer has seen of its operations and answers. -/
def watching (see : Done Ans → Option ω) (may : List ω → Op → Prop) : Discipline Ans (List ω) where
  may := may
  next := fun seen o x => seen ++ (see ⟨o, x⟩).toList

lemma after_watching (see : Done Ans → Option ω) (may : List ω → Op → Prop) (seen : List ω)
    (t : Trace Ans) : (watching see may).after seen t = seen ++ t.filterMap see := by
  induction t generalizing seen with
  | nil => simp [Discipline.after]
  | cons d t ih =>
    have hnext := ih (seen ++ (see d).toList)
    unfold Discipline.after at hnext ⊢
    rw [foldl_cons, show (watching see may).next seen d.1 d.2 = seen ++ (see d).toList from rfl,
      hnext]
    cases hd : see d <;> simp [hd]

/-- The same rule for an observer that starts with nothing: each thing seen was seen of an operation
that was allowed after what had been seen before. -/
lemma Proc.Follows.seen {see : Done Ans → Option ω} {may : List ω → Op → Prop}
    {Q : α → List ω → Prop} {a : α} (h : p.Follows (watching see may) Q []) (hrun : p.Runs t a) :
    Q a (t.filterMap see) ∧ ∀ past e rest, t.filterMap see = past ++ e :: rest →
      ∃ o x, see ⟨o, x⟩ = some e ∧ may past o := by
  obtain ⟨hmay, hQ⟩ := h.runs hrun
  rw [after_watching, nil_append] at hQ
  refine ⟨hQ, fun past e rest heq => ?_⟩
  obtain ⟨t₁, t₂, rfl, rfl, hrest⟩ := filterMap_eq_append_iff.mp heq
  obtain ⟨quiet, d, t₃, rfl, hquiet, hd, -⟩ := filterMap_eq_cons_iff.mp hrest
  refine ⟨d.1, d.2, hd, ?_⟩
  have hallowed := hmay (t₁ ++ quiet) d.1 d.2 t₃ (by simp)
  rw [after_watching, nil_append, filterMap_append,
    filterMap_eq_nil_iff.mpr hquiet, append_nil] at hallowed
  exact hallowed

end

/-! ## Raising -/

section

variable {ρ : Type} {D : Discipline Ans ρ} {Q : Except ε β → ρ → Prop} {r : ρ}

/-- What holds after a result: the rest of the program for a value, `Q` for an exception. -/
def Through (cont : α → ρ → Prop) (raised : ε → ρ → Prop) : Except ε α → ρ → Prop
  | .ok a, r => cont a r
  | .error e, r => raised e r

@[simp] lemma through_ok (cont : α → ρ → Prop) (raised : ε → ρ → Prop) (a : α) (r : ρ) :
    Through cont raised (.ok a) r ↔ cont a r := Iff.rfl

lemma follows_run_bind (x : ExceptT ε (Proc Ans) α) (f : α → ExceptT ε (Proc Ans) β) :
    (x >>= f).run.Follows D Q r ↔
      x.run.Follows D
        (Through (fun a r' => (f a).run.Follows D Q r') fun e r' => Q (.error e) r') r := by
  rw [show (x >>= f).run = x.run >>= ExceptT.bindCont f from rfl, follows_bind]
  refine ⟨fun h => h.mono ?_, fun h => h.mono ?_⟩ <;>
  · rintro (e | a) r' hr'
    · exact hr'
    · exact hr'

/-- What `try` does with a result. -/
def caught (handle : ε → ExceptT ε (Proc Ans) β) : Except ε β → Proc Ans (Except ε β)
  | .ok b => .ret (.ok b)
  | .error e => (handle e).run

lemma run_eq_bind_caught (x : ExceptT ε (Proc Ans) β) (handle : ε → ExceptT ε (Proc Ans) β) :
    (tryCatch x handle).run = x.run >>= caught handle := by
  refine congrArg (Proc.bind x.run) (funext fun res => ?_)
  cases res <;> rfl

lemma follows_run_tryCatch (x : ExceptT ε (Proc Ans) β) (handle : ε → ExceptT ε (Proc Ans) β) :
    (tryCatch x handle).run.Follows D Q r ↔
      x.run.Follows D (Through (fun a r' => Q (.ok a) r') fun e r' =>
        (handle e).run.Follows D Q r') r := by
  rw [run_eq_bind_caught, follows_bind]
  refine ⟨fun h => h.mono ?_, fun h => h.mono ?_⟩ <;>
  · rintro (e | a) r' hr'
    · exact hr'
    · exact hr'

lemma Proc.Can.run_bind {x : ExceptT ε (Proc Ans) α} {f : α → ExceptT ε (Proc Ans) β}
    (h : x.run.Can D (Through (fun a r' => (f a).run.Can D Q r') fun e r' => Q (.error e) r') r) :
    (x >>= f).run.Can D Q r := by
  refine Proc.Can.bind (f := ExceptT.bindCont f) h ?_
  rintro (e | a) r' hr'
  · exact hr'
  · exact hr'

lemma Proc.Can.run_tryCatch {x : ExceptT ε (Proc Ans) β} {handle : ε → ExceptT ε (Proc Ans) β}
    (h : x.run.Can D (Through (fun a r' => Q (.ok a) r') fun e r' => (handle e).run.Can D Q r') r) :
    (tryCatch x handle).run.Can D Q r := by
  refine h.bind ?_
  rintro (e | a) r' hr'
  · exact hr'
  · exact hr'

end

end Homelab.Lib
