import Homelab.Noded.Stateful

/-!
# The generation ledger

A workload's ledger under the calls that advance it: `attachGeneration`, the recording of a
checkpoint abort, and the creation of the volume, with leases delivered in between. The calls come
one after the other, and each file operation of each may fail.

A number is issued once because every advance goes strictly up, whatever the lease says: the lease
only proposes a number, and `RecordBlessed` or the self-bump decides. The blessed marker is written
after the ledger and never ahead of it, so the two agree only right after a `RecordBlessed` that
came to its end.
-/

namespace Homelab.Noded

open Homelab.Lib

/-! ## Calls on the ledger -/

inductive LedgerCall where
  | create (sizeBytes : Nat)
  | attachGeneration (blessedGeneration : Nat) (activatorOrigin : Bool)
  | recordAbortGeneration (blessedGeneration : Nat)
  | applyBlessingLease (lease : BlessingLease)
  deriving DecidableEq, Repr

/-- What a call answers: the generation it has issued. -/
def LedgerCall.body : LedgerCall → StatefulProg (Option Nat)
  | .create sizeBytes => do
    let _ ← Stateful.perform (.create sizeBytes)
    pure none
  | .attachGeneration blessedGeneration activatorOrigin => do
    match ← Stateful.attachGeneration blessedGeneration activatorOrigin with
    | .ok gen => pure (some gen)
    | .error _ => pure none
  | .recordAbortGeneration blessedGeneration => Stateful.recordAbortGeneration blessedGeneration
  | .applyBlessingLease lease => do
    Stateful.perform (.applyBlessingLease lease)
    pure none

/-- What has moved the ledger. -/
inductive Advance where
  | created
  | selfBump
  /-- A `RecordBlessed`, and whether it has written the marker too. -/
  | recordBlessed (completed : Bool)
  deriving DecidableEq, Repr

def Advance.of : (o : StatefulOp) → o.Ans → Advance
  | .recordBlessed _, x => .recordBlessed x.isSome
  | .bumpGeneration, _ => .selfBump
  | _, _ => .created

/-- A node and the last advance of its ledger. -/
structure Witnessed where
  node : StatefulNode
  last : Option Advance

namespace Witnessed

/-- The ledger's value. -/
def ledger (w : Witnessed) : Option Nat := w.node.volume.dir.gen

/-- An operation, with a note of it when it moves the ledger. -/
def exec (o : StatefulOp) (io : StatefulIo) (w : Witnessed) : o.Ans × Witnessed :=
  let (x, node) := w.node.exec 0 o io
  (x, ⟨node, if node.volume.dir.gen = w.ledger then w.last else some (Advance.of o x)⟩)

/-- `uint64` has room for the next number. -/
def Room (w : Witnessed) (_ : StatefulOp) (_ : StatefulIo) : Prop :=
  ∀ gen ∈ w.ledger, gen < 2 ^ 64 - 1

instance (w : Witnessed) (o : StatefulOp) (io : StatefulIo) : Decidable (w.Room o io) :=
  inferInstanceAs (Decidable (∀ gen ∈ w.ledger, _))

end Witnessed

instance : Inhabited StatefulIo := ⟨{}⟩

/-- The ledger, with the generations issued so far in order. -/
structure LedgerState where
  witnessed : Witnessed
  issued : List Nat

/-- A call, and what its operations find. -/
structure LedgerEvent where
  call : LedgerCall
  ios : List StatefulIo := []

namespace LedgerState

def step (s : LedgerState) (e : LedgerEvent) : LedgerState :=
  let (x, w) := e.call.body.eval Witnessed.exec e.ios s.witnessed
  ⟨w, s.issued ++ x.toList⟩

/-- Every operation of the call finds room in `uint64`. -/
def Room (s : LedgerState) (e : LedgerEvent) : Prop :=
  e.call.body.Along Witnessed.exec Witnessed.Room e.ios s.witnessed

instance (s : LedgerState) (e : LedgerEvent) : Decidable (s.Room e) :=
  inferInstanceAs (Decidable (Proc.Along ..))

/-- A node that has never had the workload's volume. -/
def Fresh (s : LedgerState) : Prop :=
  s.witnessed.node.volume.dir.vol = none ∧ s.witnessed.ledger = none ∧
    s.witnessed.node.volume.dir.genblessed = none ∧ s.witnessed.last = none ∧ s.issued = []

end LedgerState

/-! ## What the marker tells -/

/-- The files of a workload tell the truth about its ledger: there is no ledger before the volume,
the marker is not ahead of the ledger, and it is level with it exactly after a `RecordBlessed` that
completed. -/
structure Told (dir : VolumeDir) (last : Option Advance) : Prop where
  absent : dir.vol = none → dir.gen = none
  marker : ∀ blessed, dir.genblessed = some blessed → ∃ gen, dir.gen = some gen ∧ blessed ≤ gen
  truth : (∃ gen, dir.gen = some gen ∧ dir.genblessed = some gen) ↔
    last = some (.recordBlessed true)

namespace Told

variable {dir : VolumeDir} {last : Option Advance}

/-- The volume file is written to, or a lease is. -/
lemma keep (h : Told dir last) {vol : Option VolImg} (hvol : vol = none → dir.vol = none)
    (lease : Option BlessingLease) : Told ⟨vol, dir.gen, dir.genblessed, lease⟩ last where
  absent hv := h.absent (hvol hv)
  marker := h.marker
  truth := h.truth

/-- The ledger moves up without the marker. -/
lemma setGen (h : Told dir last) {cur gen : Nat} (hcur : dir.gen = some cur) (hlt : cur < gen)
    {advance : Advance} (hadvance : advance ≠ .recordBlessed true) :
    Told { dir with gen := some gen } (some advance) where
  absent hv := by
    rw [h.absent hv] at hcur
    cases hcur
  marker blessed hb := by
    obtain ⟨g, hg, hle⟩ := h.marker blessed hb
    rw [hcur] at hg
    cases hg
    exact ⟨gen, rfl, Nat.le_trans hle (Nat.le_of_lt hlt)⟩
  truth := by
    constructor
    · rintro ⟨g, hg, hb⟩
      cases hg
      -- the marker was not ahead of the ledger, so it is behind it now
      obtain ⟨g, hg, hle⟩ := h.marker gen hb
      rw [hcur] at hg
      cases hg
      omega
    · intro heq
      exact absurd (Option.some.inj heq) hadvance

/-- The ledger and the marker move up together. -/
lemma recordBlessed (h : Told dir last) {cur : Nat} (hcur : dir.gen = some cur) (gen : Nat) :
    Told { dir with gen := some gen, genblessed := some gen } (some (.recordBlessed true)) where
  absent hv := by
    rw [h.absent hv] at hcur
    cases hcur
  marker blessed hb := by
    cases hb
    exact ⟨gen, rfl, Nat.le_refl _⟩
  truth := ⟨fun _ => rfl, fun _ => ⟨gen, rfl, rfl⟩⟩

lemma create (h : Told dir last) (hvol : dir.vol = none) (img : VolImg) :
    Told { dir with vol := some img, gen := some 0 } (some .created) := by
  have hgen := h.absent hvol
  have hmarker : dir.genblessed = none := by
    rcases hb : dir.genblessed with _ | blessed
    · rfl
    · obtain ⟨gen, hg, -⟩ := h.marker blessed hb
      rw [hgen] at hg
      cases hg
  refine ⟨nofun, ?_, ?_⟩
  · intro blessed hb
    rw [hmarker] at hb
    cases hb
  · constructor
    · rintro ⟨gen, -, hb⟩
      rw [hmarker] at hb
      cases hb
    · nofun

/-- What `GenerationBlessed` answers. -/
lemma generationBlessed_iff {m : Volume} (h : Told m.dir last) :
    m.generationBlessed {} = true ↔ last = some (.recordBlessed true) := by
  rw [← h.truth, Volume.generationBlessed, Volume.generation, if_pos rfl]
  rcases m.dir.gen with _ | gen
  · simp
  · rcases m.dir.genblessed with _ | blessed
    · simp
    · simp

end Told

/-! ## One operation -/

/-- The operations of the calls on the ledger. -/
def StatefulOp.onLedger : StatefulOp → Bool
  | .check _ | .create _ | .recordBlessed _ | .bumpGeneration | .consumeGenerationFromLease
  | .applyBlessingLease _ => true
  | _ => false

/-- The generation that the last operation has issued. -/
def issuedBy : (o : StatefulOp) → o.Ans → Option Nat
  | .recordBlessed _, x => x
  | .bumpGeneration, x => x
  | _, _ => none

/-- The role of a call on the ledger is the generation it has issued. -/
abbrev ledgerDiscipline : Discipline StatefulOp.Ans (Option Nat) :=
  ⟨fun _ o => o.onLedger = true, fun _ o x => issuedBy o x⟩

/-- A call that has found the ledger at `before`: the ledger is not below it, and a generation that
is issued is the ledger's value and above it. -/
structure Level (before : Option Nat) (w : Witnessed) (issued : Option Nat) : Prop where
  told : Told w.node.volume.dir w.last
  above : ∀ b, before = some b → ∃ gen, w.ledger = some gen ∧ b ≤ gen
  issued : ∀ gen, issued = some gen → w.ledger = some gen ∧ ∀ b, before = some b → b < gen

namespace Level

variable {before : Option Nat} {w : Witnessed} {r : Option Nat} {o : StatefulOp} {io : StatefulIo}
  {node : StatefulNode}

/-- What guests write is not in the ledger. -/
lemma observe {last : Option Advance} (h : Level before ⟨node, last⟩ r) :
    Level before ⟨node.observe, last⟩ r := by
  unfold StatefulNode.observe
  split
  · refine ⟨h.told.keep (fun hv => ?_) _, h.above, h.issued⟩
    exact Option.map_eq_none_iff.mp hv
  · exact h

/-- An operation, and what is noted of it. -/
lemma of_apply {x : o.Ans} (happly : w.node.apply 0 o io = (x, node)) {last : Option Advance}
    (hlast : (if node.volume.dir.gen = w.ledger then w.last else some (Advance.of o x)) = last)
    (h : Level before ⟨node, last⟩ (issuedBy o x)) :
    Level before (w.exec o io).2 (issuedBy o (w.exec o io).1) := by
  have hexec : w.exec o io = (x, ⟨node.observe, last⟩) := by
    unfold Witnessed.exec StatefulNode.exec
    rw [happly]
    dsimp only
    rw [StatefulNode.observe_gen, hlast]
  rw [hexec]
  exact h.observe

variable (h : Level before w r)
include h

/-- An operation that leaves the ledger and the marker as they are. -/
lemma same {x : o.Ans} (happly : w.node.apply 0 o io = (x, node))
    (hissued : issuedBy o x = none) {lease : Option BlessingLease}
    (hdir : node.volume.dir = { w.node.volume.dir with blessingLease := lease }) :
    Level before (w.exec o io).2 (issuedBy o (w.exec o io).1) := by
  have hgen : node.volume.dir.gen = w.ledger := by
    rw [hdir]
    rfl
  refine of_apply happly (if_pos hgen) ⟨?_, ?_, ?_⟩
  · rw [hdir]
    exact h.told.keep id lease
  · intro b hb
    obtain ⟨gen, hg, hle⟩ := h.above b hb
    exact ⟨gen, hgen.trans hg, hle⟩
  · intro gen hg
    rw [hissued] at hg
    cases hg

/-- An operation that moves the ledger up. -/
lemma moved {x : o.Ans} {cur gen : Nat} (happly : w.node.apply 0 o io = (x, node))
    (hissued : issuedBy o x = none ∨ issuedBy o x = some gen) (hcur : w.ledger = some cur)
    (hlt : cur < gen) (hgen : node.volume.dir.gen = some gen)
    (htold : Told node.volume.dir (some (Advance.of o x))) :
    Level before (w.exec o io).2 (issuedBy o (w.exec o io).1) := by
  have hne : node.volume.dir.gen ≠ w.ledger := by
    rw [hgen, hcur]
    intro heq
    cases heq
    exact Nat.lt_irrefl _ hlt
  have hbefore : ∀ b, before = some b → b < gen := by
    intro b hb
    obtain ⟨g, hg, hle⟩ := h.above b hb
    rw [hcur] at hg
    cases hg
    exact Nat.lt_of_le_of_lt hle hlt
  refine of_apply happly (if_neg hne) ⟨htold, ?_, ?_⟩
  · exact fun b hb => ⟨gen, hgen, Nat.le_of_lt (hbefore b hb)⟩
  · intro g hg
    rcases hissued with hnone | hsome
    · rw [hnone] at hg
      cases hg
    · rw [hsome] at hg
      cases hg
      exact ⟨hgen, hbefore⟩

lemma recordBlessed (gen : Nat) (io : StatefulIo) : Level before (w.exec (.recordBlessed gen) io).2
      (issuedBy (.recordBlessed gen) (w.exec (.recordBlessed gen) io).1) := by
  rcases w.node.volume.recordBlessed_cases io.file gen with hrec | ⟨cur, hcur, hlt, hrec | hrec⟩
  · exact h.same (by rw [StatefulNode.apply, hrec]) rfl rfl
  · exact h.moved (by rw [StatefulNode.apply, hrec]) (.inl rfl) hcur hlt rfl
      (h.told.setGen hcur hlt (show Advance.recordBlessed false ≠ _ by decide))
  · exact h.moved (by rw [StatefulNode.apply, hrec]) (.inr rfl) hcur hlt rfl
      (h.told.recordBlessed hcur gen)

lemma bumpGeneration (hroom : w.Room .bumpGeneration io) :
    Level before (w.exec .bumpGeneration io).2
      (issuedBy .bumpGeneration (w.exec .bumpGeneration io).1) := by
  rcases w.node.volume.bumpGeneration_cases io.file with hbump | ⟨cur, hcur, hbump⟩
  · exact h.same (by rw [StatefulNode.apply, hbump]) rfl rfl
  · have hnext : uint64 (cur + 1) = cur + 1 := by
      have := hroom cur hcur
      unfold uint64
      omega
    rw [hnext] at hbump
    exact h.moved (by rw [StatefulNode.apply, hbump]) (.inr rfl) hcur (Nat.lt_succ_self cur) rfl
      (h.told.setGen hcur (Nat.lt_succ_self cur) (show Advance.selfBump ≠ _ by decide))

lemma create (sizeBytes : Nat) (io : StatefulIo) : Level before (w.exec (.create sizeBytes) io).2
      (issuedBy (.create sizeBytes) (w.exec (.create sizeBytes) io).1) := by
  rcases w.node.volume.create_cases io.file sizeBytes with ⟨x, hcreate⟩ | ⟨hvol, hcreate⟩
  · exact h.same (by rw [StatefulNode.apply, hcreate]) rfl rfl
  · have hnone : w.ledger = none := h.told.absent hvol
    refine of_apply (by rw [StatefulNode.apply, hcreate]) (if_neg ?_)
      ⟨h.told.create hvol _, ?_, nofun⟩
    · rw [hnone]
      nofun
    · intro b hb
      obtain ⟨gen, hg, -⟩ := h.above b hb
      rw [hnone] at hg
      cases hg

/-- Every operation of a call on the ledger. -/
lemma step (hmay : o.onLedger = true) (hroom : w.Room o io) :
    Level before (w.exec o io).2 (issuedBy o (w.exec o io).1) := by
  cases o with
  | check c => exact h.same rfl rfl rfl
  | create sizeBytes => exact h.create sizeBytes io
  | recordBlessed gen => exact h.recordBlessed gen io
  | bumpGeneration => exact h.bumpGeneration hroom
  | consumeGenerationFromLease =>
    obtain ⟨lease, hlease⟩ := w.node.volume.consumeGenerationFromLease_dir 1 io.file
    have happly : w.node.apply 0 .consumeGenerationFromLease io =
        ((w.node.volume.consumeGenerationFromLease 1 io.file).1,
          { w.node with volume := (w.node.volume.consumeGenerationFromLease 1 io.file).2 }) := rfl
    have hdir := congrArg Volume.dir hlease
    exact h.same happly rfl hdir
  | applyBlessingLease lease =>
    obtain ⟨l, hlease⟩ := w.node.volume.applyBlessingLease_dir lease io.file
    have happly : w.node.apply 0 (.applyBlessingLease lease) io =
        ((), { w.node with volume := (w.node.volume.applyBlessingLease lease io.file).2 }) := rfl
    have hdir := congrArg Volume.dir hlease
    exact h.same happly rfl hdir
  | _ => cases hmay

end Level

/-! ## One call -/

/-- What a call answers is what it has issued. -/
def Answered (x : Option Nat) (issued : Option Nat) : Prop :=
  ∀ gen, x = some gen → issued = some gen

lemma selfBump_issues (r : Option Nat) :
    Stateful.selfBump.Follows ledgerDiscipline (fun x issued => Answered x.toOption issued) r := by
  refine ⟨rfl, ?_⟩
  rintro (_ | gen)
  · exact nofun
  · exact fun _ => id

lemma attachGeneration_issues (blessedGeneration : Nat) (activatorOrigin : Bool) (r : Option Nat) :
    (Stateful.attachGeneration blessedGeneration activatorOrigin).Follows ledgerDiscipline
      (fun x issued => Answered x.toOption issued) r := by
  unfold Stateful.attachGeneration
  split
  · refine ⟨rfl, ?_⟩
    rintro (_ | gen)
    · exact nofun
    · exact fun _ => id
  · split
    · refine ⟨rfl, ?_⟩
      rintro (_ | code)
      · refine ⟨rfl, ?_⟩
        rintro (_ | (_ | ⟨g, _⟩))
        · exact selfBump_issues _
        · exact selfBump_issues _
        · refine ⟨rfl, ?_⟩
          rintro (_ | gen)
          · exact selfBump_issues _
          · exact fun _ => id
      · exact nofun
    · exact nofun

lemma LedgerCall.body_issues (c : LedgerCall) : c.body.Follows ledgerDiscipline Answered none := by
  cases c with
  | create sizeBytes | applyBlessingLease lease => exact ⟨rfl, fun _ => nofun⟩
  | attachGeneration blessedGeneration activatorOrigin =>
    apply (attachGeneration_issues blessedGeneration activatorOrigin none).bind
    rintro (code | gen) r hr
    · exact nofun
    · exact hr
  | recordAbortGeneration blessedGeneration =>
    change Proc.Follows _ _ (if _ then _ else _) _
    split
    · exact ⟨rfl, fun _ _ => id⟩
    · exact ⟨rfl, fun _ _ => id⟩

/-! ## Runs -/

namespace LedgerState

/-- The files tell the truth, and what has been issued is in order and not above the ledger. -/
structure Sound (s : LedgerState) : Prop where
  told : Told s.witnessed.node.volume.dir s.witnessed.last
  sorted : s.issued.Pairwise (· < ·)
  level : ∀ g ∈ s.issued, ∃ gen, s.witnessed.ledger = some gen ∧ g ≤ gen

/-- The ledger of `s` is not below that of `s₀`. -/
def NotBelow (s₀ s : LedgerState) : Prop :=
  ∀ g, s₀.witnessed.ledger = some g → ∃ gen, s.witnessed.ledger = some gen ∧ g ≤ gen

lemma NotBelow.trans {s₁ s₂ s₃ : LedgerState} (h₁ : NotBelow s₁ s₂) (h₂ : NotBelow s₂ s₃) :
    NotBelow s₁ s₃ := by
  intro g hg
  obtain ⟨g', hg', hle⟩ := h₁ g hg
  obtain ⟨gen, hgen, hle'⟩ := h₂ g' hg'
  exact ⟨gen, hgen, Nat.le_trans hle hle'⟩

/-- One call. -/
lemma Sound.step {s : LedgerState} (h : s.Sound) {e : LedgerEvent} (hroom : s.Room e) :
    (s.step e).Sound ∧ NotBelow s (s.step e) := by
  have hstart : Level s.witnessed.ledger s.witnessed none :=
    ⟨h.told, fun b hb => ⟨b, hb, Nat.le_refl _⟩, nofun⟩
  have hstep : ∀ w r o io, Level s.witnessed.ledger w r → ledgerDiscipline.may r o → w.Room o io →
      Level s.witnessed.ledger (w.exec o io).2 (ledgerDiscipline.next r o (w.exec o io).1) :=
    fun _ _ _ _ hL => hL.step
  obtain ⟨issued, hlevel, hanswer⟩ := e.call.body_issues.eval hstep hroom hstart
  have hkept : ∀ g ∈ s.issued, ∃ gen, (s.step e).witnessed.ledger = some gen ∧ g ≤ gen := by
    intro g hg
    obtain ⟨gen, hgen, hle⟩ := h.level g hg
    obtain ⟨gen', hgen', hle'⟩ := hlevel.above gen hgen
    exact ⟨gen', hgen', Nat.le_trans hle hle'⟩
  refine ⟨⟨hlevel.told, ?_, ?_⟩, hlevel.above⟩
  · refine List.pairwise_append.mpr ⟨h.sorted, ?_, ?_⟩
    · rcases (e.call.body.eval Witnessed.exec e.ios s.witnessed).1 with _ | gen
      · exact .nil
      · exact List.pairwise_singleton ..
    · -- what is issued now is above the ledger that the call has found
      intro g hg gen hgen
      obtain ⟨cur, hcur, hle⟩ := h.level g hg
      exact Nat.lt_of_le_of_lt hle
        ((hlevel.issued gen (hanswer gen (Option.mem_toList.mp hgen))).2 cur hcur)
  · intro g hg
    rcases List.mem_append.mp hg with hold | hnew
    · exact hkept g hold
    · exact ⟨g, (hlevel.issued g (hanswer g (Option.mem_toList.mp hnew))).1, Nat.le_refl _⟩

lemma Sound.of_fresh {s : LedgerState} (h : s.Fresh) : s.Sound := by
  obtain ⟨hvol, hgen, hmarker, hlast, hissued⟩ := h
  refine ⟨⟨fun _ => hgen, ?_, ?_⟩, ?_, ?_⟩
  · intro blessed hb
    rw [hmarker] at hb
    cases hb
  · rw [hlast, hmarker]
    constructor
    · rintro ⟨gen, -, hb⟩
      cases hb
    · nofun
  · rw [hissued]
    exact .nil
  · rw [hissued]
    nofun

/-- **The ledger issues every number once and tells the truth about blessing.** For every sequence
of calls whose operations find room in `uint64`: the ledger never goes down, what is issued goes
strictly up, and `GenerationBlessed` is true exactly when a `RecordBlessed` that completed was the
last advance. -/
theorem ledger_issues_once {s : LedgerState} (hs : s.Fresh) {es : List LedgerEvent}
    (hrun : Along step Room s es) :
    (∀ m n, m ≤ n → NotBelow (run step s (es.take m)) (run step s (es.take n))) ∧
      (run step s es).issued.Pairwise (· < ·) ∧
      ((run step s es).witnessed.node.volume.generationBlessed {} = true ↔
        (run step s es).witnessed.last = some (.recordBlessed true)) := by
  have hsound : (run step s es).Sound :=
    run_induction Sound (fun _ _ h hroom => (h.step hroom).1) (.of_fresh hs) hrun
  refine ⟨?_, hsound.sorted, hsound.told.generationBlessed_iff⟩
  intro m n hmn
  exact run_progress Sound NotBelow (fun _ g hg => ⟨g, hg, Nat.le_refl _⟩)
    (fun _ _ _ => NotBelow.trans) (fun _ _ h hroom => h.step hroom) (.of_fresh hs) hrun hmn

/-- A lease is delivered twice; the second time its cursor goes back. The number it then proposes is
clamped to the ledger, and an abort without the control plane bumps the ledger. -/
def rewoundLease : List LedgerEvent :=
  [⟨.create 1, []⟩, ⟨.attachGeneration 3 false, []⟩, ⟨.applyBlessingLease ⟨4, 9⟩, []⟩,
    ⟨.attachGeneration 0 true, []⟩, ⟨.applyBlessingLease ⟨2, 10⟩, []⟩,
      ⟨.attachGeneration 0 true, []⟩,
    ⟨.recordAbortGeneration 0, []⟩]

theorem ledger_issues_once_rewound :
    (run step ⟨⟨.empty, none⟩, []⟩ rewoundLease).issued = [3, 4, 5, 6] ∧
      (run step ⟨⟨.empty, none⟩, []⟩
        rewoundLease).witnessed.node.volume.generationBlessed {} ≠ true :=
  have hrun : Along step Room ⟨⟨.empty, none⟩, []⟩ rewoundLease := by decide +kernel
  ⟨by decide +kernel, fun h => absurd
    ((ledger_issues_once ⟨rfl, rfl, rfl, rfl, rfl⟩ hrun).2.2.mp h) (by decide +kernel)⟩

end LedgerState

end Homelab.Noded
