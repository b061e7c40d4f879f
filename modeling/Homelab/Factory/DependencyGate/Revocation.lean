import Mathlib.Data.List.Induction
import Homelab.Factory.DependencyGate.Published

/-!
# What a refused tick takes back

A tick publishes on the heads of the pull requests as it read them one by one; when it refuses, it
revokes the heads of the listing and of the queue. So a success survives a refusal exactly where a
head was read that neither of them has (`Revocable`), and there some answers do leave it standing.

Inventories are taken at their word: one whose latest check run is a failure is not shown after this
tick's own success on the same head (`Truthful`).
-/

namespace Homelab.Factory.DependencyGate

open Homelab.Lib Gate List Option Proc.Can

/-! ## The last post -/

/-- The conclusion last posted on a head, with or without an answer. -/
def lastPost (seen : List Seen) (head : String) : Option Conclusion :=
  seen.foldl (fun last e =>
    match e with
    | .posted head' k => if head' = head then some k else last
    | _ => last) none

/-- Every success on a head is followed by a failure on it. -/
def TakenBack (seen : List Seen) : Prop :=
  ∀ past head rest, seen = past ++ .posted head .success :: rest → .posted head .failure ∈ rest

/-- No inventory shows a failure as its latest check run after this tick's own success, one whose
post raised included. -/
def Truthful (cfg : Config) (seen : List Seen) : Prop :=
  ∀ past head body rest, seen = past ++ .shown head body :: rest →
    ∀ appId ∈ cfg.appId, body.latestIs appId head .failure = true →
      lastPost past head ≠ some .success

variable {cfg : Config} {policy : Policy} {seen seen' new : List Seen} {head : String}
  {d : Discovery} {cs : List Candidate}

lemma lastPost_snoc (seen : List Seen) (e : Seen) (head : String) : lastPost (seen ++ [e]) head =
      match e with
      | .posted head' k => if head' = head then some k else lastPost seen head
      | _ => lastPost seen head := by
  unfold lastPost
  rw [foldl_append]
  rfl

/-- What is no post on the head leaves its last post. -/
lemma lastPost_append (h : ∀ e ∈ new, ∀ k, e ≠ .posted head k) :
    lastPost (seen ++ new) head = lastPost seen head := by
  induction new using reverseRecOn with
  | nil => simp
  | append_singleton new e ih =>
    rw [← append_assoc, lastPost_snoc, ih fun e he => h e (by simp [he])]
    split
    · rename_i head' k
      rw [if_neg]
      rintro rfl
      exact h _ (by simp) k rfl
    · rfl

lemma lastPost_eq_some {k : Conclusion} (h : lastPost seen head = some k) :
    ∃ past rest, seen = past ++ .posted head k :: rest ∧ ∀ e ∈ rest, ∀ k', e ≠ .posted head k' := by
  induction seen using reverseRecOn with
  | nil => simp [lastPost] at h
  | append_singleton seen e ih =>
    rw [lastPost_snoc] at h
    have hearlier : lastPost seen head = some k → (∀ k', e ≠ .posted head k') →
        ∃ past rest, seen ++ [e] = past ++ .posted head k :: rest ∧
          ∀ e ∈ rest, ∀ k', e ≠ .posted head k' := by
      intro hlast hne
      obtain ⟨past, rest, rfl, hrest⟩ := ih hlast
      refine ⟨past, rest ++ [e], by simp, fun e' he' => ?_⟩
      rcases mem_append.mp he' with he' | he'
      · exact hrest e' he'
      · exact mem_singleton.mp he' ▸ hne
    split at h
    · split at h
      · rename_i hhead
        subst hhead
        obtain rfl := some.inj h
        exact ⟨seen, [], rfl, by simp⟩
      · rename_i hhead
        refine hearlier h fun k'' heq => hhead ?_
        simp only [Seen.posted.injEq] at heq
        exact heq.1
    · rename_i hne
      exact hearlier h fun k' heq => hne head k' heq

/-- **A success is taken back on every head exactly when no last post is one.** -/
theorem takenBack_iff : TakenBack seen ↔ ∀ head, lastPost seen head ≠ some .success := by
  constructor
  · intro h head hlast
    obtain ⟨past, rest, heq, hrest⟩ := lastPost_eq_some hlast
    exact hrest _ (h past head rest heq) .failure rfl
  · rintro h past head rest rfl
    by_contra hnone
    have hsuccess : ∀ new : List Seen, .posted head .failure ∉ new →
        lastPost (past ++ .posted head .success :: new) head = some .success := by
      intro new
      induction new using reverseRecOn with
      | nil =>
        intro _
        rw [lastPost_snoc]
        simp
      | append_singleton new e ih =>
        intro hnew
        rw [mem_append, not_or] at hnew
        rw [← cons_append, ← append_assoc, lastPost_snoc, ih hnew.1]
        split
        · rename_i head' k
          split
          · rename_i hhead
            subst hhead
            cases k with
            | success => rfl
            | failure => exact absurd (mem_singleton.mpr rfl) hnew.2
          · rfl
        · rfl
    exact h head (hsuccess rest hnone)

lemma Truthful.of_append (h : Truthful cfg (seen ++ new)) : Truthful cfg seen := by
  rintro past head body rest rfl
  exact h past head body (rest ++ new) (by simp)

/-! ## Publication of all targets -/

/-- All that has come in is about heads of the targets. -/
def Spreads (cfg : Config) (policy : Policy) (targets : Targets) (seen seen' : List Seen) : Prop :=
  ∃ new, seen' = seen ++ new ∧
    ∀ e ∈ new, ∃ head ∈ targets.map Prod.fst, e.About cfg policy head

lemma publishTargets_follows {targets : Targets} (h : Untouched targets seen)
    (failed : Option String) :
    (publishTargets cfg policy targets failed).run.Follows watch
      (fun _ seen' => Spreads cfg policy targets seen seen') seen := by
  induction targets generalizing seen failed with
  | nil => exact ⟨[], by simp, by simp⟩
  | cons target targets ih =>
    obtain ⟨head, cs⟩ := target
    have hspread : ∀ {seen'}, Grows cfg policy head seen seen' →
        Spreads cfg policy ((head, cs) :: targets) seen seen' := by
      rintro seen' ⟨new, rfl, hnew⟩
      exact ⟨new, rfl, fun e he => ⟨head, by simp, hnew e he⟩⟩
    -- the rest of the loop, from what this target has left behind
    have hrest : ∀ {seen'} failed', Grows cfg policy head seen seen' →
        (publishTargets cfg policy targets failed').run.Follows watch
          (fun _ seen'' => Spreads cfg policy ((head, cs) :: targets) seen seen'') seen' := by
      intro seen' failed' hgrows
      refine (ih (h.tail hgrows) failed').mono ?_
      rintro _ _ ⟨new', rfl, hnew'⟩
      obtain ⟨new, rfl, hnew⟩ := hgrows
      refine ⟨new ++ new', by simp, fun e he => ?_⟩
      rcases mem_append.mp he with he | he
      · exact ⟨head, by simp, hnew e he⟩
      · obtain ⟨head', hmem, habout⟩ := hnew' e he
        exact ⟨head', mem_cons_of_mem _ hmem, habout⟩
    unfold publishTargets
    rw [follows_run_bind]
    unfold Gate.onFailure
    rw [follows_run_tryCatch, follows_run_bind]
    refine (publishTarget_follows h).mono ?_
    rintro (e | _) seen' hgrows
    · cases e with
      | failure type =>
        exact (unseen_safeAudit _).then (fun _ => hspread hgrows) fun _ => hrest _ hgrows
      | other => exact hspread hgrows
    · exact hrest _ hgrows

/-! ## Revocation -/

/-- What a revocation of the heads leaves: a success that stands was there, on another head. -/
def Swept (cfg : Config) (heads : List (Option String)) (seen seen' : List Seen) : Prop :=
  Truthful cfg seen' → ∀ head, lastPost seen' head = some .success →
    lastPost seen head = some .success ∧ some head ∉ heads

/-- What has come in since has swept the heads. -/
def Sweeps (cfg : Config) (heads : List (Option String)) (seen seen' : List Seen) : Prop :=
  ∃ new, seen' = seen ++ new ∧ Swept cfg heads seen (seen ++ new)

/-- A failure published on a head, or found superfluous there, leaves no success on it. -/
lemma Publication.swept {a : Except Exn Unit} (h : Publication cfg head .failure a new)
    (ha : a ≠ .error .other) : Swept cfg [some head] seen (seen ++ new) := by
  intro htruth head' hlast
  -- an inventory is no post
  have hasked : ∀ {matching new}, Asked cfg head .failure matching new →
      lastPost (seen ++ new) head' = lastPost seen head' := by
    intro matching new hnew
    refine lastPost_append fun e he k heq => ?_
    obtain ⟨body, hbody⟩ := hnew.about e he
    rw [hbody] at heq
    simp at heq
  cases h with
  | superfluous hshown =>
    rw [hasked hshown] at hlast
    refine ⟨hlast, fun hmem => ?_⟩
    obtain rfl : head' = head := by simpa using hmem
    rcases hshown with ⟨hfalse, -⟩ | ⟨body, rfl, hlatest⟩
    · simp at hfalse
    · obtain ⟨appId, hid, hlatest⟩ := hlatest rfl
      exact htruth seen head' body [] rfl appId hid hlatest hlast
  | posted hnew hk =>
    rename_i matching new k'
    obtain rfl : k' = .failure := by
      rcases hk with hk | hk <;> exact hk
    rw [← append_assoc, lastPost_snoc] at hlast
    dsimp only at hlast
    split at hlast
    · simp at hlast
    · rename_i hne
      rw [hasked hnew] at hlast
      exact ⟨hlast, fun hmem => hne (some.inj (mem_singleton.mp hmem)).symm⟩
  | stopped => exact absurd rfl ha

lemma Swept.trans {heads heads' : List (Option String)} {new' : List Seen}
    (h : Swept cfg heads seen (seen ++ new))
    (h' : Swept cfg heads' (seen ++ new) (seen ++ new ++ new')) :
    Swept cfg (heads ++ heads') seen (seen ++ new ++ new') := by
  intro htruth head hlast
  obtain ⟨hmid, hnot'⟩ := h' htruth head hlast
  obtain ⟨hold, hnot⟩ := h htruth.of_append head hmid
  exact ⟨hold, fun hmem => (mem_append.mp hmem).elim hnot hnot'⟩

/-- One head: it is swept, or an exception that is no failure passes. -/
lemma revoke_follows (head : Option String) : (revoke cfg head).run.Follows watch
      (Through (fun _ => Sweeps cfg [head] seen) fun _ _ => True) seen := by
  have haudit {seen'} (type) (h : Sweeps cfg [head] seen seen') :
      (safeAudit (.skipped "failure_publication_unavailable" type)).run.Follows watch
        (Through (fun _ => Sweeps cfg [head] seen) fun _ _ => True) seen' := by
    refine (unseen_safeAudit _ seen').mono ?_
    rintro (e | _) _ rfl
    · trivial
    · exact h
  unfold revoke Gate.onFailure
  rw [follows_run_tryCatch]
  rcases head with _ | head
  · refine haudit "KeyError" ⟨[], by simp, ?_⟩
    rw [append_nil]
    exact fun _ head hlast => ⟨hlast, by simp⟩
  · change (publish cfg head .failure "gate discovery unavailable" none).run.Follows watch _ seen
    refine (publish_follows (fun h => absurd h (by simp)) _ _).mono ?_
    rintro (e | _) _ ⟨new, rfl, hpub⟩
    · cases e with
      | failure type => exact haudit type ⟨new, rfl, hpub.swept (by simp)⟩
      | other => trivial
    · exact ⟨new, rfl, hpub.swept (by simp)⟩

lemma revokeAll_follows (heads : List (Option String)) : (revokeAll cfg heads).run.Follows watch
      (Through (fun _ => Sweeps cfg heads seen) fun _ _ => True) seen := by
  induction heads generalizing seen with
  | nil => exact ⟨[], by simp, fun _ head hlast => ⟨by simpa using hlast, by simp⟩⟩
  | cons head heads ih =>
    unfold revokeAll
    rw [follows_run_bind]
    refine (revoke_follows head).mono ?_
    rintro (e | _) _ hfirst
    · trivial
    · obtain ⟨new, rfl, hfirst⟩ := hfirst
      refine ih.mono ?_
      rintro (e | _) _ hrest
      · trivial
      · obtain ⟨new', rfl, hrest⟩ := hrest
        exact ⟨new ++ new', by simp, by simpa using hfirst.trans hrest⟩

/-- The heads a refused tick revokes. -/
def knownHeads (rows : List Pull) (entries : List Entry) : List (Option String) :=
  rows.map (·.headSha) ++ entries.map fun e => some e.headOid

lemma refuse_follows (rows : List Pull) (entries : List Entry) (type : String) :
    (refuse cfg rows entries type).run.Follows watch
      (Through (fun _ => Sweeps cfg (knownHeads rows entries) seen) fun _ _ => True) seen := by
  refine (unseen_safeAudit _).then (fun _ => trivial) fun _ => ?_
  rw [follows_run_bind]
  refine (revokeAll_follows _).mono ?_
  rintro (e | _) _ h
  · trivial
  · exact h

/-! ## The tick -/

/-- The heads a tick knows of when it refuses, and its targets. -/
def Discovery.known : Discovery → List (Option String)
  | .complete rows entries _ => knownHeads rows entries
  | .lost rows entries _ => knownHeads rows entries

def Discovery.targets : Discovery → Targets
  | .complete _ _ targets => targets
  | .lost _ _ _ => []

/-- Every head that was read is listed or queued, or has a pull request on it that cannot pass. -/
def Revocable (cfg : Config) (policy : Policy) (d : Discovery) : Prop :=
  ∀ head cs, (head, cs) ∈ d.targets → some head ∈ d.known ∨
    ∃ c ∈ cs, c.queued = none ∧ checkable cfg policy c.pull = false

lemma Discovered.onlyFound (h : Discovered (.ok d) seen) : OnlyFound seen := by
  cases d with
  | complete rows entries targets => exact h.only
  | lost rows entries type => exact h

/-- After discovery: a refused tick has published on its targets, and then swept what it knows. -/
lemma conclude_follows (h : Discovered (.ok d) seen) : (conclude cfg policy d).run.Follows watch
      (fun a seen' => a = .ok .refused →
        ∃ mid, Spreads cfg policy d.targets seen mid ∧ Sweeps cfg d.known mid seen') seen := by
  have hrefuse : ∀ {mid rows entries} type, Spreads cfg policy d.targets seen mid →
      d.known = knownHeads rows entries →
      (refuse cfg rows entries type).run.Follows watch
        (fun a seen' => a = .ok .refused →
          ∃ mid, Spreads cfg policy d.targets seen mid ∧ Sweeps cfg d.known mid seen') mid := by
    intro mid rows entries type hmid hknown
    refine (refuse_follows rows entries type).mono ?_
    rintro (e | res) _ hswept hres
    · simp at hres
    · exact ⟨mid, hmid, hknown ▸ hswept⟩
  cases d with
  | lost rows entries type =>
    exact hrefuse type ⟨[], by simp, by simp⟩ rfl
  | complete rows entries targets =>
    unfold conclude
    rw [follows_run_bind]
    have hcollected : Collected entries targets seen := h
    refine (publishTargets_follows hcollected.untouched none).mono ?_
    rintro (e | failed) mid hmid
    · exact fun hres => absurd hres (by simp)
    · rcases failed with _ | type
      · exact fun hres => absurd hres (by simp)
      · exact hrefuse type hmid rfl

lemma tick_follows : (tick cfg policy).run.Follows watch (fun _ _ => True) [] := by
  unfold tick
  split
  · trivial
  · split
    · trivial
    · rw [follows_run_bind]
      refine (discover_follows policy).mono ?_
      rintro (e | d) seen hd
      · trivial
      · exact (conclude_follows hd).mono fun _ _ _ => trivial

/-- **What passed.** In every run, when a success is posted, everything found on its head has
passed. -/
theorem posted_passed {t : Trace Ans} {res : Except Exn TickResult}
    (hrun : (tick cfg policy).run.Runs t res) {past rest : List Seen}
    (heq : t.filterMap see = past ++ .posted head .success :: rest) : AllPassed past head := by
  obtain ⟨-, hmay⟩ := tick_follows.seen hrun
  obtain ⟨o, x, hsee, hallowed⟩ := hmay past _ rest heq
  cases o with
  | post head' k reason =>
    obtain ⟨rfl, rfl⟩ : head' = head ∧ k = .success := by
      simpa [see] using hsee
    exact hallowed
  | note n => cases n <;> simp [see] at hsee
  | inventory head' => rcases x with e | body <;> simp [see] at hsee
  | page | queue | pull | evidence | clock | audit => simp [see] at hsee

/-- A success on a head that discovery read was posted after discovery, when all that was found on
the head had been concluded. -/
lemma concluded_of_posted (hd : Discovered (.ok d) seen) {past rest : List Seen} {c : Candidate}
    (heq : seen ++ new = past ++ .posted head .success :: rest) (hpassed : AllPassed past head)
    (hfound : .found head c ∈ seen) : .concluded head c .success ∈ new := by
  have hnot : ∀ e ∈ seen, (∀ head c, e ≠ .found head c) → False := by
    intro e he hne
    obtain ⟨head', c', rfl⟩ := hd.onlyFound e he
    exact hne head' c' rfl
  rcases append_eq_append_iff.mp heq with ⟨mid, rfl, rfl⟩ | ⟨mid, rfl, hmid⟩
  · rcases mem_append.mp (hpassed.1 c (mem_append_left _ hfound)) with h | h
    · exact (hnot _ h (by simp)).elim
    · exact mem_append_left _ h
  · -- the post would have been made during discovery, or right at its end
    rcases mid with _ | ⟨e, mid⟩
    · rw [append_nil] at hfound hnot
      exact (hnot _ (hpassed.1 c hfound) (by simp)).elim
    · obtain ⟨rfl, -⟩ := cons.inj hmid
      exact (hnot (.posted head .success) (by simp) (by simp)).elim

/-- **What is taken back.** After a discovery whose heads are all revocable, a refusal takes every
success back. -/
theorem takenBack_of_revocable {t₀ t : Trace Ans}
    (hon : tick cfg policy = discover policy >>= conclude cfg policy)
    (hd : (discover policy).run.Runs t₀ (.ok d)) (hrev : Revocable cfg policy d)
    (hrun : (tick cfg policy).run.Runs (t₀ ++ t) (.ok .refused))
    (htruth : Truthful cfg ((t₀ ++ t).filterMap see)) : TakenBack ((t₀ ++ t).filterMap see) := by
  have hfound : Discovered (.ok d) (t₀.filterMap see) := ((discover_follows policy).seen hd).1
  -- the part of the run after discovery
  have hrest : (conclude cfg policy d).run.Runs t (.ok .refused) := by
    have hbind := hrun
    rw [hon] at hbind
    obtain ⟨t₁, t₂, a, heq, ha, hcont⟩ := Proc.runs_bind.mp hbind
    obtain ⟨rfl, rfl⟩ := ha.unique hd heq.symm
    rw [append_cancel_left heq]
    exact hcont
  obtain ⟨-, hafter⟩ := (conclude_follows hfound).runs hrest
  rw [after_watching] at hafter
  obtain ⟨mid, ⟨spread, rfl, habout⟩, new, hseen, hswept⟩ := hafter rfl
  rw [takenBack_iff]
  intro head hlast
  rw [filterMap_append] at htruth hlast
  rw [hseen] at htruth hlast
  obtain ⟨hmid, hunknown⟩ := hswept htruth head hlast
  obtain ⟨past, rest, heq, -⟩ := lastPost_eq_some hmid
  have hpassed : AllPassed past head := by
    have hall : (t₀ ++ t).filterMap see = past ++ .posted head .success :: (rest ++ new) := by
      rw [filterMap_append, hseen, heq]
      simp
    exact posted_passed hrun hall
  -- the head is one of the targets, and one of its candidates could not have passed
  have hposted : .posted head .success ∈ spread := by
    have hmem : .posted head .success ∈ t₀.filterMap see ++ spread := heq ▸ (by simp)
    refine (mem_append.mp hmem).resolve_left fun h => ?_
    obtain ⟨head', c, he⟩ := hfound.onlyFound _ h
    simp at he
  obtain ⟨head', hkey, rfl⟩ := habout _ hposted
  obtain ⟨⟨head, cs⟩, hcs, rfl⟩ := mem_map.mp hkey
  obtain ⟨c, hc, hqueued, hcheck⟩ := (hrev head cs hcs).resolve_left hunknown
  have hc₀ : .found head c ∈ t₀.filterMap see := by
    cases d with
    | complete rows entries targets => exact (hfound.found head c).mpr ⟨cs, hcs, hc⟩
    | lost rows entries type => simp [Discovery.targets] at hcs
  obtain ⟨head', -, -, hpass⟩ := habout _ (concluded_of_posted hfound heq hpassed hc₀)
  rw [hpass rfl hqueued] at hcheck
  simp at hcheck

/-! ## Answers that leave a success standing

All that is needed are answers under which everything else fails: reads are refused, posts and
audits answered, no inventory is shown. -/

variable {α β : Type}

/-- Nothing that concerns the head, and no inventory. -/
def Harmless (head : String) (new : List Seen) : Prop :=
  ∀ e ∈ new, (∀ k, e ≠ .posted head k) ∧ ∀ head' body, e ≠ .shown head' body

/-- Some answers end the program with a result in `P`, and do nothing about the head. -/
def Ends (head : String) (P : Except Exn α → Prop) (x : Gate α) : Prop :=
  ∀ seen, x.run.Can watch (fun a seen' => P a ∧ ∃ new, seen' = seen ++ new ∧ Harmless head new) seen

/-- With a value or a failure. -/
def Calm (head : String) (x : Gate α) : Prop := Ends head (fun a => a ≠ .error .other) x

/-- With a value. -/
def Returns (head : String) (x : Gate α) : Prop := Ends head (fun a => ∃ v, a = .ok v) x

lemma harmless_nil : Harmless head [] := fun _ h => absurd h (by simp)

lemma Harmless.append {new' : List Seen} (h : Harmless head new) (h' : Harmless head new') :
    Harmless head (new ++ new') := by
  intro e he
  rcases mem_append.mp he with he | he
  · exact h e he
  · exact h' e he

variable {x : Gate α} {P : Except Exn α → Prop}

lemma Ends.mono {P' : Except Exn α → Prop} (h : Ends head P x) (hP : ∀ a, P a → P' a) :
    Ends head P' x :=
  fun seen => (h seen).mono fun a _ ⟨ha, hnew⟩ => ⟨hP a ha, hnew⟩

lemma Returns.calm (h : Returns head x) : Calm head x :=
  h.mono fun a ⟨v, ha⟩ => by simp [ha]

variable {f : α → Gate β}

/-- The rule of sequence: a failure ends it, a value goes on. -/
lemma Ends.bind {P' : Except Exn β → Prop} (hx : Ends head P x)
    (hraise : ∀ e, P (.error e) → P' (.error e)) (hf : ∀ a, P (.ok a) → Ends head P' (f a)) :
    Ends head P' (x >>= f) := by
  intro seen
  refine run_bind ((hx seen).mono ?_)
  rintro (e | a) seen' ⟨hP, new, rfl, hnew⟩
  · exact ⟨hraise e hP, new, rfl, hnew⟩
  · refine (hf a hP _).mono ?_
    rintro b seen'' ⟨hP', new', rfl, hnew'⟩
    exact ⟨hP', new ++ new', by simp, hnew.append hnew'⟩

lemma Calm.bind (hx : Calm head x) (hf : ∀ a, Calm head (f a)) : Calm head (x >>= f) :=
  Ends.bind hx (fun _ he h => he (congrArg Except.error (Except.error.inj h))) fun a _ => hf a

lemma Returns.bind (hx : Returns head x) (hf : ∀ a, Returns head (f a)) : Returns head (x >>= f) :=
  Ends.bind hx (by simp) fun a _ => hf a

/-- A handler that ends as wanted makes the whole do so. -/
lemma Calm.onFailure {handle : String → Gate α} (hx : Calm head x) (hok : ∀ a, P (.ok a))
    (hf : ∀ type, Ends head P (handle type)) : Ends head P (onFailure x handle) := by
  intro seen
  refine run_tryCatch ((hx seen).mono ?_)
  rintro (e | a) seen' ⟨hother, new, rfl, hnew⟩
  · cases e with
    | failure type =>
      refine (hf type _).mono ?_
      rintro b seen'' ⟨hP, new', rfl, hnew'⟩
      exact ⟨hP, new ++ new', by simp, hnew.append hnew'⟩
    | other => exact absurd rfl hother
  · exact ⟨hok a, new, rfl, hnew⟩

lemma returns_pure (a : α) : Returns head (pure a) :=
  fun _ => ⟨⟨a, rfl⟩, [], by simp, harmless_nil⟩

lemma calm_throw (type : String) : Calm head (throw (.failure type) : Gate α) :=
  fun _ => ⟨by simp, [], by simp, harmless_nil⟩

lemma calm_given (x : Fallible α) : Calm head (given x) := by
  cases x with
  | ok a => exact (returns_pure a).calm
  | error type => exact calm_throw type

/-- An operation with an answer that is not seen, or seen as harmless. -/
lemma ends_perform {o : Op} (x : Ans o) {P : Ans o → Prop} (hP : P x)
    (hsee : Harmless head (see ⟨o, x⟩).toList) (seen : List Seen) :
    (Proc.perform o : Proc Ans (Ans o)).Can watch
      (fun a seen' => P a ∧ ∃ new, seen' = seen ++ new ∧ Harmless head new) seen :=
  ⟨x, hP, _, rfl, hsee⟩

lemma calm_queue : Calm head queue :=
  ends_perform (o := .queue) (.error (.failure keyError)) (by simp) harmless_nil

lemma calm_pull (number : Int) : Calm head (pull number) :=
  ends_perform (o := .pull number) (.error (.failure keyError)) (by simp) harmless_nil

lemma calm_evidence (p : Pull) (entry : Option Entry) : Calm head (evidence p entry) :=
  ends_perform (o := .evidence p entry) (.error (.failure keyError)) (by simp) harmless_nil

lemma calm_inventory (head' : String) : Calm head (inventory head') :=
  ends_perform (o := .inventory head') (.error (.failure keyError)) (by simp) harmless_nil

lemma returns_audit (action : Action) : Returns head (audit action) :=
  ends_perform (o := .audit action) (.ok ()) ⟨(), rfl⟩ harmless_nil

lemma calm_post {head' : String} (hne : head' ≠ head) (k : Conclusion) (reason : String) :
    Calm head (post head' k reason) := by
  refine ends_perform (o := .post head' k reason) (.error (.failure keyError)) (by simp) ?_
  intro e he
  obtain rfl : e = .posted head' k := by simpa [see] using he
  exact ⟨fun k' heq => hne (Seen.posted.inj heq).1, by simp⟩

lemma returns_clock : Returns head clock := by
  intro seen
  refine ⟨(0 : Int), ⟨0, rfl⟩, [], ?_, harmless_nil⟩
  rfl

lemma returns_concluded (head' : String) (c : Candidate) (k : Conclusion) :
    Returns head (note (.concluded head' c k)) := by
  intro seen
  refine ⟨(), ⟨(), rfl⟩, [.concluded head' c k], rfl, fun e he => ?_⟩
  rw [mem_singleton.mp he]
  simp

lemma returns_safeAudit (action : Action) : Returns head (safeAudit action) :=
  (returns_audit action).calm.onFailure (fun a => ⟨a, rfl⟩) fun _ => returns_pure ()

lemma calm_evaluate (p : Pull) (entry : Option Entry) :
    Calm head (evaluate cfg policy p entry) := by
  refine (calm_given _).bind fun _ => (calm_given _).bind fun _ => (calm_given _).bind fun _ =>
    (calm_given _).bind fun _ => ?_
  split
  · exact (calm_evidence _ _).bind fun _ => (returns_pure _).calm
  · exact (returns_pure _).calm

lemma calm_checkMembers (entries : List Entry) : Calm head (checkMembers cfg policy entries) := by
  induction entries with
  | nil => exact (returns_pure ()).calm
  | cons entry entries ih =>
    exact (calm_pull _).bind fun _ => (calm_given _).bind fun _ => (calm_given _).bind fun _ => ih

variable (c : Candidate)

lemma calm_revalidate (approved : Option Approval) :
    Calm head (revalidate cfg policy c approved) := by
  refine Calm.bind ?_ fun _ => (calm_given _).bind fun _ => (calm_pull _).bind fun _ => ?_
  · cases c.queued with
    | none => exact (returns_pure ()).calm
    | some entries => exact calm_queue.bind fun _ => calm_given _
  · unfold settled
    split
    · exact (returns_pure ()).calm
    · split
      · exact calm_throw _
      · split
        · exact (returns_safeAudit _).calm.bind fun _ => calm_throw _
        · exact calm_throw _

lemma calm_assess : Calm head (assess cfg policy c) := by
  refine Calm.bind ?_ fun _ => (calm_revalidate c _).bind fun _ => (returns_pure _).calm
  unfold examine
  split
  · exact (calm_checkMembers _).bind fun _ => (returns_pure _).calm
  · exact calm_evaluate _ _
  · exact calm_evaluate _ _

lemma calm_check (results : Results) : Calm head (check cfg policy c results) := by
  refine (calm_given _).bind fun _ => Calm.bind ?_ fun _ =>
    (returns_concluded _ _ _).calm.bind fun _ => (returns_pure _).calm
  refine Calm.onFailure ((calm_assess c).bind fun _ => (returns_pure _).calm)
    (by simp) fun type => ?_
  exact (returns_safeAudit _).calm.bind fun _ => (returns_pure _).calm

lemma calm_checkAll (cs : List Candidate) (results : Results) :
    Calm head (checkAll cfg policy cs results) := by
  induction cs generalizing results with
  | nil => exact (returns_pure _).calm
  | cons c cs ih => exact (calm_check c results).bind fun _ => ih _

lemma returns_alreadyPublished (head' : String) (k : Conclusion) :
    Returns head (alreadyPublished cfg head' k) := by
  unfold alreadyPublished
  split
  · exact returns_pure _
  · exact Calm.onFailure ((calm_inventory _).bind fun _ => (returns_pure _).calm)
      (fun a => ⟨a, rfl⟩) fun _ => returns_pure _

lemma returns_late (k : Conclusion) (deadline : Option Int) : Returns head (late k deadline) := by
  unfold late
  split
  · exact returns_clock.bind fun _ => returns_pure _
  · exact returns_pure _

variable {head' : String}

lemma calm_postCheck (hne : head' ≠ head) (k : Conclusion) (reason : String) :
    Calm head (postCheck head' k reason) := by
  refine (calm_post hne k reason).bind fun id => ?_
  split
  · exact calm_throw _
  · split
    · exact calm_throw _
    · exact (returns_safeAudit _).calm

lemma calm_publish (hne : head' ≠ head) (k : Conclusion) (reason : String) (deadline : Option Int) :
    Calm head (publish cfg head' k reason deadline) := by
  refine (returns_alreadyPublished head' k).calm.bind fun _ =>
    (returns_late k deadline).calm.bind fun _ => ?_
  split
  · exact calm_postCheck hne _ _
  · split
    · exact (returns_pure ()).calm
    · exact calm_postCheck hne _ _

lemma calm_publishTarget (hne : head' ≠ head) (cs : List Candidate) :
    Calm head (publishTarget cfg policy head' cs) :=
  returns_clock.calm.bind fun _ => (calm_checkAll cs ∅).bind fun _ => (calm_given _).bind fun _ =>
    calm_publish hne _ _ _

lemma returns_revoke {head' : Option String} (hne : some head ≠ head') :
    Returns head (revoke cfg head') := by
  refine Calm.onFailure ?_ (fun a => ⟨a, rfl⟩) fun type => returns_safeAudit _
  rcases head' with _ | head'
  · exact calm_throw keyError
  · exact calm_publish (fun h => hne (congrArg some h.symm)) _ _ _

lemma returns_revokeAll {heads : List (Option String)} (hne : some head ∉ heads) :
    Returns head (revokeAll cfg heads) := by
  induction heads with
  | nil => exact returns_pure ()
  | cons head' heads ih =>
    rw [mem_cons, not_or] at hne
    exact (returns_revoke hne.1).bind fun _ => ih hne.2

/-- One target of another head: its failure is audited and kept. -/
lemma returns_target (hne : head' ≠ head) (cs : List Candidate) : Returns head (onFailure
    (do
      publishTarget cfg policy head' cs
      pure none)
    fun type => do
      safeAudit (.skipped "failure_publication_unavailable" type)
      pure (some type)) := by
  refine Calm.onFailure ?_ (fun a => ⟨a, rfl⟩) fun type => ?_
  · exact (calm_publishTarget hne cs).bind fun _ => (returns_pure _).calm
  · exact (returns_safeAudit _).bind fun _ => returns_pure _

/-- A refusal that knows nothing of the head. -/
lemma ends_refuse {rows : List Pull} {entries : List Entry}
    (hne : some head ∉ knownHeads rows entries) (type : String) :
    Ends head (fun a => a = .ok .refused) (refuse cfg rows entries type) :=
  Ends.bind (returns_safeAudit _) (by simp) fun _ _ =>
    Ends.bind (returns_revokeAll hne) (by simp) fun _ _ seen =>
      ⟨rfl, [], by simp, harmless_nil⟩

/-- The targets of other heads: a failure that was kept stays. -/
lemma ends_publishTargets {targets : Targets} (hne : head ∉ targets.map Prod.fst)
    (failed : Option String) :
    Ends head (fun a => ∃ failed', a = .ok failed' ∧ (failed.isSome → failed'.isSome))
      (publishTargets cfg policy targets failed) := by
  induction targets generalizing failed with
  | nil => exact fun seen => ⟨⟨failed, rfl, id⟩, [], by simp, harmless_nil⟩
  | cons target targets ih =>
    obtain ⟨head', cs⟩ := target
    rw [map_cons, mem_cons, not_or] at hne
    refine Ends.bind (returns_target (Ne.symm hne.1) cs) (by simp) ?_
    intro raised _
    refine (ih hne.2 (failed.or raised)).mono ?_
    rintro a ⟨failed', rfl, hkeep⟩
    refine ⟨failed', rfl, fun hfailed => hkeep ?_⟩
    rw [isSome_or, hfailed]
    rfl

/-! ## A success -/

/-- What is left of a pull request when labels and assignees are taken off. -/
def Pull.bare (p : Pull) : Pull := { p with labels := [], assigned := false }

/-- The last look at a checkable pull request, as it was but for its labels, raises nothing. -/
lemma settle_bare {p : Pull} (h : checkable cfg policy p = true) (approved : Option Approval) :
    (settle cfg policy p p.bare approved).2 = .ok () := by
  obtain ⟨⟨sha, number, b, hsha, hnumber, hvalid, hdep⟩, base, hbase⟩ := checkable_iff.mp h
  have hagain : validateAgain cfg policy p p.bare = .ok () := by
    refine except_bind_eq_ok.mpr ⟨number, hnumber, except_bind_eq_ok.mpr ⟨sha, hsha, ?_⟩⟩
    exact hvalid
  obtain ⟨user, huser, -⟩ := except_bind_eq_ok.mp hdep
  have hunmoved : unmoved p p.bare = .ok () := by
    refine except_bind_eq_ok.mpr ⟨user, huser, except_bind_eq_ok.mpr ⟨user, huser, ?_⟩⟩
    refine except_bind_eq_ok.mpr ⟨(), by simp [require], ?_⟩
    refine except_bind_eq_ok.mpr ⟨base, hbase, except_bind_eq_ok.mpr ⟨base, hbase, ?_⟩⟩
    simp [require]
  unfold settle
  rw [hagain]
  dsimp only
  split
  · exact hunmoved
  · exact hunmoved

/-- Some answers let the pull request through. -/
def Succeeds {α : Type} (x : Gate α) : Prop :=
  ∀ seen, x.run.Can watch (fun a seen' => seen' = seen ∧ ∃ v, a = .ok v) seen

lemma succeeds_evaluate {p : Pull} (h : checkable cfg policy p = true) :
    Succeeds (evaluate cfg policy p none) := by
  obtain ⟨⟨sha, number, b, hsha, hnumber, hvalid, hdep⟩, -⟩ := checkable_iff.mp h
  intro seen
  unfold evaluate
  rw [hsha, hnumber]
  change ((given (validatePull cfg policy p number sha) >>= _) : Gate _).run.Can watch _ seen
  rw [hvalid, hdep]
  cases b with
  | false => exact ⟨rfl, _, rfl⟩
  | true =>
    refine run_bind ⟨.ok ⟨0, "", none, none⟩, ?_⟩
    exact ⟨by change seen ++ [] = seen; simp, _, rfl⟩

variable {c}

lemma succeeds_revalidate (hq : c.queued = none) (h : checkable cfg policy c.pull = true)
    (approved : Option Approval) : Succeeds (revalidate cfg policy c approved) := by
  obtain ⟨⟨sha, number, b, hsha, hnumber, hvalid, hdep⟩, -⟩ := checkable_iff.mp h
  intro seen
  unfold revalidate
  rw [hq, hnumber]
  change ((pull number >>= _) : Gate Unit).run.Can watch _ seen
  refine run_bind ⟨.ok c.pull.bare, ?_⟩
  change (settled number c.pull.bare approved _ _).run.Can watch _ (seen ++ [])
  rw [settle_bare h approved, append_nil]
  exact ⟨rfl, (), rfl⟩

lemma succeeds_assess (hq : c.queued = none) (h : checkable cfg policy c.pull = true) :
    Succeeds (assess cfg policy c) := by
  have hexamine : examine cfg policy c = evaluate cfg policy c.pull none := by
    unfold examine
    rw [hq]
  intro seen
  unfold assess
  rw [hexamine]
  refine run_bind ((succeeds_evaluate h seen).mono ?_)
  rintro _ _ ⟨rfl, p, rfl⟩
  refine run_bind ((succeeds_revalidate hq h p.2 _).mono ?_)
  rintro _ _ ⟨rfl, _, rfl⟩
  exact ⟨rfl, p.1, rfl⟩

lemma can_check (hc : c.head = .ok head) (hq : c.queued = none)
    (h : checkable cfg policy c.pull = true) (results : Results) :
    (check cfg policy c results).run.Can watch
      (fun a seen' => seen' = seen ++ [.concluded head c .success] ∧
        ∃ reason, a = .ok (record results head .success reason)) seen := by
  unfold check
  rw [hc]
  refine run_bind (x := onFailure _ _) ?_
  refine run_tryCatch (run_bind ((succeeds_assess hq h seen).mono ?_))
  rintro _ _ ⟨rfl, reason, rfl⟩
  exact ⟨(), rfl, reason, rfl⟩

/-- Candidates on the head that some answers let through. -/
def AllClear (cfg : Config) (policy : Policy) (head : String) (cs : List Candidate) : Prop :=
  ∀ c ∈ cs, c.head = .ok head ∧ c.queued = none ∧ checkable cfg policy c.pull = true

/-- All candidates pass; the results have the success, once there is a candidate or it was there. -/
lemma can_checkAll (hcs : AllClear cfg policy head cs) {results : Results}
    (hresults : ∀ k reason, results.lookup head = some (k, reason) → k = .success) :
    (checkAll cfg policy cs results).run.Can watch
      (fun a seen' => (∃ new, seen' = seen ++ new ∧ Harmless head new) ∧ ∃ results',
        a = .ok results' ∧
        (∀ k reason, results'.lookup head = some (k, reason) → k = .success) ∧
        (cs ≠ [] ∨ (results.lookup head).isSome → (results'.lookup head).isSome)) seen := by
  induction cs generalizing results seen with
  | nil => exact ⟨⟨[], by simp, harmless_nil⟩, results, rfl, hresults, by simp⟩
  | cons c cs ih =>
    obtain ⟨hc, hq, hcheck⟩ := hcs c mem_cons_self
    refine run_bind ((can_check hc hq hcheck results).mono ?_)
    rintro _ _ ⟨rfl, reason, rfl⟩
    have hrecord : ((record results head .success reason).lookup head).isSome ∧
        ∀ k r, (record results head .success reason).lookup head = some (k, r) → k = .success := by
      unfold record
      split
      · rw [Table.lookup_insert, if_pos rfl]
        exact ⟨rfl, fun k r hk => (Prod.mk.inj (some.inj hk)).1.symm⟩
      · rename_i hcond
        rw [not_or] at hcond
        exact ⟨by simpa [isSome_iff_ne_none] using hcond.1, hresults⟩
    refine (ih (fun c hc => hcs c (mem_cons_of_mem _ hc)) hrecord.2).mono ?_
    rintro _ _ ⟨⟨new, rfl, hnew⟩, results', rfl, hsuccess, hsome⟩
    refine ⟨⟨.concluded head c .success :: new, by simp, ?_⟩, results', rfl, hsuccess,
      fun _ => hsome (.inr hrecord.1)⟩
    intro e he
    rcases mem_cons.mp he with rfl | he
    · simp
    · exact hnew e he

lemma can_alreadyPublished (k : Conclusion) :
    (alreadyPublished cfg head k).run.Can watch
      (fun a seen' => seen' = seen ∧ a = .ok false) seen := by
  unfold alreadyPublished
  split
  · exact ⟨rfl, rfl⟩
  · refine run_tryCatch (run_bind ⟨.error (.failure keyError), ?_⟩)
    exact ⟨append_nil seen, rfl⟩

/-- A publication of a success in time, whose post is answered without an id. -/
lemma can_publish (reason : String) {deadline : Int} (hdeadline : 0 < deadline) :
    (publish cfg head .success reason (some deadline)).run.Can watch
      (fun a seen' => seen' = seen ++ [.posted head .success] ∧ ∃ type, a = .error (.failure type))
      seen := by
  refine run_bind ((can_alreadyPublished .success).mono ?_)
  rintro _ _ ⟨rfl, rfl⟩
  refine run_bind (run_bind ⟨(0 : Int), ?_⟩)
  have hintime : decide (deadline ≤ 0) = false := decide_eq_false (by omega)
  change (if decide (deadline ≤ 0) = true then _ else _ : Gate Unit).run.Can watch _ (_ ++ [])
  rw [hintime, append_nil]
  exact run_bind ⟨.ok none, rfl, valueError, rfl⟩

/-- A success is posted on the head, answered without an id, so that the publication fails. -/
lemma can_publishTarget (hne : cs ≠ []) (hcs : AllClear cfg policy head cs) :
    (publishTarget cfg policy head cs).run.Can watch
      (fun a seen' => (∃ type, a = .error (.failure type)) ∧
        ∃ new, seen' = seen ++ (new ++ [.posted head .success]) ∧ Harmless head new) seen := by
  refine run_bind ⟨(0 : Int), ?_⟩
  change ((checkAll cfg policy cs ∅ >>= _) : Gate Unit).run.Can watch _ (seen ++ [])
  refine run_bind ((can_checkAll hcs (by simp)).mono ?_)
  rintro _ _ ⟨⟨new, rfl, hnew⟩, results, rfl, hsuccess, hsome⟩
  obtain ⟨⟨k, reason⟩, hlookup⟩ := isSome_iff_exists.mp (hsome (.inl hne))
  obtain rfl := hsuccess k reason hlookup
  rw [through_ok, hlookup]
  refine (can_publish reason (show 0 < 0 + maxEvaluationSeconds by decide)).mono ?_
  rintro _ _ ⟨rfl, htype⟩
  exact ⟨htype, new, by simp, hnew⟩

/-- No inventory has been shown. -/
def Unshown (new : List Seen) : Prop := ∀ e ∈ new, ∀ head' body, e ≠ .shown head' body

lemma Harmless.unshown (h : Harmless head new) : Unshown new :=
  fun e he => (h e he).2

lemma Unshown.append {new' : List Seen} (h : Unshown new) (h' : Unshown new') :
    Unshown (new ++ new') := by
  intro e he
  rcases mem_append.mp he with he | he
  · exact h e he
  · exact h' e he

lemma Harmless.lastPost (h : Harmless head new) :
    lastPost (seen ++ new) head = lastPost seen head :=
  lastPost_append fun e he => (h e he).1

/-- The last post on the head is a success, and no inventory has been shown since `seen`. -/
def Stands (head : String) (seen seen' : List Seen) : Prop :=
  lastPost seen' head = some .success ∧ ∃ new, seen' = seen ++ new ∧ Unshown new

lemma Stands.harmless (h : Stands head seen seen') (hnew : Harmless head new) :
    Stands head seen (seen' ++ new) := by
  obtain ⟨hlast, new', rfl, hunshown⟩ := h
  refine ⟨by rw [hnew.lastPost, hlast], new' ++ new, by simp, hunshown.append hnew.unshown⟩

lemma Stands.after (h : Stands head (seen ++ new) seen') (hnew : Harmless head new) :
    Stands head seen seen' := by
  obtain ⟨hlast, new', rfl, hunshown⟩ := h
  exact ⟨hlast, new ++ new', by simp, hnew.unshown.append hunshown⟩

variable {targets : Targets}

/-- The loop over all targets, one of which is that of the head. -/
lemma can_publishTargets (hkeys : (targets.map Prod.fst).Nodup) (hmem : (head, cs) ∈ targets)
    (hne : cs ≠ []) (hcs : AllClear cfg policy head cs) (failed : Option String) :
    (publishTargets cfg policy targets failed).run.Can watch
      (fun a seen' => (∃ type, a = .ok (some type)) ∧ Stands head seen seen') seen := by
  induction targets generalizing seen failed with
  | nil => simp at hmem
  | cons target targets ih =>
    obtain ⟨head', cs'⟩ := target
    obtain ⟨hnew, hkeys'⟩ := nodup_cons.mp hkeys
    refine run_bind (x := onFailure _ _) ?_
    rcases mem_cons.mp hmem with heq | hmem'
    · obtain ⟨rfl, rfl⟩ := Prod.mk.inj heq
      refine run_tryCatch (run_bind ((can_publishTarget hne hcs).mono ?_))
      rintro _ _ ⟨⟨type, rfl⟩, new, rfl, hharm⟩
      refine run_bind ((show Returns head _ from returns_safeAudit _) _ |>.mono ?_)
      rintro _ _ ⟨⟨_, rfl⟩, audit, rfl, haudit⟩
      refine (ends_publishTargets hnew (failed.or (some type)) _).mono ?_
      rintro _ _ ⟨⟨failed', rfl, hkeep⟩, rest, rfl, hrest⟩
      obtain ⟨type', rfl⟩ := isSome_iff_exists.mp (hkeep (by simp))
      refine ⟨⟨type', rfl⟩, Stands.harmless (Stands.harmless ?_ haudit) hrest⟩
      refine ⟨?_, _, rfl, hharm.unshown.append ?_⟩
      · rw [← append_assoc, lastPost_snoc]
        simp
      · intro e he
        rw [mem_singleton.mp he]
        simp
    · have hne' : head' ≠ head := by
        rintro rfl
        exact hnew (mem_map.mpr ⟨_, hmem', rfl⟩)
      refine (returns_target hne' cs' seen).mono ?_
      rintro _ _ ⟨⟨raised, rfl⟩, new, rfl, hharm⟩
      refine (ih hkeys' hmem' (failed.or raised)).mono ?_
      rintro _ _ ⟨htype, hstands⟩
      exact ⟨htype, hstands.after hharm⟩

/-- **A head that is neither listed nor queued can keep its success through a refusal.** -/
theorem can_conclude {rows : List Pull} {entries : List Entry} (h : Collected entries targets seen)
    (hrev : ¬Revocable cfg policy (.complete rows entries targets)) :
    ∃ head, (conclude cfg policy (.complete rows entries targets)).run.Can watch
      (fun a seen' => a = .ok .refused ∧ Stands head seen seen') seen := by
  unfold Revocable at hrev
  push Not at hrev
  obtain ⟨head, cs, hmem, hunknown, hall⟩ := hrev
  have hcs : AllClear cfg policy head cs := by
    intro c hc
    have hhas : Targets.Has targets head c := ⟨cs, hmem, hc⟩
    have hq : c.queued = none := by
      refine (h.queued head c hhas).resolve_right ?_
      rintro ⟨e, he, rfl⟩
      exact hunknown (mem_append_right _ (mem_map.mpr ⟨e, he, rfl⟩))
    exact ⟨h.head head c hhas, hq, by simpa using hall c hc hq⟩
  refine ⟨head, ?_⟩
  refine run_bind ((can_publishTargets h.keys hmem (h.nonempty head cs hmem) hcs none).mono ?_)
  rintro _ seen' ⟨⟨type, rfl⟩, hstands⟩
  refine (ends_refuse hunknown type seen').mono ?_
  rintro _ _ ⟨rfl, new, rfl, hnew⟩
  exact ⟨rfl, hstands.harmless hnew⟩

lemma truthful_of_unshown (h : OnlyFound seen) (hnew : Unshown new) :
    Truthful cfg (seen ++ new) := by
  intro past head body rest heq
  exfalso
  have hmem : .shown head body ∈ seen ++ new := heq ▸ (by simp)
  rcases mem_append.mp hmem with hmem | hmem
  · obtain ⟨head', c, he⟩ := h _ hmem
    simp at he
  · exact hnew _ hmem head body rfl

/-! ## All ticks -/

lemma tick_on (henabled : cfg.enabled = true) (htoken : cfg.token.getD "" ≠ "") :
    tick cfg policy = discover policy >>= conclude cfg policy := by
  unfold tick
  rw [if_neg (by simp [henabled]), if_neg (by simpa using htoken)]

/-- A tick that refuses is on. -/
lemma on_of_refused {t : Trace Ans} (hrun : (tick cfg policy).run.Runs t (.ok .refused)) :
    cfg.enabled = true ∧ cfg.token.getD "" ≠ "" := by
  unfold tick at hrun
  split at hrun
  · cases hrun
  · rename_i henabled
    split at hrun
    · cases hrun
    · rename_i htoken
      exact ⟨by simpa using henabled, by simpa using htoken⟩

/-- **What stays.** After a discovery with a head that is not revocable, some answers make the tick
refuse and leave a success standing. -/
theorem exists_not_takenBack {t₀ : Trace Ans}
    (hon : tick cfg policy = discover policy >>= conclude cfg policy)
    (hd : (discover policy).run.Runs t₀ (.ok d)) (hrev : ¬Revocable cfg policy d) :
    ∃ t, (tick cfg policy).run.Runs (t₀ ++ t) (.ok .refused) ∧
      Truthful cfg ((t₀ ++ t).filterMap see) ∧ ¬TakenBack ((t₀ ++ t).filterMap see) := by
  have hfound : Discovered (.ok d) (t₀.filterMap see) := ((discover_follows policy).seen hd).1
  cases d with
  | lost rows entries type =>
    exact absurd (fun head cs hcs => absurd hcs (by simp [Discovery.targets])) hrev
  | complete rows entries targets =>
    obtain ⟨head, hcan⟩ := can_conclude hfound hrev
    obtain ⟨t, a, hrun, rfl, hlast, new, hnew, hunshown⟩ := hcan.runs
    rw [after_watching] at hlast hnew
    refine ⟨t, ?_, ?_, ?_⟩
    · rw [hon]
      exact Proc.runs_bind.mpr ⟨t₀, t, _, rfl, hd, hrun⟩
    · rw [filterMap_append, hnew]
      exact truthful_of_unshown hfound.onlyFound hunshown
    · rw [filterMap_append, takenBack_iff]
      exact fun hall => hall head hlast

/-- **What a tick publishes and takes back.** A success is posted only on heads all of whose
candidates have passed. A tick that refuses has got through discovery; and for what discovery found,
a refusal takes every success back, whatever else the tick is answered, exactly when every head is
revocable. -/
theorem tick_publishes (cfg : Config) (policy : Policy) :
    (∀ t res, (tick cfg policy).run.Runs t res → ∀ past head rest,
        t.filterMap see = past ++ .posted head .success :: rest → AllPassed past head) ∧
      (∀ t, (tick cfg policy).run.Runs t (.ok .refused) →
        ∃ t₀ t₁ d, t = t₀ ++ t₁ ∧ (discover policy).run.Runs t₀ (.ok d)) ∧
      ∀ t₀ d, (discover policy).run.Runs t₀ (.ok d) →
        ((∀ t, (tick cfg policy).run.Runs (t₀ ++ t) (.ok .refused) →
            Truthful cfg ((t₀ ++ t).filterMap see) → TakenBack ((t₀ ++ t).filterMap see)) ↔
          (cfg.enabled = true → cfg.token.getD "" ≠ "" → Revocable cfg policy d)) := by
  refine ⟨fun t res hrun past head rest heq => posted_passed hrun heq, fun t hrun => ?_,
    fun t₀ d hd => ⟨fun hall henabled htoken => ?_, fun hrev t hrun htruth => ?_⟩⟩
  · obtain ⟨henabled, htoken⟩ := on_of_refused hrun
    rw [tick_on henabled htoken] at hrun
    obtain ⟨t₁, t₂, a, rfl, ha, hcont⟩ := Proc.runs_bind.mp hrun
    rcases a with e | d
    · cases hcont
    · exact ⟨t₁, t₂, d, rfl, ha⟩
  · by_contra hrev
    obtain ⟨t, hrun, htruth, hstands⟩ := exists_not_takenBack (tick_on henabled htoken) hd hrev
    exact hstands (hall t hrun htruth)
  · obtain ⟨henabled, htoken⟩ := on_of_refused hrun
    exact takenBack_of_revocable (tick_on henabled htoken) hd (hrev henabled htoken) hrun htruth

/-! ## A head that moves -/

/-- A gate that is on and asks for no inventory, for a repository without known bots. -/
def openGate : Config := ⟨true, some "token", none, id⟩

def openPolicy : Policy := ⟨"owner/repo", "main", some [], []⟩

def shaA : String := "aaaaaaaaaaaaaaaaaaaaaaaaaaaaaaaaaaaaaaaa"

def shaB : String := "bbbbbbbbbbbbbbbbbbbbbbbbbbbbbbbbbbbbbbbb"

def shaC : String := "cccccccccccccccccccccccccccccccccccccccc"

/-- An open pull request of a human. -/
def openPull (number : Int) (head : String) : Pull where
  number := some number
  state := some "open"
  draft := some false
  headSha := some head
  headRef := some "feature"
  headRepo := some "owner/repo"
  baseSha := some shaA
  baseRef := some "main"
  baseRepo := some "owner/repo"
  user := some ⟨some 1, some "User", some "someone", ""⟩
  labels := []
  assigned := false

/-- Two pull requests are open. The first is listed with head `listed`, and read with head
`shaB`. -/
def readTwo (listed : String) : Trace Ans :=
  [⟨.page 1, .ok [openPull 1 listed, openPull 2 shaC]⟩,
   ⟨.queue, .ok []⟩,
   ⟨.pull 1, .ok (openPull 1 shaB)⟩,
   ⟨.note (.found shaB ⟨openPull 1 shaB, none⟩), ()⟩,
   ⟨.pull 2, .ok (openPull 2 shaC)⟩,
   ⟨.note (.found shaC ⟨openPull 2 shaC, none⟩), ()⟩]

/-- Both pass. The success of the first is posted; that of the second is not, and the tick
refuses. -/
def secondFails (listed : String) : Trace Ans :=
  [⟨.clock, (0 : Int)⟩,
   ⟨.pull 1, .ok (openPull 1 shaB)⟩,
   ⟨.note (.concluded shaB ⟨openPull 1 shaB, none⟩ .success), ()⟩,
   ⟨.clock, (1 : Int)⟩,
   ⟨.post shaB .success "non-dependency PR", .ok (some 7)⟩,
   ⟨.audit (.published shaB .success 7), .ok ()⟩,
   ⟨.clock, (1 : Int)⟩,
   ⟨.pull 2, .ok (openPull 2 shaC)⟩,
   ⟨.note (.concluded shaC ⟨openPull 2 shaC, none⟩ .success), ()⟩,
   ⟨.clock, (2 : Int)⟩,
   ⟨.post shaC .success "non-dependency PR", .error (.failure "HTTPError")⟩,
   ⟨.audit (.skipped "failure_publication_unavailable" "HTTPError"), .ok ()⟩,
   ⟨.audit (.skipped "github_or_evidence_unavailable" "HTTPError"), .ok ()⟩,
   ⟨.post listed .failure "gate discovery unavailable", .ok (some 8)⟩,
   ⟨.audit (.published listed .failure 8), .ok ()⟩,
   ⟨.post shaC .failure "gate discovery unavailable", .ok (some 9)⟩,
   ⟨.audit (.published shaC .failure 9), .ok ()⟩]

lemma truthful_openGate (seen : List Seen) : Truthful openGate seen := by
  intro past head body rest _ appId hid
  simp [openGate] at hid

/-- When the first pull request has not moved, its success is taken back. -/
theorem tick_publishes_unmoved : TakenBack ((readTwo shaB ++ secondFails shaB).filterMap see) := by
  have hdiscover : (discover openPolicy).run.Runs (readTwo shaB)
      (.ok (.complete [openPull 1 shaB, openPull 2 shaC] []
        [(shaB, [⟨openPull 1 shaB, none⟩]), (shaC, [⟨openPull 2 shaC, none⟩])])) := by
    decide +kernel
  refine ((tick_publishes openGate openPolicy).2.2 _ _ hdiscover).mpr (fun _ _ => ?_)
    (secondFails shaB)
    (by decide +kernel) (truthful_openGate _)
  intro head cs hcs
  left
  have hcs' : head = shaB ∨ head = shaC := by
    rcases mem_cons.mp hcs with h | h
    · exact .inl (Prod.mk.inj h).1
    · exact .inr (Prod.mk.inj (mem_singleton.mp h)).1
  rcases hcs' with rfl | rfl <;> decide

/-- When it has moved between the listing and its own read, its success outlives the refusal. -/
theorem success_outlives_refusal :
    (tick openGate openPolicy).run.Runs (readTwo shaA ++ secondFails shaA) (.ok .refused) ∧
      Truthful openGate ((readTwo shaA ++ secondFails shaA).filterMap see) ∧
      ¬TakenBack ((readTwo shaA ++ secondFails shaA).filterMap see) := by
  refine ⟨by decide +kernel, truthful_openGate _, fun h => ?_⟩
  exact takenBack_iff.mp h shaB (by decide +kernel)

end Homelab.Factory.DependencyGate
