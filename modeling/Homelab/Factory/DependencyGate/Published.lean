import Homelab.Factory.DependencyGate

/-!
# What a tick publishes

Of a tick we watch what it found, what it concluded, its posts, and the inventories it was shown
(`Seen`). A success is posted on a head only when all candidates found on it have been concluded as
successes (`MayPost`), whatever the tick is answered.

Most of the tick is not seen at all (`Unseen`). What is seen is followed along its loops.
-/

namespace Homelab.Factory.DependencyGate

open Homelab.Lib Gate List Prod

/-! ## What is seen -/

/-- What is watched. -/
inductive Seen where
  | found (head : String) (c : Candidate)
  | concluded (head : String) (c : Candidate) (conclusion : Conclusion)
  | posted (head : String) (conclusion : Conclusion)
  | shown (head : String) (body : Inventory)
  deriving DecidableEq, Repr

/-- What is seen of an operation. A post counts whatever it is answered: one that raises may have
been applied all the same, so its success has to be taken back too. -/
def see : Done Ans → Option Seen
  | ⟨.note (.found head c), _⟩ => some (.found head c)
  | ⟨.note (.concluded head c conclusion), _⟩ => some (.concluded head c conclusion)
  | ⟨.post head conclusion _, _⟩ => some (.posted head conclusion)
  | ⟨.inventory head, .ok body⟩ => some (.shown head body)
  | _ => none

/-- Everything found on the head has been concluded, and as a success. -/
def AllPassed (seen : List Seen) (head : String) : Prop :=
  (∀ c, .found head c ∈ seen → .concluded head c .success ∈ seen) ∧
    ∀ c, .concluded head c .failure ∉ seen

/-- A success is posted on a head only when everything found on it has passed. -/
def MayPost (seen : List Seen) : Op → Prop
  | .post head .success _ => AllPassed seen head
  | _ => True

abbrev watch : Discipline Ans (List Seen) := watching see MayPost

/-! ## What is not seen -/

variable {α β : Type} {cfg : Config} {policy : Policy} {head : String} {cs : List Candidate}
  {entries : List Entry} {targets : Targets} {seen seen' seen'' new : List Seen}

/-- Nothing of the program is seen, whatever it is answered. -/
def Unseen (x : Gate α) : Prop := ∀ seen, x.run.Follows watch (fun _ seen' => seen' = seen) seen

lemma unseen_pure (a : α) : Unseen (pure a) := fun _ => rfl

lemma unseen_throw (e : Exn) : Unseen (throw e : Gate α) := fun _ => rfl

lemma unseen_given (x : Fallible α) : Unseen (given x) := by
  cases x with
  | ok a => exact unseen_pure a
  | error type => exact unseen_throw _

lemma Unseen.bind {x : Gate α} {f : α → Gate β} (hx : Unseen x) (hf : ∀ a, Unseen (f a)) :
    Unseen (x >>= f) := by
  intro seen
  rw [follows_run_bind]
  refine (hx seen).mono ?_
  rintro (e | a) seen' rfl
  · rfl
  · exact hf a _

lemma Unseen.onFailure {x : Gate α} {handle : String → Gate α} (hx : Unseen x)
    (hf : ∀ type, Unseen (handle type)) : Unseen (onFailure x handle) := by
  intro seen
  unfold Gate.onFailure
  rw [follows_run_tryCatch]
  refine (hx seen).mono ?_
  rintro (e | a) seen' rfl
  · cases e with
    | failure type => exact hf type _
    | other => rfl
  · rfl

/-- An operation that is neither a note, a post nor an inventory. -/
lemma unseen_ask {o : Op} (hmay : ∀ seen, MayPost seen o) (hsee : ∀ x, see ⟨o, x⟩ = none)
    (seen : List Seen) :
    (Proc.perform o : Proc Ans (Ans o)).Follows watch (fun _ seen' => seen' = seen) seen := by
  refine ⟨hmay seen, fun x => ?_⟩
  change seen ++ (see ⟨o, x⟩).toList = seen
  rw [hsee x]
  simp

lemma unseen_page (n : Nat) : Unseen (page n) := unseen_ask (fun _ => trivial) fun _ => rfl

lemma unseen_queue : Unseen queue := unseen_ask (fun _ => trivial) fun _ => rfl

lemma unseen_pull (number : Int) : Unseen (pull number) :=
  unseen_ask (fun _ => trivial) fun _ => rfl

lemma unseen_evidence (p : Pull) (entry : Option Entry) : Unseen (evidence p entry) :=
  unseen_ask (fun _ => trivial) fun _ => rfl

lemma unseen_audit (action : Action) : Unseen (audit action) :=
  unseen_ask (fun _ => trivial) fun _ => rfl

lemma unseen_clock : Unseen clock := by
  intro seen
  refine ⟨trivial, fun x => ?_⟩
  change seen ++ [] = seen
  simp

lemma unseen_safeAudit (action : Action) : Unseen (safeAudit action) :=
  (unseen_audit action).onFailure fun _ => unseen_pure ()

lemma unseen_evaluate (p : Pull) (entry : Option Entry) : Unseen (evaluate cfg policy p entry) := by
  refine (unseen_given _).bind fun head => (unseen_given _).bind fun number =>
    (unseen_given _).bind fun _ => (unseen_given _).bind fun b => ?_
  split
  · exact (unseen_evidence _ _).bind fun _ => unseen_pure _
  · exact unseen_pure _

lemma unseen_checkMembers (entries : List Entry) : Unseen (checkMembers cfg policy entries) := by
  induction entries with
  | nil => exact unseen_pure ()
  | cons entry entries ih =>
    exact (unseen_pull _).bind fun _ => (unseen_given _).bind fun _ =>
      (unseen_given _).bind fun _ => ih

lemma unseen_rereadQueue (queued : Option (List Entry)) : Unseen (rereadQueue queued) := by
  cases queued with
  | none => exact unseen_pure ()
  | some entries => exact unseen_queue.bind fun _ => unseen_given _

lemma unseen_settled (number : Int) (latest : Pull) (approved : Option Approval) (held : Bool)
    (result : Fallible Unit) : Unseen (settled number latest approved held result) := by
  unfold settled
  split
  · exact unseen_pure ()
  · split
    · exact unseen_throw _
    · split
      · exact (unseen_safeAudit _).bind fun _ => unseen_throw _
      · exact unseen_throw _

variable (c : Candidate)

lemma unseen_revalidate (approved : Option Approval) : Unseen (revalidate cfg policy c approved) :=
  (unseen_rereadQueue _).bind fun _ => (unseen_given _).bind fun _ =>
    (unseen_pull _).bind fun _ => unseen_settled _ _ _ _ _

lemma unseen_examine : Unseen (examine cfg policy c) := by
  unfold examine
  split
  · exact (unseen_checkMembers _).bind fun _ => unseen_pure _
  · exact unseen_evaluate _ _
  · exact unseen_evaluate _ _

lemma unseen_assess : Unseen (assess cfg policy c) :=
  (unseen_examine c).bind fun _ => (unseen_revalidate c _).bind fun _ => unseen_pure _

lemma unseen_pages (rows : List Pull) (n left : Nat) : Unseen (pages rows n left) := by
  induction left generalizing rows n with
  | zero => exact unseen_throw _
  | succ left ih =>
    refine (unseen_page n).bind fun batch => ?_
    split
    · exact unseen_pure _
    · exact ih _ _

/-! ## Discovery -/

/-- The candidate is in the target of that head. -/
def Targets.Has (targets : Targets) (head : String) (c : Candidate) : Prop :=
  ∃ cs, (head, cs) ∈ targets ∧ c ∈ cs

lemma has_addTarget {head' : String} {c c' : Candidate} :
    Targets.Has (addTarget head c targets) head' c' ↔
      targets.Has head' c' ∨ head' = head ∧ c' = c := by
  induction targets with
  | nil => simp [addTarget, Targets.Has]
  | cons target targets ih =>
    obtain ⟨h, cs⟩ := target
    unfold addTarget
    unfold Targets.Has at ih ⊢
    split
    · grind
    · grind

lemma keys_addTarget (targets : Targets) (head : String) (c : Candidate) :
    (addTarget head c targets).map fst =
      if head ∈ targets.map fst then targets.map fst
      else targets.map fst ++ [head] := by
  induction targets with
  | nil => simp [addTarget]
  | cons target targets ih =>
    obtain ⟨h, cs⟩ := target
    unfold addTarget
    split
    · rename_i hh
      simp [hh]
    · rename_i hh
      rw [map_cons, ih]
      simp only [map_cons, mem_cons]
      split
      · rename_i hmem
        rw [if_pos (.inr hmem)]
      · rename_i hmem
        rw [if_neg (by
          rintro (rfl | hin)
          · exact hh rfl
          · exact hmem hin)]
        rfl

lemma addTarget_ne_nil {head' : String} {c : Candidate}
    (h : ∀ head cs, (head, cs) ∈ targets → cs ≠ [])
    (hcs : (head', cs) ∈ addTarget head c targets) : cs ≠ [] := by
  induction targets with
  | nil =>
    obtain ⟨-, rfl⟩ : head' = head ∧ cs = [c] := by simpa [addTarget] using hcs
    simp
  | cons target targets ih =>
    unfold addTarget at hcs
    split at hcs
    · rcases mem_cons.mp hcs with heq | hmem
      · obtain ⟨-, rfl⟩ := mk.inj heq
        simp
      · exact h head' cs (mem_cons_of_mem _ hmem)
    · rcases mem_cons.mp hcs with heq | hmem
      · exact h head' cs (heq ▸ mem_cons_self)
      · exact ih (fun head cs hmem => h head cs (mem_cons_of_mem _ hmem)) hmem

/-- What discovery has seen is what it found, and that is in the targets. -/
structure Collected (entries : List Entry) (targets : Targets) (seen : List Seen) : Prop where
  only : ∀ e ∈ seen, ∃ head c, e = .found head c
  found : ∀ head c, .found head c ∈ seen ↔ targets.Has head c
  keys : (targets.map fst).Nodup
  head : ∀ head c, targets.Has head c → c.head = .ok head
  queued : ∀ head c, targets.Has head c → c.queued = none ∨ ∃ e ∈ entries, e.headOid = head
  nonempty : ∀ head cs, (head, cs) ∈ targets → cs ≠ []

lemma collected_nil : Collected entries [] [] where
  only := by simp
  found := fun _ _ => by simp [Targets.Has]
  keys := nodup_nil
  head := fun _ _ h => absurd h (by simp [Targets.Has])
  queued := fun _ _ h => absurd h (by simp [Targets.Has])
  nonempty := fun _ _ h => absurd h (by simp)

lemma Collected.add (h : Collected entries targets seen) {c : Candidate}
    (hhead : c.head = .ok head) (hq : c.queued = none ∨ ∃ e ∈ entries, e.headOid = head) :
    Collected entries (addTarget head c targets) (seen ++ [.found head c]) where
  only := by
    intro e he
    rcases mem_append.mp he with he | he
    · exact h.only e he
    · exact ⟨head, c, mem_singleton.mp he⟩
  found := by
    intro head' c'
    rw [has_addTarget, mem_append, h.found, mem_singleton]
    simp
  keys := by
    rw [keys_addTarget]
    split
    · exact h.keys
    · rename_i hnew
      rw [nodup_append]
      exact ⟨h.keys, nodup_singleton _, fun a ha b hb hab =>
        hnew (mem_singleton.mp hb ▸ hab ▸ ha)⟩
  head := by
    intro head' c' hc
    rcases has_addTarget.mp hc with hc | ⟨rfl, rfl⟩
    · exact h.head head' c' hc
    · exact hhead
  queued := by
    intro head' c' hc
    rcases has_addTarget.mp hc with hc | ⟨rfl, rfl⟩
    · exact h.queued head' c' hc
    · exact hq
  nonempty := fun head' cs hcs => addTarget_ne_nil h.nonempty hcs

/-- What is seen of a note. -/
lemma follows_found {Q : Except Exn Unit → List Seen → Prop} {c : Candidate}
    (h : Q (.ok ()) (seen ++ [.found head c])) :
    (note (.found head c)).run.Follows watch Q seen := ⟨trivial, fun _ => h⟩

/-- The rule for a program of which nothing is seen, before another one. -/
lemma Unseen.then {x : Gate α} {f : α → Gate β} (hx : Unseen x)
    {Q : Except Exn β → List Seen → Prop} (hraise : ∀ e, Q (.error e) seen)
    (hf : ∀ a, (f a).run.Follows watch Q seen) : (x >>= f).run.Follows watch Q seen := by
  rw [follows_run_bind]
  refine (hx seen).mono ?_
  rintro (e | a) seen' rfl
  · exact hraise e
  · exact hf a

/-- Whatever has been seen of discovery was found. -/
def OnlyFound (seen : List Seen) : Prop := ∀ e ∈ seen, ∃ head c, e = .found head c

/-- The targets read so far are collected; if the reading stops, only things found were seen. -/
def Reading (entries : List Entry) : Except Exn Targets → List Seen → Prop :=
  Through (fun targets seen => Collected entries targets seen) fun _ seen => OnlyFound seen

lemma readPulls_follows (rows : List Pull) (h : Collected entries targets seen) :
    (readPulls rows targets).run.Follows watch (Reading entries) seen := by
  induction rows generalizing targets seen with
  | nil => exact h
  | cons listed rows ih =>
    refine (unseen_given _).then (fun _ => h.only) fun number => ?_
    refine (unseen_pull _).then (fun _ => h.only) fun found => ?_
    rcases hsha : found.headSha with _ | head
    · exact h.only
    · change ((note (.found head ⟨found, none⟩) >>= fun _ => readPulls rows
        (addTarget head ⟨found, none⟩ targets)) : Gate Targets).run.Follows watch _ seen
      rw [follows_run_bind]
      exact follows_found (ih (h.add (by simp [Candidate.head, hsha, field]) (.inl rfl)))

lemma readQueue_follows {before after : List Entry} (hentries : entries = before ++ after)
    (h : Collected entries targets seen) :
    (readQueue before after targets).run.Follows watch (Reading entries) seen := by
  induction after generalizing before targets seen with
  | nil => exact h
  | cons entry after ih =>
    refine (unseen_pull _).then (fun _ => h.only) fun found => ?_
    rw [follows_run_bind]
    refine follows_found (ih (by rw [hentries]; simp) (h.add ?_ (.inr ⟨entry, ?_, rfl⟩)))
    · simp [Candidate.head]
    · rw [hentries]
      simp

/-- What a tick has seen when its discovery is over. -/
def Discovered : Except Exn Discovery → List Seen → Prop
  | .ok (.complete _ entries targets), seen => Collected entries targets seen
  | _, seen => OnlyFound seen

/-- The handler of discovery adds nothing. -/
lemma orLost_follows {x : Gate Discovery} {rows : List Pull}
    (h : x.run.Follows watch Discovered seen) :
    (orLost x rows entries).run.Follows watch Discovered seen := by
  unfold orLost Gate.onFailure
  rw [follows_run_tryCatch]
  refine h.mono ?_
  rintro (e | d) seen' hd
  · cases e with
    | failure type => exact hd
    | other => exact hd
  · exact hd

lemma discover_follows (policy : Policy) : (discover policy).run.Follows watch Discovered [] := by
  have hnone : OnlyFound [] := fun _ h => absurd h (by simp)
  refine orLost_follows ((unseen_given _).then (fun _ => hnone) fun _ =>
    (unseen_pages _ _ _).then (fun _ => hnone) fun rows => orLost_follows
      (unseen_queue.then (fun _ => hnone) fun entries => orLost_follows ?_))
  rw [follows_run_bind]
  refine (readPulls_follows rows (show Collected entries [] [] from collected_nil)).mono ?_
  rintro (e | targets) seen hread
  · exact hread
  · change ((readQueue [] entries targets >>= fun targets =>
      pure (Discovery.complete rows entries targets)) : Gate Discovery).run.Follows watch _ seen
    rw [follows_run_bind]
    have hcollected : Collected entries targets seen := hread
    refine (readQueue_follows (nil_append entries).symm hcollected).mono ?_
    rintro (e | targets) seen hread
    · exact hread
    · exact hread

/-! ## Conclusions -/

variable (cfg policy)

/-- The pull request could pass: its identity is settled, and its base is known. -/
def checkable (pull : Pull) : Bool :=
  let settled : Fallible Unit := do
    let head ← field pull.headSha
    let number ← field pull.number
    validatePull cfg policy pull number head
    let _ ← dependency cfg policy pull
    let _ ← field pull.baseSha
  settled.isOk

/-- A candidate outside the queue passes only if its pull request can. -/
def Passable (c : Candidate) : Prop := c.queued = none → checkable cfg policy c.pull = true

/-- An event about that head, after discovery. -/
def Seen.About (head : String) : Seen → Prop
  | .found _ _ => False
  | .concluded head' c k => head' = head ∧ (k = .success → Passable cfg policy c)
  | .posted head' _ => head' = head
  | .shown head' _ => head' = head

/-- All that has come in is about that head. -/
def Grows (head : String) (seen seen' : List Seen) : Prop :=
  ∃ new, seen' = seen ++ new ∧ ∀ e ∈ new, e.About cfg policy head

variable {cfg policy}

lemma Grows.refl : Grows cfg policy head seen seen := ⟨[], by simp, by simp⟩

lemma Grows.trans (h : Grows cfg policy head seen seen') (h' : Grows cfg policy head seen' seen'') :
    Grows cfg policy head seen seen'' := by
  obtain ⟨new, rfl, hnew⟩ := h
  obtain ⟨new', rfl, hnew'⟩ := h'
  refine ⟨new ++ new', by simp, fun e he => ?_⟩
  rcases mem_append.mp he with he | he
  · exact hnew e he
  · exact hnew' e he

lemma Grows.one {e : Seen} (he : e.About cfg policy head) :
    Grows cfg policy head seen (seen ++ [e]) :=
  ⟨[e], rfl, fun _ he' => mem_singleton.mp he' ▸ he⟩

lemma Grows.mem (h : Grows cfg policy head seen seen') {e : Seen} (he : e ∈ seen) : e ∈ seen' := by
  obtain ⟨new, rfl, -⟩ := h
  exact mem_append_left _ he

/-- What is about other heads, or was found, was there before. -/
lemma Grows.old (h : Grows cfg policy head seen seen') {e : Seen} (he : e ∈ seen')
    (hnot : ¬e.About cfg policy head) :
    e ∈ seen := by
  obtain ⟨new, rfl, hnew⟩ := h
  rcases mem_append.mp he with he | he
  · exact he
  · exact absurd (hnew e he) hnot

/-- The rule for a given result, before another program. -/
lemma given_then {x : Fallible α} {f : α → Gate β}
    {Q : Except Exn β → List Seen → Prop}
    (hraise : ∀ e, x = .error e → Q (.error (.failure e)) seen)
    (hf : ∀ a, x = .ok a → (f a).run.Follows watch Q seen) :
    (given x >>= f).run.Follows watch Q seen := by
  rcases hx : x with e | a
  · exact hraise e hx
  · exact hf a hx

/-- The last look accepts a pull request only with a base. -/
lemma base_of_settle_ok {p latest : Pull} {approved : Option Approval}
    (h : (settle cfg policy p latest approved).2 = .ok ()) : ∃ base,
      field p.baseSha = .ok base := by
  have hunmoved : unmoved p latest = .ok () := by
    unfold settle at h
    split at h
    · simp at h
    · split at h
      · exact h
      · split at h
        · simp at h
        · simp at h
        · exact h
  obtain ⟨user, -, h⟩ := except_bind_eq_ok.mp hunmoved
  obtain ⟨user', -, h⟩ := except_bind_eq_ok.mp h
  obtain ⟨_, -, h⟩ := except_bind_eq_ok.mp h
  obtain ⟨base', -, h⟩ := except_bind_eq_ok.mp h
  obtain ⟨base, hbase, -⟩ := except_bind_eq_ok.mp h
  exact ⟨base, hbase⟩

/-- A last look that raises is not passed over. -/
lemma settled_follows (number : Int) (latest : Pull) (approved : Option Approval) (held : Bool)
    (e : String) : (settled number latest approved held (.error e)).run.Follows watch
      (Through (fun _ _ => False) fun _ seen' => seen' = seen) seen := by
  unfold settled
  dsimp only
  split
  · rfl
  · split
    · exact (unseen_safeAudit _).then (fun _ => rfl) fun _ => rfl
    · rfl

lemma revalidate_follows (c : Candidate) (approved : Option Approval) :
    (revalidate cfg policy c approved).run.Follows watch
      (Through (fun _ seen' => seen' = seen ∧ ∃ base, field c.pull.baseSha = .ok base)
        fun _ seen' => seen' = seen) seen := by
  refine (unseen_rereadQueue _).then (fun _ => rfl) fun _ => (unseen_given _).then (fun _ => rfl)
    fun number => (unseen_pull _).then (fun _ => rfl) fun latest => ?_
  rcases hsettle : (settle cfg policy c.pull latest approved).2 with e | _
  · refine (settled_follows _ _ _ _ e).mono ?_
    rintro (e | _) seen' h
    · exact h
    · exact absurd h id
  · exact ⟨rfl, base_of_settle_ok hsettle⟩

/-- What `evaluate` has established of a pull request it lets through. -/
def Identified (cfg : Config) (policy : Policy) (pull : Pull) : Prop :=
  ∃ head number b, field pull.headSha = .ok head ∧ field pull.number = .ok number ∧
    validatePull cfg policy pull number head = .ok () ∧ dependency cfg policy pull = .ok b

lemma checkable_iff {pull : Pull} : checkable cfg policy pull = true ↔
    Identified cfg policy pull ∧ ∃ base, field pull.baseSha = .ok base := by
  unfold checkable
  constructor
  · intro h
    generalize hx : (do
      let head ← field pull.headSha
      let number ← field pull.number
      validatePull cfg policy pull number head
      let _ ← dependency cfg policy pull
      let _ ← field pull.baseSha : Fallible Unit) = x at h
    rcases x with e | _
    · simp [Except.isOk, Except.toBool] at h
    · obtain ⟨head, hhead, hx⟩ := except_bind_eq_ok.mp hx
      obtain ⟨number, hnumber, hx⟩ := except_bind_eq_ok.mp hx
      obtain ⟨_, hvalid, hx⟩ := except_bind_eq_ok.mp hx
      obtain ⟨b, hdep, hx⟩ := except_bind_eq_ok.mp hx
      obtain ⟨base, hbase, -⟩ := except_bind_eq_ok.mp hx
      exact ⟨⟨head, number, b, hhead, hnumber, hvalid, hdep⟩, base, hbase⟩
  · rintro ⟨⟨head, number, b, hhead, hnumber, hvalid, hdep⟩, base, hbase⟩
    rw [hhead, hdep, hbase, hnumber]
    change (validatePull cfg policy pull number head >>= _ : Fallible Unit).isOk = true
    rw [hvalid]
    rfl

lemma evaluate_follows (p : Pull) (entry : Option Entry) :
    (evaluate cfg policy p entry).run.Follows watch
      (Through (fun _ seen' => seen' = seen ∧ Identified cfg policy p) fun _ seen' => seen' = seen)
      seen := by
  refine given_then (fun _ _ => rfl) fun head hhead => ?_
  refine given_then (fun _ _ => rfl) fun number hnumber => ?_
  refine given_then (fun _ _ => rfl) fun _ hvalid => ?_
  refine given_then (fun _ _ => rfl) fun b hdep => ?_
  have hid : Identified cfg policy p := ⟨head, number, b, hhead, hnumber, hvalid, hdep⟩
  split
  · exact (unseen_evidence _ _).then (fun _ => rfl) fun _ => ⟨rfl, hid⟩
  · exact ⟨rfl, hid⟩

/-- A candidate that is assessed without an exception is passable. -/
lemma assess_follows (c : Candidate) : (assess cfg policy c).run.Follows watch
      (Through (fun _ seen' => seen' = seen ∧ Passable cfg policy c) fun _ seen' => seen' = seen)
      seen := by
  rcases hq : c.queued with _ | entries
  · have hexamine : examine cfg policy c = evaluate cfg policy c.pull none := by
      unfold examine
      rw [hq]
    unfold assess
    rw [hexamine, follows_run_bind]
    refine (evaluate_follows c.pull none).mono ?_
    rintro (e | p) seen' h
    · exact h
    · obtain ⟨rfl, hid⟩ := h
      rw [through_ok, follows_run_bind]
      refine (revalidate_follows c p.2).mono ?_
      rintro (e | _) seen' h
      · exact h
      · obtain ⟨rfl, hbase⟩ := h
        exact ⟨rfl, fun _ => checkable_iff.mpr ⟨hid, hbase⟩⟩
  · refine (unseen_assess c seen).mono ?_
    rintro (e | reason) _ rfl
    · rfl
    · exact ⟨rfl, fun hnone => absurd (hq ▸ hnone) (by simp)⟩

variable {results : Results}

/-- A candidate is concluded, or an exception that is no failure passes. -/
lemma check_follows {c : Candidate} (hc : c.head = .ok head) :
    (check cfg policy c results).run.Follows watch
      (Through (fun results' seen' => ∃ k reason, seen' = seen ++ [.concluded head c k] ∧
          (k = .success → Passable cfg policy c) ∧ results' = record results head k reason)
        fun _ seen' => seen' = seen) seen := by
  unfold check
  rw [hc]
  change ((onFailure _ _ >>= fun p => _) : Gate Results).run.Follows watch _ seen
  rw [follows_run_bind]
  unfold Gate.onFailure
  rw [follows_run_tryCatch, follows_run_bind]
  refine (assess_follows c).mono ?_
  rintro (e | reason) seen' h
  · obtain rfl := h
    cases e with
    | failure type =>
      refine (unseen_safeAudit _).then (fun _ => rfl) fun _ => ?_
      exact ⟨trivial, fun _ => ⟨.failure, _, rfl, fun hk => absurd hk (by simp), rfl⟩⟩
    | other => rfl
  · obtain ⟨rfl, hpass⟩ := h
    exact ⟨trivial, fun _ => ⟨.success, _, rfl, fun _ => hpass, rfl⟩⟩

/-- A failure that was concluded is in the results. -/
def Tallied (head : String) (seen : List Seen) (results : Results) : Prop :=
  ∀ c, .concluded head c .failure ∈ seen → ∃ reason, results.lookup head = some (.failure, reason)

lemma Tallied.record (h : Tallied head seen results) (c : Candidate) (k : Conclusion)
    (reason : String) :
    Tallied head (seen ++ [.concluded head c k]) (record results head k reason) := by
  intro c' hc'
  unfold DependencyGate.record
  rcases mem_append.mp hc' with hold | hnew
  · obtain ⟨reason', hlookup⟩ := h c' hold
    split
    · rename_i hcond
      rw [hlookup] at hcond
      rcases hcond with hnone | rfl
      · simp at hnone
      · exact ⟨reason, by rw [Table.lookup_insert, if_pos rfl]⟩
    · exact ⟨reason', hlookup⟩
  · obtain ⟨-, -, hk⟩ : head = head ∧ c' = c ∧ Conclusion.failure = k := by simpa using hnew
    subst hk
    rw [if_pos (.inr rfl)]
    exact ⟨reason, by rw [Table.lookup_insert, if_pos rfl]⟩

/-- All candidates of a target are concluded, and the results tell a failure. -/
lemma checkAll_follows (hcs : ∀ c ∈ cs, c.head = .ok head)
    (ht : Tallied head seen results) : (checkAll cfg policy cs results).run.Follows watch
      (Through (fun results' seen' => Grows cfg policy head seen seen' ∧
        Tallied head seen' results' ∧
          ∀ c ∈ cs, ∃ k, .concluded head c k ∈ seen')
        fun _ seen' => Grows cfg policy head seen seen') seen := by
  induction cs generalizing results seen with
  | nil => exact ⟨.refl, ht, by simp⟩
  | cons c cs ih =>
    unfold checkAll
    rw [follows_run_bind]
    refine (check_follows (hcs c mem_cons_self)).mono ?_
    rintro (e | results') seen' hchecked
    · obtain rfl := hchecked
      exact Grows.refl
    · obtain ⟨k, reason, rfl, hpass, rfl⟩ := hchecked
      have hone : Grows cfg policy head seen (seen ++ [.concluded head c k]) := .one ⟨rfl, hpass⟩
      refine (ih (fun c hc => hcs c (mem_cons_of_mem _ hc)) (ht.record c k reason)).mono ?_
      rintro (e | results'') seen'' hrest
      · exact hone.trans hrest
      · obtain ⟨hgrows, htally, hall⟩ := hrest
        refine ⟨hone.trans hgrows, htally, fun c' hc' => ?_⟩
        rcases mem_cons.mp hc' with rfl | hc'
        · exact ⟨k, hgrows.mem (by simp)⟩
        · exact hall c' hc'

/-! ## Posts -/

/-- What `already_published` has seen when it answers: nothing, or an inventory. -/
def Asked (cfg : Config) (head : String) (k : Conclusion) (matching : Bool)
    (new : List Seen) : Prop :=
  matching = false ∧ new = [] ∨ ∃ body, new = [.shown head body] ∧
    (matching = true → ∃ appId ∈ cfg.appId, body.latestIs appId head k = true)

/-- How a publication goes: it is superfluous, a check run is posted, or it is stopped. -/
inductive Publication (cfg : Config) (head : String) (k : Conclusion) :
    Except Exn Unit → List Seen → Prop where
  | superfluous {new : List Seen} : Asked cfg head k true new → Publication cfg head k (.ok ()) new
  | posted {matching : Bool} {new : List Seen} {k' : Conclusion} {a : Except Exn Unit} :
      Asked cfg head k matching new → k' = k ∨ k' = .failure →
      Publication cfg head k a (new ++ [.posted head k'])
  | stopped : Publication cfg head k (.error .other) []

variable {k : Conclusion}

lemma Asked.about {matching : Bool} (h : Asked cfg head k matching new) :
    ∀ e ∈ new, ∃ body, e = .shown head body := by
  rcases h with ⟨-, rfl⟩ | ⟨body, rfl, -⟩
  · exact by simp
  · exact fun e he => ⟨body, mem_singleton.mp he⟩

lemma alreadyPublished_follows : (alreadyPublished cfg head k).run.Follows watch
      (Through (fun matching seen' => ∃ new, seen' = seen ++ new ∧ Asked cfg head k matching new)
        fun e seen' => e = .other ∧ seen' = seen) seen := by
  have hfalse : ∃ new, seen = seen ++ new ∧ Asked cfg head k false new :=
    ⟨[], by simp, .inl ⟨rfl, rfl⟩⟩
  unfold alreadyPublished
  split
  · exact hfalse
  · rename_i appId hid
    unfold Gate.onFailure
    rw [follows_run_tryCatch, follows_run_bind]
    refine ⟨trivial, ?_⟩
    rintro (e | body)
    · change Through _ _ (Except.error e) (seen ++ [])
      rw [append_nil]
      cases e with
      | failure type => exact hfalse
      | other => exact ⟨rfl, rfl⟩
    · exact ⟨_, rfl, .inr ⟨body, rfl, fun hlatest => ⟨appId, hid, hlatest⟩⟩⟩

lemma postCheck_follows (hk : k = .success → AllPassed seen head) (reason : String) :
    (postCheck head k reason).run.Follows watch
      (fun _ seen' => seen' = seen ++ [.posted head k]) seen := by
  unfold postCheck
  rw [follows_run_bind]
  refine ⟨?_, fun x => ?_⟩
  · cases k with
    | success => exact hk rfl
    | failure => trivial
  · change Through _ _ x (seen ++ [.posted head k])
    rcases x with e | id
    · rfl
    · change Proc.Follows watch _ (ExceptT.run _) (seen ++ [.posted head k])
      split
      · rfl
      · split
        · rfl
        · exact unseen_safeAudit _ _

/-- A deadline raises nothing. -/
lemma late_follows (deadline : Option Int) : (late k deadline).run.Follows watch
      (Through (fun _ seen' => seen' = seen) fun _ _ => False) seen := by
  unfold late
  split
  · refine ⟨trivial, fun now => ?_⟩
    change seen ++ [] = seen
    simp
  · rfl

/-- An inventory changes nothing about what has passed. -/
lemma AllPassed.asked {matching : Bool} (h : AllPassed seen head)
    (hnew : Asked cfg head k matching new) : AllPassed (seen ++ new) head := by
  refine ⟨fun c hc => ?_, fun c hc => ?_⟩
  · rcases mem_append.mp hc with hc | hc
    · exact mem_append_left _ (h.1 c hc)
    · obtain ⟨body, hbody⟩ := hnew.about _ hc
      simp at hbody
  · rcases mem_append.mp hc with hc | hc
    · exact h.2 c hc
    · obtain ⟨body, hbody⟩ := hnew.about _ hc
      simp at hbody

lemma publish_follows (hk : k = .success → AllPassed seen head) (reason : String)
    (deadline : Option Int) : (publish cfg head k reason deadline).run.Follows watch
      (fun a seen' => ∃ new, seen' = seen ++ new ∧ Publication cfg head k a new) seen := by
  unfold publish
  rw [follows_run_bind]
  refine alreadyPublished_follows.mono ?_
  rintro (e | matching) seen' hasked
  · obtain ⟨rfl, rfl⟩ := hasked
    exact ⟨[], by simp, .stopped⟩
  · obtain ⟨new, rfl, hasked⟩ := hasked
    rw [through_ok, follows_run_bind]
    refine (late_follows deadline).mono ?_
    rintro (e | toolate) seen' hlate
    · exact absurd hlate id
    · obtain rfl := hlate
      change Proc.Follows watch _ (ExceptT.run (if toolate = true then _ else _)) _
      split
      · refine (postCheck_follows (fun h => absurd h (by simp)) _).mono ?_
        rintro a _ rfl
        exact ⟨_, append_assoc _ _ _, .posted hasked (.inr rfl)⟩
      · split
        · rename_i hmatching
          subst hmatching
          exact ⟨new, rfl, .superfluous hasked⟩
        · refine (postCheck_follows (fun h => (hk h).asked hasked) _).mono ?_
          rintro a _ rfl
          exact ⟨_, append_assoc _ _ _, .posted hasked (.inl rfl)⟩

lemma Publication.about {a : Except Exn Unit} (h : Publication cfg head k a new) :
    ∀ e ∈ new, e.About cfg policy head := by
  intro e he
  cases h with
  | superfluous hasked =>
    obtain ⟨body, rfl⟩ := hasked.about e he
    rfl
  | posted hasked _ =>
    rcases mem_append.mp he with he | he
    · obtain ⟨body, rfl⟩ := hasked.about e he
      rfl
    · rw [mem_singleton.mp he]
      rfl
  | stopped => simp at he

/-! ## All targets -/

/-- The targets that are left: all that was found on their heads is in them, and nothing of it has
been concluded. -/
structure Untouched (targets : Targets) (seen : List Seen) : Prop where
  keys : (targets.map fst).Nodup
  head : ∀ head cs, (head, cs) ∈ targets → ∀ c ∈ cs, c.head = .ok head
  found : ∀ head cs, (head, cs) ∈ targets → ∀ c, .found head c ∈ seen → c ∈ cs
  fresh : ∀ head cs, (head, cs) ∈ targets → ∀ c k, .concluded head c k ∉ seen

/-- Two entries of one key are one. -/
lemma eq_of_key (hkeys : (targets.map fst).Nodup) {cs' : List Candidate}
    (h : (head, cs) ∈ targets) (h' : (head, cs') ∈ targets) : cs = cs' := by
  have hpair := inj_on_of_nodup_map hkeys h h' rfl
  exact congrArg snd hpair

lemma Collected.untouched (h : Collected entries targets seen) : Untouched targets seen where
  keys := h.keys
  head := fun head cs hcs c hc => h.head head c ⟨cs, hcs, hc⟩
  found := by
    intro head cs hcs c hc
    obtain ⟨cs', hcs', hc'⟩ := (h.found head c).mp hc
    rwa [eq_of_key h.keys hcs hcs']
  fresh := by
    intro head cs _ c k hc
    obtain ⟨head', c', he⟩ := h.only _ hc
    simp at he

/-- What comes in about one head leaves the other targets untouched. -/
lemma Untouched.tail (h : Untouched ((head, cs) :: targets) seen)
    (hgrows : Grows cfg policy head seen seen') :
    Untouched targets seen' := by
  obtain ⟨hnew, hkeys⟩ := nodup_cons.mp h.keys
  have hne : ∀ head' cs', (head', cs') ∈ targets → head' ≠ head := by
    rintro head' cs' hmem rfl
    exact hnew (mem_map.mpr ⟨_, hmem, rfl⟩)
  refine ⟨hkeys, fun head' cs' hmem => h.head head' cs' (mem_cons_of_mem _ hmem), ?_, ?_⟩
  · intro head' cs' hmem c hc
    exact h.found head' cs' (mem_cons_of_mem _ hmem) c (hgrows.old hc (by simp [Seen.About]))
  · intro head' cs' hmem c k hc
    exact h.fresh head' cs' (mem_cons_of_mem _ hmem) c k
      (hgrows.old hc fun habout => hne head' cs' hmem habout.1)

lemma publishTarget_follows (h : Untouched ((head, cs) :: targets) seen) :
    (publishTarget cfg policy head cs).run.Follows watch
      (fun _ seen' => Grows cfg policy head seen seen')
      seen := by
  refine unseen_clock.then (fun _ => Grows.refl) fun started => ?_
  rw [follows_run_bind]
  have hfresh : Tallied head seen ∅ := fun c hc =>
    absurd hc (h.fresh head cs mem_cons_self c _)
  refine (checkAll_follows (h.head head cs mem_cons_self) hfresh).mono ?_
  rintro (e | results) seen' hchecked
  · exact hchecked
  · obtain ⟨hgrows, htally, hall⟩ := hchecked
    rcases hlookup : results.lookup head with _ | ⟨k, reason⟩
    · simp only [through_ok, hlookup]
      exact hgrows
    · have hpassed : k = .success → AllPassed seen' head := by
        rintro rfl
        have hnone : ∀ c, .concluded head c .failure ∉ seen' := by
          intro c hc
          obtain ⟨reason', hfailed⟩ := htally c hc
          rw [hlookup] at hfailed
          simp at hfailed
        refine ⟨fun c hc => ?_, hnone⟩
        have hfound := hgrows.old hc (by simp [Seen.About])
        obtain ⟨k, hk⟩ := hall c (h.found head cs mem_cons_self c hfound)
        cases k with
        | success => exact hk
        | failure => exact absurd hk (hnone c)
      simp only [through_ok, hlookup]
      refine (publish_follows hpassed reason (some (started + maxEvaluationSeconds))).mono ?_
      rintro a _ ⟨new, rfl, hnew⟩
      exact hgrows.trans ⟨new, rfl, hnew.about⟩

end Homelab.Factory.DependencyGate
