import Homelab.OciModelCache.Gate

/-!
# One cache for each model

`ModelCacheName` slugs a reference: case is dropped, and `/`, `_` and the colon before the file
become hyphens. A cache that is found under the name is used as it is. So the cache a volume gets is
of its own model (`own_cache_used`) as long as

* every reference reads as an object name (`HfRef.reading`) and no two short ones read the same;
* hashes of different references differ, and no short reference ends in the hash of a long one.

The invariant of the run (`Owned`) says of every cache which reference it was made for.
-/

namespace Homelab.OciModelCache

open Homelab.Lib Homelab.Lib.DnsName List

/-! ## How a reference reads -/

def fold (c : Char) : Char := if c = '/' ∨ c = '_' then '-' else c.toLower

/-- A reference without case, with hyphens for slashes, underscores and the colon. -/
def HfRef.reading (r : HfRef) : Text :=
  if r.file ≠ [] then r.repo.map fold ++ '-' :: r.file.map fold else r.repo.map fold

/-- The conditions on the references of a run. -/
structure Distinct (h : Digest) (refs : List HfRef) : Prop where
  named : ∀ r ∈ refs, ObjectName r.reading
  short : ∀ r ∈ refs, ∀ r' ∈ refs, r.reading.length ≤ 63 → r.reading = r'.reading → r = r'
  hashed : ∀ r ∈ refs, ∀ r' ∈ refs, 63 < r.reading.length → 63 < r'.reading.length →
    h.hex4 (hashedText r.repo r.file) = h.hex4 (hashedText r'.repo r'.file) →
    hashedText r.repo r.file = hashedText r'.repo r'.file
  foreign : ∀ r ∈ refs, ∀ r' ∈ refs, r.reading.length ≤ 63 → 63 < r'.reading.length →
    ¬ '-' :: h.hex4 (hashedText r'.repo r'.file) <:+ r.reading

/-! ## Runes -/

/-- What `ModelCacheName` puts for a rune before it sanitises: `/` is replaced in a repo, `_` in a
file. -/
def Unicode.slugRune (u : Unicode) (old c : Char) : Char := u.lower (if c = old then '-' else c)

def Plain (c : Char) : Prop := alnum c = true ∨ separator c = true

lemma ascii_of_plain {c : Char} (h : Plain c) : c.val < 128 := by
  rcases h with h | h
  · simp only [alnum, Bool.or_eq_true, Bool.and_eq_true, decide_eq_true_eq, Char.le_def] at h
    rcases h with ⟨-, h⟩ | ⟨-, h⟩
    · exact UInt32.lt_of_le_of_lt h (by decide)
    · exact UInt32.lt_of_le_of_lt h (by decide)
  · rcases separator_iff.mp h with rfl | rfl <;> decide

lemma ascii_of_plain_toLower {c : Char} (h : Plain c.toLower) : c.val < 128 := by
  unfold Char.toLower at h
  split at h
  · rename_i hupper
    exact UInt32.lt_of_le_of_lt hupper.2 (by decide)
  · exact ascii_of_plain h

lemma ascii_cases {p : Char → Prop} (h : ∀ n < 128, p (Char.ofNat n)) {c : Char}
    (hc : c.val < 128) : p c := by
  have hlt : c.toNat < 128 := by
    exact UInt32.lt_iff_toNat_lt.mp hc
  rw [← Char.ofNat_toNat c]
  exact h _ hlt

lemma plain_fold {old c : Char} (hold : old = '/' ∨ old = '_') (h : Plain (fold c)) :
    c.val < 128 ∧ (if c = old then '-' else c).val < 128 ∧
      keptRune (if c = old then '-' else c).toLower = some (fold c) := by
  have hc : c.val < 128 := by
    unfold fold at h
    split at h
    · rename_i hsep
      rcases hsep with rfl | rfl <;> decide
    · exact ascii_of_plain_toLower h
  refine ⟨hc, by split <;> first | decide | exact hc, ?_⟩
  revert h
  refine ascii_cases (p := fun c => Plain (fold c) →
    keptRune (if c = old then '-' else c).toLower = some (fold c)) ?_ hc
  unfold Plain
  rcases hold with rfl | rfl <;> decide +kernel

/-- The rune is sanitised to what it reads as, and is one byte long. -/
def KeptAs (x y : Char) : Prop := keptRune x = some y ∧ x.utf8Size = 1

lemma keptAs_slugRune (u : Unicode) {old c : Char} (hold : old = '/' ∨ old = '_')
    (h : Plain (fold c)) : KeptAs (u.slugRune old c) (fold c) := by
  obtain ⟨-, hascii, hkept⟩ := plain_fold hold h
  unfold KeptAs Unicode.slugRune
  rw [u.lower_ascii _ hascii]
  refine ⟨hkept, ?_⟩
  exact ascii_cases (p := fun c => c.toLower.utf8Size = 1) (by decide +kernel) hascii

/-! ## Texts -/

section

variable {x y : Text}

lemma byteLen_of_keptAs (h : List.Forall₂ KeptAs x y) : byteLen x = y.length := by
  induction h with
  | nil => rfl
  | cons hc _ ih =>
    unfold byteLen at ih ⊢
    rw [map_cons, sum_cons, ih, hc.2, length_cons, Nat.add_comm]

lemma filterMap_of_keptAs (h : List.Forall₂ KeptAs x y) : x.filterMap keptRune = y := by
  induction h with
  | nil => rfl
  | cons hc _ ih => rw [filterMap_cons_some hc.1, ih]

/-- On one-byte runes a cut takes as many runes as bytes. -/
lemma takeBytes_of_keptAs (h : List.Forall₂ KeptAs x y) (n : Nat) :
    List.Forall₂ KeptAs (takeBytes n x) (y.take n) := by
  induction h generalizing n with
  | nil => simp [takeBytes]
  | cons hc _ ih =>
    cases n with
    | zero => simp [takeBytes, hc.2]
    | succ n =>
      simp only [takeBytes, hc.2, Nat.le_add_left, if_true, Nat.add_sub_cancel,
        take_succ_cons]
      exact .cons hc (ih n)

lemma keptAs_map (u : Unicode) {old : Char} (hold : old = '/' ∨ old = '_') {s : Text}
    (h : ∀ c ∈ s, Plain (fold c)) : List.Forall₂ KeptAs (s.map (u.slugRune old)) (s.map fold) := by
  induction s with
  | nil => exact .nil
  | cons c s ih =>
    exact .cons (keptAs_slugRune u hold (h c mem_cons_self))
      (ih fun d hd => h d (mem_cons_of_mem _ hd))

/-- **The text that is shortened keeps every rune of the reading.** -/
theorem keptAs_slugText (u : Unicode) {r : HfRef} (h : ∀ c ∈ r.reading, Plain c) :
    List.Forall₂ KeptAs (slugText u r.repo r.file) r.reading := by
  have hslug : ∀ old s, u.toLower (replaceAll old '-' s) = s.map (u.slugRune old) := by
    intro old s
    simp [Unicode.toLower, replaceAll, Unicode.slugRune]
  unfold slugText HfRef.reading at *
  rw [hslug, hslug]
  split
  · rename_i hfile
    rw [if_pos hfile] at h
    refine rel_append (keptAs_map u (.inl rfl) fun c hc => ?_)
      (.cons ⟨by decide, by decide⟩ (keptAs_map u (.inr rfl) fun c hc => ?_))
    · exact h _ (mem_append_left _ (mem_map_of_mem hc))
    · exact h _ (mem_append_right _ (mem_cons_of_mem _ (mem_map_of_mem hc)))
  · rename_i hfile
    rw [if_neg hfile] at h
    exact keptAs_map u (.inl rfl) fun c hc => h _ (mem_map_of_mem hc)

lemma trim_of_slug (h : Slug y) : trim y = y := by
  unfold trim
  have hfront := h.dropWhile_separator []
  rw [append_nil] at hfront
  rw [hfront, h.rdropWhile_separator]

lemma trim_take_of_slug (h : Slug y) {n : Nat} (hn : 0 < n) :
    trim (y.take n) = (y.take n).rdropWhile separator := by
  obtain ⟨rest, hrest⟩ := rdropWhile_prefix separator (y.take n)
  have hfront := (h.trim_take hn).dropWhile_separator rest
  rw [hrest] at hfront
  rw [trim, hfront]

end

/-! ## Names -/

lemma digitChar_spec {d : Nat} (h : d < 16) :
    alnum (digitChar d) = true ∧ (digitChar d).utf8Size = 1 := by
  revert d
  decide +kernel

section

variable (u : Unicode) (h : Digest) {r r' : HfRef}

lemma mem_hex4 {t : Text} {c : Char} (hc : c ∈ h.hex4 t) : ∃ d < 16, c = digitChar d := by
  obtain ⟨i, -, rfl⟩ := mem_map.mp hc
  exact ⟨_, Nat.mod_lt _ (by decide), rfl⟩

lemma hex4_length (t : Text) : (h.hex4 t).length = 8 := by simp [Digest.hex4]

lemma byteLen_hex4 (t : Text) : byteLen (h.hex4 t) = 8 := by
  have hone : (h.hex4 t).map Char.utf8Size = (h.hex4 t).map fun _ => 1 := by
    apply map_congr_left
    intro c hc
    obtain ⟨d, hd, rfl⟩ := mem_hex4 h hc
    exact (digitChar_spec hd).2
  rw [byteLen, hone]
  simp [hex4_length]

lemma slug_hex4 (t : Text) : Slug (h.hex4 t) := by
  have hchars : ∀ c ∈ h.hex4 t, alnum c = true := by
    intro c hc
    obtain ⟨d, hd, rfl⟩ := mem_hex4 h hc
    exact (digitChar_spec hd).1
  have hne : h.hex4 t ≠ [] := by
    rw [← length_pos_iff, hex4_length]
    decide
  exact Label.slug
    { chars := fun c hc => .inl (hchars c hc)
      first := ⟨_, head_mem_head? hne, hchars _ (head_mem hne)⟩
      last := ⟨_, getLast_mem_getLast? hne, hchars _ (getLast_mem hne)⟩ }

variable (hr : ObjectName r.reading)
include hr

lemma modelCacheName_short (hlen : r.reading.length ≤ 63) :
    modelCacheName u h r.repo r.file = r.reading := by
  have hslug := slug_iff_objectName.mpr hr
  have hkept := keptAs_slugText u hslug.chars
  unfold modelCacheName
  dsimp only
  rw [byteLen_of_keptAs hkept, if_pos hlen, sanitizeDNS, filterMap_of_keptAs hkept,
    trim_of_slug hslug]

lemma modelCacheName_long (hlen : 63 < r.reading.length) : modelCacheName u h r.repo r.file =
      (r.reading.take 54).rdropWhile separator ++ '-' :: h.hex4 (hashedText r.repo r.file) := by
  have hslug := slug_iff_objectName.mpr hr
  have hkept := keptAs_slugText u hslug.chars
  unfold modelCacheName
  dsimp only
  rw [byteLen_of_keptAs hkept, if_neg (by omega), byteLen_hex4, sanitizeDNS,
    filterMap_of_keptAs (takeBytes_of_keptAs hkept _), trim_take_of_slug hslug (by decide)]

/-- **A name is an object name.** -/
theorem objectName_modelCacheName : ObjectName (modelCacheName u h r.repo r.file) := by
  by_cases hlen : r.reading.length ≤ 63
  · rw [modelCacheName_short u h hr hlen]
    exact hr
  · rw [modelCacheName_long u h hr (by omega)]
    have hfront := (slug_iff_objectName.mpr hr).trim_take (n := 54) (by decide)
    exact (hfront.join (by decide) (slug_hex4 h _)).objectName

/-- The colon of the hashed text ends the repo. -/
lemma hashedText_inj (hr' : ObjectName r'.reading)
    (heq : hashedText r.repo r.file = hashedText r'.repo r'.file) : r = r' := by
  have hcolon : ∀ {r : HfRef}, ObjectName r.reading → ':' ∉ r.repo := by
    intro r hr hmem
    have hread : ':' ∈ r.reading := by
      unfold HfRef.reading
      split
      · exact mem_append_left _ (mem_map.mpr ⟨':', hmem, by decide⟩)
      · exact mem_map.mpr ⟨':', hmem, by decide⟩
    exact absurd ((slug_iff_objectName.mpr hr).chars ':' hread) (by decide)
  have htake : ∀ {r : HfRef}, ObjectName r.reading →
      (hashedText r.repo r.file).takeWhile (· ≠ ':') = r.repo := by
    intro r hr
    have hkeep : ∀ c ∈ r.repo, decide (c ≠ ':') = true := by
      intro c hc
      refine decide_eq_true fun hcol => hcolon hr ?_
      rwa [hcol] at hc
    rw [hashedText, takeWhile_append_of_pos hkeep, takeWhile_cons_of_neg (by simp),
      append_nil]
  have hrepo : r.repo = r'.repo := by rw [← htake hr, heq, htake hr']
  have hfile : r.file = r'.file := by
    rw [hashedText, hashedText, hrepo] at heq
    exact (cons.inj (append_cancel_left heq)).2
  cases r
  cases r'
  exact congrArg₂ HfRef.mk hrepo hfile

omit hr in
/-- **Different references have different names.** -/
theorem Distinct.modelCacheName_inj {refs : List HfRef} (hd : Distinct h refs) (hr : r ∈ refs)
    (hr' : r' ∈ refs)
    (heq : modelCacheName u h r.repo r.file = modelCacheName u h r'.repo r'.file) : r = r' := by
  have hn := hd.named r hr
  have hn' := hd.named r' hr'
  rcases Nat.lt_or_ge 63 r.reading.length with hl | hl <;>
    rcases Nat.lt_or_ge 63 r'.reading.length with hl' | hl'
  · rw [modelCacheName_long u h hn hl, modelCacheName_long u h hn' hl'] at heq
    obtain ⟨-, hend⟩ := append_inj' heq (by simp [hex4_length])
    exact hashedText_inj hn hn' (hd.hashed r hr r' hr' hl hl' (cons.inj hend).2)
  · rw [modelCacheName_long u h hn hl, modelCacheName_short u h hn' hl'] at heq
    exact absurd (heq ▸ suffix_append _ _) (hd.foreign r' hr' r hr hl' hl)
  · rw [modelCacheName_short u h hn hl, modelCacheName_long u h hn' hl'] at heq
    exact absurd (heq.symm ▸ suffix_append _ _) (hd.foreign r hr r' hr' hl hl')
  · rw [modelCacheName_short u h hn hl, modelCacheName_short u h hn' hl'] at heq
    exact hd.short r hr r' hr' hl heq

end

/-! ## The run -/

/-- Whether someone other than the operator writes a cache. -/
def Event.byHand : Event → Bool
  | .create _ _ | .edit _ _ => true
  | _ => false

/-- The references that come in with an event. -/
def Event.refs : Event → List HfRef
  | .submit _ pod => pod.hfRefs
  | _ => []

/-- Every cache was made for one of the references, under its name; what admissions still have to
handle are such references. -/
structure Owned (env : Env) (refs : List HfRef) (s : Cluster) : Prop where
  caches : ∀ n mc, s.caches.lookup n = some mc → ∃ r ∈ refs,
    n = Cluster.modelCacheName env r ∧ mc.spec.repo = r.repo ∧ mc.spec.file = r.file
  admissions : ∀ id a, s.admissions.lookup id = some a →
    ∀ v ∈ a.todo, ∀ r, v.bind parse = some r → r ∈ refs

section

variable {env : Env} {refs : List HfRef} {s : Cluster} {e : Event}

lemma Owned.current (h : Owned env refs s) {id : PodId} {a : Admission} {r : HfRef}
    (ha : s.admissions.lookup id = some a) (hr : a.current = some r) : r ∈ refs := by
  obtain ⟨v, rest, htodo, hparse⟩ := exists_cons_of_current hr
  exact h.admissions id a ha v (htodo ▸ mem_cons_self) r hparse

lemma unensured_todo (a : Admission) : (Cluster.unensured a).todo ⊆ a.todo := by
  unfold Cluster.unensured
  split
  · exact List.Subset.refl _
  · exact List.Subset.refl _
  · exact drop_subset _ _

lemma owned_step (h : Owned env refs s) (hhand : e.byHand = false) (hin : e.refs ⊆ refs) :
    Owned env refs (s.step env e) where
  caches := by
    intro n mc' hmc'
    cases Cluster.cacheMove hmc' with
    | kept hold => exact h.caches n mc' hold
    | made hmakes _ =>
      cases hmakes with
      | byHand => simp [Event.byHand] at hhand
      | byWebhook ha hcur => exact ⟨_, h.current ha hcur, rfl, rfl, rfl⟩
    | edited _ => simp [Event.byHand] at hhand
    | stored hold _ =>
      obtain ⟨r, hr, hrest⟩ := h.caches n _ hold
      exact ⟨r, hr, hrest⟩
  admissions := by
    intro id a' ha' v hv r hr
    cases Cluster.admissionMove ha' with
    | kept hold => exact h.admissions id a' hold v hv r hr
    | started _ => exact hin (mem_filterMap.mpr ⟨v, hv, hr⟩)
    | skipped hold _ _ | used hold _ _ =>
      exact h.admissions id _ hold v (drop_subset _ _ hv) r hr
    | waited hold _ _ => exact h.admissions id _ hold v (unensured_todo _ hv) r hr

lemma owned_empty : Owned env refs .empty where
  caches := fun _ _ h => absurd h (by simp [Cluster.empty])
  admissions := fun _ _ h => absurd h (by simp [Cluster.empty])

/-- A cache that is returned for a reference is one that is there, or one made for it. -/
lemma ensured_cases {a : Admission} {n : Text} {r : HfRef} {mc : ModelCache}
    (h : s.ensured env a n r = some mc) :
    s.caches.lookup n = some mc ∨ mc = .new (webhookSpec env.cfg.registry r) := by
  unfold Cluster.ensured at h
  split at h
  · exact .inl h
  · exact .inr (Option.some.inj h).symm
  · simp at h
  · exact .inl h

end

/-- **The cache a volume gets is of its own model**, under a valid name: in every run in which
caches are written by the operator alone and whose references are distinct. -/
theorem own_cache_used {env : Env} {es : List Event} (hes : ∀ e ∈ es, e.byHand = false)
    (hd : Distinct env.cfg.digest (es.flatMap Event.refs)) {id : PodId} {a : Admission} {r : HfRef}
    {mc : ModelCache} (ha : (reach env es).admissions.lookup id = some a) (hr : a.current = some r)
    (hmc : (reach env es).ensured env a (Cluster.modelCacheName env r) r = some mc) :
    mc.spec.repo = r.repo ∧ mc.spec.file = r.file ∧ ObjectName (Cluster.modelCacheName env r) := by
  have howned : Owned env (es.flatMap Event.refs) (reach env es) :=
    run_induction (Owned env _) (fun s e hs hg => owned_step hs hg.1 hg.2) owned_empty
      (along_of_forall_mem (G := fun _ e => e.byHand = false ∧ e.refs ⊆ es.flatMap Event.refs)
        (fun e he _ => ⟨hes e he, fun r hr => mem_flatMap.mpr ⟨e, he, hr⟩⟩) _)
  have hmem := howned.current ha hr
  have hname := objectName_modelCacheName env.cfg.unicode env.cfg.digest (hd.named r hmem)
  rcases ensured_cases hmc with hfound | rfl
  · obtain ⟨r', hr', hn, hrepo, hfile⟩ := howned.caches _ mc hfound
    obtain rfl := hd.modelCacheName_inj env.cfg.unicode env.cfg.digest hmem hr' hn
    exact ⟨hrepo, hfile, hname⟩
  · exact ⟨rfl, rfl, hname⟩

def sampleVolume (v : String) : Pod := ⟨[some v.toList], [], none, none⟩

/-- A pod let in with a new cache for its one volume, then another pod submitted. -/
def twoPods (first second : String) : List Event :=
  [.submit 0 (sampleVolume first), .advance 0 false none, .advance 0 false none, .respond 0,
    .submit 1 (sampleVolume second)]

/-- The references that the documentation of `Parse` gives, one short and one hashed. -/
theorem own_cache_used_documented :
    let es :=
      twoPods "hf.co/bartowski/NousResearch_Hermes-4-14B-GGUF:NousResearch_Hermes-4-14B-IQ4_XS"
        "hf.co/bartowski/Llama-3.2-1B-Instruct-GGUF" ++ [.advance 1 false none]
    ∃ a r mc, (reach sampleEnv es).admissions.lookup 1 = some a ∧ a.current = some r ∧
      (reach sampleEnv es).ensured sampleEnv a (Cluster.modelCacheName sampleEnv r) r = some mc ∧
      mc.spec.repo = r.repo ∧ mc.spec.file = r.file ∧
      ObjectName (Cluster.modelCacheName sampleEnv r) := by
  intro es
  have hhand : (es.all fun e => !e.byHand) = true := by decide +kernel
  have hd : Distinct sampleEnv.cfg.digest (es.flatMap Event.refs) :=
    ⟨by decide +kernel, by decide +kernel, by decide +kernel, by decide +kernel⟩
  have hend : ((reach sampleEnv es).admissions.lookup 1).any (fun a => a.current.any fun r =>
      ((reach sampleEnv es).ensured sampleEnv a (Cluster.modelCacheName sampleEnv r) r).isSome) =
        true := by
    decide +kernel
  obtain ⟨a, ha, hcur⟩ := (Option.any_eq_true _ _).mp hend
  obtain ⟨r, hr, hsome⟩ := (Option.any_eq_true _ _).mp hcur
  obtain ⟨mc, hmc⟩ := Option.isSome_iff_exists.mp hsome
  refine ⟨a, r, mc, ha, hr, hmc, own_cache_used (fun e he => ?_) hd ha hr hmc⟩
  simpa using all_eq_true.mp hhand e he

/-- A file after the colon and a model with a hyphen share a name, so that the second pod gets the
cache of the first; and a reference of slashes alone has an empty name. -/
theorem other_cache_used :
    ((reach sampleEnv (twoPods "hf.co/a/b-c" "hf.co/a/b:c")).admissions.lookup 1).any (fun a =>
        a.current = some ⟨"a/b".toList, ['c']⟩ ∧
          ((reach sampleEnv (twoPods "hf.co/a/b-c" "hf.co/a/b:c")).ensured sampleEnv a
            (Cluster.modelCacheName sampleEnv ⟨"a/b".toList, ['c']⟩) ⟨"a/b".toList, ['c']⟩).any
              (fun mc => mc.spec.repo = "a/b-c".toList ∧ mc.spec.file = []) = true) = true ∧
      ((reach sampleEnv (twoPods "hf.co/a/b" "hf.co//")).admissions.lookup 1).any (fun a =>
        a.current.any fun r => ¬ObjectName (Cluster.modelCacheName sampleEnv r)) = true := by
  decide +kernel

end Homelab.OciModelCache
