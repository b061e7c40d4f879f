import Mathlib.Data.List.DropRight
import Mathlib.Data.List.Chain

/-!
# DNS names

The names a cluster gives its objects: labels of lower-case letters, digits and hyphens, joined by
dots, each label starting and ending with a letter or a digit.

* `ObjectName` is that definition, read off the grammar.
* `Slug` is the same said of neighbouring characters (`slug_iff_objectName`): letters and digits at
  both ends and on both sides of every dot. It is decidable, closed under joining (`Slug.join`) and,
  up to the separators a cut bares, under truncation (`Slug.trim_take`).
-/

namespace Homelab.Lib.DnsName

open List Option

/-! ## Characters -/

def alnum (c : Char) : Bool := ('a' ≤ c && c ≤ 'z') || ('0' ≤ c && c ≤ '9')

def separator (c : Char) : Bool := c == '-' || c == '.'

lemma separator_iff {c : Char} : separator c = true ↔ c = '-' ∨ c = '.' := by
  simp [separator]

lemma not_alnum_of_separator {c : Char} (h : separator c = true) : alnum c = false := by
  rcases separator_iff.mp h with rfl | rfl <;> decide

lemma not_separator_of_alnum {c : Char} (h : alnum c = true) : separator c = false := by
  by_contra hs
  rw [not_alnum_of_separator (by simpa using hs)] at h
  simp at h

/-! ## Object names -/

/-- One label: letters, digits and hyphens, with a letter or a digit at both ends. -/
structure Label (l : List Char) : Prop where
  chars : ∀ c ∈ l, alnum c = true ∨ c = '-'
  first : ∃ c ∈ l.head?, alnum c = true
  last : ∃ c ∈ l.getLast?, alnum c = true

/-- Labels joined by dots. -/
inductive ObjectName : List Char → Prop where
  | label {l : List Char} : Label l → ObjectName l
  | dot {l n : List Char} : Label l → ObjectName n → ObjectName (l ++ '.' :: n)

/-! ## Slugs -/

/-- Letters, digits and separators, with a letter or a digit at both ends and on both sides of every
dot. -/
structure Slug (s : List Char) : Prop where
  chars : ∀ c ∈ s, alnum c = true ∨ separator c = true
  first : ∃ c ∈ s.head?, alnum c = true
  last : ∃ c ∈ s.getLast?, alnum c = true
  apart : s.IsChain fun a b => (a = '.' → alnum b = true) ∧ (b = '.' → alnum a = true)

instance (s : List Char) : Decidable (Slug s) :=
  decidable_of_iff
    ((s.all fun c => alnum c || separator c) = true ∧ s.head?.any alnum = true ∧
      s.getLast?.any alnum = true ∧
      s.IsChain fun a b => (a = '.' → alnum b = true) ∧ (b = '.' → alnum a = true))
    ⟨fun h => ⟨by simpa using h.1, by simpa using (any_eq_true _ _).mp h.2.1,
      by simpa using (any_eq_true _ _).mp h.2.2.1, h.2.2.2⟩,
      fun h => ⟨by simpa using h.chars, (any_eq_true _ _).mpr (by simpa using h.first),
        (any_eq_true _ _).mpr (by simpa using h.last), h.apart⟩⟩

lemma ne_dot_of_alnum {c : Char} (h : alnum c = true) : c ≠ '.' := by
  rintro rfl
  exact absurd h (by decide)

namespace Slug

variable {s t : List Char}

/-- Two slugs with a separator between them. -/
lemma join {d : Char} (hd : separator d = true) (hs : Slug s) (ht : Slug t) :
    Slug (s ++ d :: t) where
  chars := by
    intro c hc
    rcases mem_append.mp hc with hc | hc
    · exact hs.chars c hc
    · rcases mem_cons.mp hc with rfl | hc
      · exact .inr hd
      · exact ht.chars c hc
  first := by
    obtain ⟨c, hc, ha⟩ := hs.first
    exact ⟨c, mem_head?_append_of_mem_head? hc, ha⟩
  last := by
    obtain ⟨c, hc, ha⟩ := ht.last
    refine ⟨c, ?_, ha⟩
    rw [getLast?_append, getLast?_cons, hc]
    rfl
  apart := by
    obtain ⟨a, hlast, ha⟩ := hs.last
    obtain ⟨b, hfirst, hb⟩ := ht.first
    refine isChain_append.mpr ⟨hs.apart, isChain_cons.mpr ⟨?_, ht.apart⟩, ?_⟩
    · intro y hy
      obtain rfl := mem_unique hfirst hy
      exact ⟨fun _ => hb, fun hdot => absurd hdot (ne_dot_of_alnum hb)⟩
    · intro x hx y _
      obtain rfl := mem_unique hlast hx
      exact ⟨fun hdot => absurd hdot (ne_dot_of_alnum ha), fun _ => ha⟩

/-- What stands before and after a dot of a slug are slugs. -/
lemma split (h : Slug (s ++ '.' :: t)) : Slug s ∧ Slug t := by
  obtain ⟨hs, htail, hmeet⟩ := isChain_append.mp h.apart
  obtain ⟨hnext, ht⟩ := isChain_cons.mp htail
  obtain ⟨a, ha, halnum⟩ := h.first
  obtain ⟨b, hb, hblnum⟩ := h.last
  have hsne : s ≠ [] := by
    rintro rfl
    rw [nil_append, head?_cons, mem_some_iff] at ha
    exact ne_dot_of_alnum halnum ha.symm
  have htne : t ≠ [] := by
    rintro rfl
    rw [getLast?_append, getLast?_singleton, some_or, mem_some_iff] at hb
    exact ne_dot_of_alnum hblnum hb.symm
  have hslast := getLast_mem_getLast? hsne
  have htfirst := head_mem_head? htne
  refine ⟨⟨fun c hc => h.chars c (by simp [hc]), ?_, ?_, hs⟩,
    ⟨fun c hc => h.chars c (by simp [hc]), ?_, ?_, ht⟩⟩
  · exact ⟨a, by rwa [head?_append_of_ne_nil _ hsne] at ha, halnum⟩
  · exact ⟨_, hslast, (hmeet _ hslast '.' (by simp)).2 rfl⟩
  · exact ⟨_, htfirst, (hnext _ htfirst).1 rfl⟩
  · refine ⟨b, ?_, hblnum⟩
    rwa [getLast?_append, getLast?_cons_of_ne_nil htne,
      getLast?_eq_some_getLast htne, some_or,
      ← getLast?_eq_some_getLast htne] at hb

/-- A slug without dots is one label. -/
lemma label (h : Slug s) (hdot : '.' ∉ s) : Label s where
  chars := by
    intro c hc
    rcases h.chars c hc with ha | hs
    · exact .inl ha
    · rcases separator_iff.mp hs with rfl | rfl
      · exact .inr rfl
      · exact absurd hc hdot
  first := h.first
  last := h.last

lemma objectName (h : Slug s) : ObjectName s := by
  -- on the length: the part after the first dot is a shorter slug
  induction hn : s.length using Nat.strong_induction_on generalizing s with
  | _ n ih =>
    by_cases hdot : '.' ∈ s
    · obtain ⟨l, r, rfl, hl⟩ := eq_append_cons_of_mem hdot
      obtain ⟨hsl, hsr⟩ := h.split
      refine .dot (hsl.label hl) (ih r.length ?_ hsr rfl)
      rw [← hn, length_append, length_cons]
      omega
    · exact .label (h.label hdot)

/-- A slug ends in no separator. -/
lemma rdropWhile_separator (h : Slug s) : s.rdropWhile separator = s := by
  obtain ⟨c, hc, ha⟩ := h.last
  rw [rdropWhile_eq_self_iff]
  intro hne
  rw [mem_def, getLast?_eq_some_getLast hne] at hc
  rw [some.inj hc, not_separator_of_alnum ha]
  simp

/-- Nor does it start with one, however it goes on. -/
lemma dropWhile_separator (h : Slug s) (t : List Char) : (s ++ t).dropWhile separator = s ++ t := by
  obtain ⟨c, hc, ha⟩ := h.first
  obtain ⟨rest, rfl⟩ := head?_eq_some_iff.mp hc
  rw [cons_append, dropWhile_cons_of_neg]
  rw [not_separator_of_alnum ha]
  simp

/-- Cut a slug and drop the separators the cut has bared: what is left is a slug. -/
lemma trim_take (h : Slug s) {n : Nat} (hn : 0 < n) : Slug ((s.take n).rdropWhile separator) := by
  have hpre : (s.take n).rdropWhile separator <+: s :=
    (List.rdropWhile_prefix _ _).trans (List.take_prefix _ _)
  obtain ⟨c, hc, ha⟩ := h.first
  have hne : (s.take n).rdropWhile separator ≠ [] := by
    intro hnil
    have hmem : c ∈ s.take n := by
      apply mem_of_mem_head?
      rwa [head?_take, if_neg (by omega)]
    have hsep := rdropWhile_eq_nil_iff.mp hnil c hmem
    rw [not_separator_of_alnum ha] at hsep
    simp at hsep
  refine ⟨fun c hc => h.chars c (hpre.subset hc), ⟨c, ?_, ha⟩,
    ⟨_, getLast_mem_getLast? hne, ?_⟩, h.apart.prefix hpre⟩
  · obtain ⟨rest, hrest⟩ := hpre
    rwa [← hrest, head?_append_of_ne_nil _ hne] at hc
  · have hlast := rdropWhile_last_not separator (s.take n) hne
    exact (h.chars _ (hpre.subset (getLast_mem hne))).resolve_right hlast

end Slug

lemma Label.slug {l : List Char} (h : Label l) : Slug l where
  chars := by
    intro c hc
    rcases h.chars c hc with ha | rfl
    · exact .inl ha
    · exact .inr (by decide)
  first := h.first
  last := h.last
  apart := by
    have hdot : ∀ c ∈ l, c ≠ '.' := by
      intro c hc
      rcases h.chars c hc with ha | rfl
      · exact ne_dot_of_alnum ha
      · decide
    refine List.Pairwise.isChain (pairwise_of_forall_mem_list fun a ha b hb => ?_)
    exact ⟨fun hd => absurd hd (hdot a ha), fun hd => absurd hd (hdot b hb)⟩

/-- **The slugs are the object names.** -/
theorem slug_iff_objectName {s : List Char} : Slug s ↔ ObjectName s := by
  refine ⟨Slug.objectName, fun h => ?_⟩
  induction h with
  | label hl => exact hl.slug
  | dot hl _ ih => exact hl.slug.join (by decide) ih

instance (s : List Char) : Decidable (ObjectName s) := decidable_of_iff (Slug s) slug_iff_objectName

end Homelab.Lib.DnsName
