import Mathlib.Data.Finset.Basic
import Mathlib.Data.List.DropRight

/-!
# Cron expressions

`Embervm.Cron`: the parser of five-field expressions and the search for the next minute that one
matches. A UTC time at minute resolution is the number of minutes since 1970-01-01 00:00, so that
`DateTime.add(dt, 60, :second)` is `dt + 1`; `civil` is the proleptic Gregorian calendar.

The search looks at the `366 * 24 * 60 + 1` minutes after the given one, one by one. So its answer
is the least matching minute (`search_eq_some`), and no answer says that none of these matches
(`search_eq_none`), not that none ever does: two leap days are further apart than that.
Sources without a file name are in `cron.ex`.
-/

namespace Homelab.Embervm

/-- A compiled expression.
Source: `@type t` -/
structure Cron where
  minute : Finset Int
  hour : Finset Int
  dom : Finset Int
  month : Finset Int
  dow : Finset Int
  domStar : Bool
  dowStar : Bool
  deriving DecidableEq

namespace Cron

/-! ## Time -/

/-- Month and day of a day, counted from 1970-01-01. -/
def civil (days : Int) : Int × Int :=
  let z := days + 719468
  let doe := z % 146097
  let yoe := (doe - doe / 1460 + doe / 36524 - doe / 146096) / 365
  let doy := doe - (365 * yoe + yoe / 4 - yoe / 100)
  let mp := (5 * doy + 2) / 153
  (if mp < 10 then mp + 3 else mp - 9, doy - (153 * mp + 2) / 5 + 1)

variable (c : Char) (s : List Char) (cron : Cron) (dt : Int)

/-- The day of a minute. -/
def dayOf : Int := dt / 1440

def hourOf : Int := dt / 60 % 24

def minuteOf : Int := dt % 60

/-- The weekday, 0 for Sunday.
Source: `day_of_week/1` -/
def dayOfWeek : Int := (dayOf dt + 4) % 7

example : civil 0 = (1, 1) ∧ civil 19781 = (2, 28) ∧ civil 19782 = (2, 29) ∧ civil 19783 = (3, 1) ∧
    civil (-1) = (12, 31) := by
  decide

/-! ## Matching -/

/-- When both day fields are restricted one of them has to match, otherwise both.
Source: `day_matches?/2` -/
def dayMatches? : Bool :=
  let domOk := decide ((civil (dayOf dt)).2 ∈ cron.dom)
  let dowOk := decide (dayOfWeek dt ∈ cron.dow)
  if !cron.domStar && !cron.dowStar then domOk || dowOk else domOk && dowOk

/-- Source: `matches?/2` -/
def matches? : Bool :=
  decide (minuteOf dt ∈ cron.minute) && decide (hourOf dt ∈ cron.hour) &&
    decide ((civil (dayOf dt)).1 ∈ cron.month) && dayMatches? cron dt

/-- Source: `@max_lookahead_minutes` -/
def maxLookaheadMinutes : Nat := 366 * 24 * 60

/-- The search, with the number of minutes that may still be looked at.
Source: `search/3` -/
def search (cron : Cron) : Int → Nat → Option Int
  | _, 0 => none
  | dt, left + 1 => if matches? cron dt then some dt else search cron (dt + 1) left

/-- `none` is `{:error, :no_match}`. The guard gives up at `n > @max_lookahead_minutes`.
Source: `next/2` -/
def next (start : Int) : Option Int :=
  search cron (start + 1) (maxLookaheadMinutes + 1)

/-! ## The parser -/

/-- Why an expression is refused. -/
inductive ParseError
  | expectedFiveFields (n : Nat)
  | emptyField (spec : List Char)
  | reversedRange (spec : List Char)
  | outOfRange (n : Int)
  | notAnInt (str : List Char)
  | badStep (str : List Char)
  deriving DecidableEq, Repr

/-- The white space that `String.trim/1` removes. -/
def unicodeSpace : Bool :=
  c.toNat ∈ [0x09, 0x0A, 0x0B, 0x0C, 0x0D, 0x20, 0x85, 0xA0, 0x1680, 0x2028, 0x2029, 0x202F, 0x205F,
    0x3000] || 0x2000 ≤ c.toNat && c.toNat ≤ 0x200A

/-- The white space of the pattern `\s`. -/
def asciiSpace : Bool :=
  c.toNat ∈ [0x09, 0x0A, 0x0B, 0x0C, 0x0D, 0x20]

def trim : List Char := (s.dropWhile unicodeSpace).rdropWhile unicodeSpace

/-- `String.split(s, p, trim: true)` -/
def splitTrim (p : Char → Bool) (s : List Char) : List (List Char) :=
  (s.splitOnP p).filter (· ≠ [])

/-- `String.split(s, c, parts: 2)`: what is before the first `c`, and what is after it. -/
def splitTwo : List Char × Option (List Char) :=
  match s.span (· ≠ c) with
  | (before, []) => (before, none)
  | (before, _ :: after) => (before, some after)

/-- `Integer.parse/1` when it uses up the whole string. -/
def parseInt : Option Int :=
  let digits (s : List Char) : Option Nat :=
    if s ≠ [] ∧ s.all Char.isDigit then
      some (s.foldl (fun n c => 10 * n + (c.toNat - 48)) 0)
    else none
  match s with
  | '-' :: rest => (digits rest).map fun n => -(n : Int)
  | '+' :: rest => (digits rest).map fun n => (n : Int)
  | s => (digits s).map fun n => (n : Int)

/-- Source: `int_in/2` -/
def intIn (str : List Char) (lo hi : Int) : Except ParseError Int :=
  match parseInt str with
  | some n => if lo ≤ n ∧ n ≤ hi then .ok n else .error (.outOfRange n)
  | none => .error (.notAnInt str)

/-- Source: `positive_int/1` -/
def positiveInt (str : List Char) : Except ParseError Nat :=
  match parseInt str with
  | some n => if 0 < n then .ok n.toNat else .error (.badStep str)
  | none => .error (.badStep str)

/-- The integers from `lo` to `hi`. -/
def upTo (lo hi : Int) : List Int := (List.range (hi - lo + 1).toNat).map (lo + ·)

/-- Source: `base_range/2` -/
def baseRange (spec : List Char) (lo hi : Int) : Except ParseError (List Int) :=
  if spec = ['*'] then .ok (upTo lo hi)
  else
    match splitTwo '-' spec with
    | (a, some b) => do
      let first ← intIn a lo hi
      let last ← intIn b lo hi
      if first ≤ last then return upTo first last else throw (.reversedRange spec)
    | (a, none) => do return [← intIn a lo hi]

/-- `Enum.take_every/2` -/
def takeEvery (step : Nat) (l : List Int) : List Int :=
  (l.zipIdx.filter fun x => x.2 % step = 0).map Prod.fst

/-- Source: `term/2` -/
def term (part : List Char) (lo hi : Int) : Except ParseError (Finset Int) :=
  if part = ['*'] then .ok (upTo lo hi).toFinset
  else
    match splitTwo '/' part with
    | (base, some stepStr) => do
      let step ← positiveInt stepStr
      let range ← baseRange base lo hi
      return (takeEvery step range).toFinset
    | (base, none) => do return (← baseRange base lo hi).toFinset

/-- Source: `field/2` -/
def field (spec : List Char) (lo hi : Int) : Except ParseError (Finset Int) := do
  let set ← (splitTrim (· = ',') spec).foldlM (fun acc part => return acc ∪ (← term part lo hi)) ∅
  if set = ∅ then throw (.emptyField spec) else return set

/-- Source: `normalize_dow/1` -/
def normalizeDow (set : Finset Int) : Finset Int :=
  if 7 ∈ set then insert 0 (set.erase 7) else set

/-- Source: `parse/1` -/
def parse (expr : String) : Except ParseError Cron :=
  match splitTrim asciiSpace (trim expr.toList) with
  | [minute, hour, dom, month, dow] => do
    let m ← field minute 0 59
    let h ← field hour 0 23
    let d ← field dom 1 31
    let mo ← field month 1 12
    let w ← field dow 0 7
    return ⟨m, h, d, mo, normalizeDow w, trim dom = ['*'], trim dow = ['*']⟩
  | parts => .error (.expectedFiveFields parts.length)

/-! ## What the search finds -/

lemma search_eq_some {cron : Cron} {dt t : Int} {left : Nat} (h : search cron dt left = some t) :
    dt ≤ t ∧ t < dt + left ∧ matches? cron t = true ∧
      ∀ u, dt ≤ u → u < t → matches? cron u = false := by
  induction left generalizing dt with
  | zero => simp [search] at h
  | succ left ih =>
    rw [search] at h
    split_ifs at h with hmatch
    · obtain rfl := Option.some.inj h
      exact ⟨by omega, by omega, hmatch, fun u hu hlt => by omega⟩
    · obtain ⟨hle, hlt, ht, hleast⟩ := ih h
      refine ⟨by omega, by omega, ht, fun u hu hut => ?_⟩
      by_cases hfirst : u = dt
      · subst hfirst
        simpa using hmatch
      · exact hleast u (by omega) hut

lemma search_eq_none {cron : Cron} {dt : Int} {left : Nat} :
    search cron dt left = none ↔ ∀ u, dt ≤ u → u < dt + left → matches? cron u = false := by
  constructor
  · intro h
    induction left generalizing dt with
    | zero =>
      intro u hu hlt
      omega
    | succ left ih =>
      rw [search] at h
      by_cases hmatch : matches? cron dt = true
      · rw [if_pos hmatch] at h
        simp at h
      · rw [if_neg hmatch] at h
        intro u hu hlt
        by_cases hfirst : u = dt
        · subst hfirst
          simpa using hmatch
        · exact ih h u (by omega) (by omega)
  · intro h
    by_contra hsome
    obtain ⟨t, ht⟩ := Option.ne_none_iff_exists'.mp hsome
    obtain ⟨hle, hlt, hmatch, -⟩ := search_eq_some ht
    rw [h t hle hlt] at hmatch
    simp at hmatch

/-- **The next minute.** For every compiled expression and every minute: the answer is the least
matching minute after the given one, and there is no answer exactly if none of the minutes of the
look-ahead matches. -/
theorem next_least_in_lookahead (cron : Cron) (start : Int) :
    (∀ t, next cron start = some t → start < t ∧ matches? cron t = true ∧
      ∀ u, start < u → u < t → matches? cron u = false) ∧
    (next cron start = none ↔
      ∀ u, start < u → u ≤ start + maxLookaheadMinutes + 1 → matches? cron u = false) := by
  constructor
  · intro t ht
    obtain ⟨hle, -, hmatch, hleast⟩ := search_eq_some ht
    exact ⟨by omega, hmatch, fun u hu hut => hleast u (by omega) hut⟩
  · unfold next
    rw [search_eq_none]
    constructor
    · intro h u hu hle
      exact h u (by omega) (by push_cast; omega)
    · intro h u hu hlt
      exact h u (by omega) (by push_cast at hlt; omega)

/-- Midnight of the leap day. -/
def leapDay : Cron :=
  ⟨{0}, {0}, {29}, {2}, (upTo 0 6).toFinset, false, true⟩

/-- From 2021-03-01 on the look-ahead reaches no leap day, and the next one is 2024-02-29. -/
theorem leap_day_not_found : parse "0 0 29 2 *" = .ok leapDay ∧ next leapDay (18687 * 1440) = none ∧
      matches? leapDay (19782 * 1440) = true := by
  have hdays : ∀ k < 367, civil (18687 + (k : Nat)) ≠ (2, 29) := by decide +kernel
  refine ⟨by decide +kernel, search_eq_none.mpr fun u hu hlt => ?_, by decide +kernel⟩
  by_contra hmatch
  rw [Bool.not_eq_false] at hmatch
  have hdate : civil (dayOf u) = (2, 29) := by
    simp only [matches?, dayMatches?, leapDay, Bool.not_true, Bool.and_false, Bool.false_eq_true,
      if_false, Bool.and_eq_true, decide_eq_true_eq, Finset.mem_singleton] at hmatch
    exact Prod.ext hmatch.1.2 hmatch.2.1
  have hday : dayOf u = 18687 + ((dayOf u - 18687).toNat : Nat) := by
    unfold dayOf
    omega
  rw [hday] at hdate
  refine hdays _ ?_ hdate
  unfold dayOf maxLookaheadMinutes at *
  omega

end Cron

end Homelab.Embervm
