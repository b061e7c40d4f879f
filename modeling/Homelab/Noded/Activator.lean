import Mathlib.Data.List.Count
import Homelab.Lib.Run
import Homelab.Lib.Table

/-!
# The ledger of the node-local activator

A request that finds no live VM of its workload joins the workload's flight, the start of one, and
is parked until the flight is done. The ledger of `activator.go` bounds the flights, the requests
parked on one workload and the rate of new flights. `Sys` adds the calls that `ServeHTTP` has yet to
make and the times at which a join became a leader. Times are nanoseconds. What a flight hands to
its requests does not reach the ledger and is left out.

`Exact` relates the two. The ledger keeps the leaders' times of the last window (`Exact.recent`),
and every window that a new leader ends is within it.
-/

namespace Homelab.Noded.Activator

open Homelab.Lib List Function

def activatorMaxBoots : Nat := 16

def activatorMaxParked : Nat := 64

def activatorWakeMax : Nat := 30

def activatorWakeWindow : Int := 60000000000

/-- The times that still count. -/
def kept (times : List Int) (now : Int) : List Int :=
  times.filter (now - activatorWakeWindow < ·)

lemma kept_kept {now later : Int} (h : now ≤ later) (times : List Int) :
    kept (kept times now) later = kept times later := by
  unfold kept
  rw [filter_filter]
  refine filter_congr fun t _ => ?_
  by_cases ht : later - activatorWakeWindow < t
  · have : now - activatorWakeWindow < t := by omega
    simp [ht, this]
  · simp [ht]

/-- A pointer to an `activatorFlight`. -/
abbrev Flight := Nat

/-- `parkLedger` and the flights. A workload that is not in the map `parked` reads 0. -/
structure Ledger where
  boots : Int
  parked : String → Nat
  wakes : List Int
  flights : Table String Flight

namespace Ledger

variable (l : Ledger) (workload : String) (now : Int)

def park : Ledger := { l with parked := update l.parked workload (l.parked workload + 1) }

/-- Whether a slot is free, and the times after it is taken. Source: `allowWakeLocked` -/
def allowWake : Bool × List Int :=
  if activatorWakeMax ≤ (kept l.wakes now).length then (false, kept l.wakes now)
  else (true, kept l.wakes now ++ [now])

/-- The flight and whether the request leads it, or a status code; `flight` is allocated for a
leader. Source: `join` -/
def join (flight : Flight) : Except Nat (Flight × Bool) × Ledger :=
  if activatorMaxParked ≤ l.parked workload then (.error 503, l)
  else match l.flights.lookup workload with
    | some f => (.ok (f, false), l.park workload)
    | none =>
      if activatorMaxBoots ≤ l.boots then (.error 503, l)
      else
        let (allowed, wakes) := l.allowWake now
        if !allowed then (.error 503, { l with wakes })
        else (.ok (flight, true), park { l with
          wakes, flights := l.flights.insert workload flight, boots := l.boots + 1 } workload)

def unpark : Ledger :=
  let waiting := l.parked workload
  { l with parked := update l.parked workload (if waiting ≤ 1 then 0 else waiting - 1) }

def complete : Ledger := { l with flights := l.flights.erase workload, boots := l.boots - 1 }

end Ledger

/-- The ledger with the calls that are still to come. -/
structure Sys where
  ledger : Ledger
  /-- The workloads of the requests between `join` and `unpark`. -/
  parked : List String
  /-- The flights whose leaders have not completed them. -/
  aloft : List (String × Flight)
  /-- When a join became a leader. -/
  led : List Int
  clock : Int

inductive Event where
  | join (workload : String) (now : Int) (flight : Flight)
  | unpark (workload : String)
  | complete (workload : String) (flight : Flight)

namespace Sys

def start (clock : Int) : Sys := ⟨⟨0, fun _ => 0, [], ∅⟩, [], [], [], clock⟩

/-- After an answer of `join`. -/
def joined (s : Sys) (workload : String) (now : Int) : Except Nat (Flight × Bool) × Ledger → Sys
  | (.error _, l) => { s with ledger := l, clock := now }
  | (.ok (_, false), l) => { s with ledger := l, parked := workload :: s.parked, clock := now }
  | (.ok (f, true), l) => ⟨l, workload :: s.parked, (workload, f) :: s.aloft, s.led ++ [now], now⟩

def step (s : Sys) : Event → Sys
  | .join workload now flight => s.joined workload now (s.ledger.join workload now flight)
  | .unpark workload =>
    { s with ledger := s.ledger.unpark workload, parked := s.parked.erase workload }
  | .complete workload flight =>
    { s with ledger := s.ledger.complete workload, aloft := s.aloft.erase (workload, flight) }

/-- A call as `ServeHTTP` makes it: the clock does not go back, who unparks has joined and who
completes leads. -/
def Calls (s : Sys) : Event → Prop
  | .join _ now _ => s.clock ≤ now
  | .unpark workload => workload ∈ s.parked
  | .complete workload flight => (workload, flight) ∈ s.aloft

end Sys

structure Exact (s : Sys) : Prop where
  single : (s.aloft.map Prod.fst).Nodup
  flights : ∀ workload flight,
    s.ledger.flights.lookup workload = some flight ↔ (workload, flight) ∈ s.aloft
  boots : s.ledger.boots = s.aloft.length ∧ s.ledger.boots ≤ activatorMaxBoots
  parked : ∀ workload, s.ledger.parked workload = s.parked.count workload ∧
    s.ledger.parked workload ≤ activatorMaxParked
  recent : kept s.ledger.wakes s.clock = kept s.led s.clock
  /-- Of times that are all less than a window apart there are not too many. -/
  rate : ∀ p : Int → Bool, (∀ u v, p u → p v → v - activatorWakeWindow < u) →
    s.led.countP p ≤ activatorWakeMax

namespace Exact

variable {s : Sys} {workload : String} {now : Int} (h : Exact s)
include h

lemma park (hroom : ¬ activatorMaxParked ≤ s.ledger.parked workload) (other : String) :
    (s.ledger.park workload).parked other = (workload :: s.parked).count other ∧
      (s.ledger.park workload).parked other ≤ activatorMaxParked := by
  obtain ⟨hcount, hle⟩ := h.parked other
  rcases eq_or_ne other workload with rfl | hother
  · simp only [Ledger.park, update_self, count_cons_self]
    omega
  · simpa [Ledger.park, hother, hother.symm] using ⟨hcount, hle⟩

lemma join (hnow : s.clock ≤ now) (flight : Flight) :
    Exact (s.step (.join workload now flight)) := by
  have hkept : kept s.ledger.wakes now = kept s.led now := by
    rw [← kept_kept hnow, h.recent, kept_kept hnow]
  rw [Sys.step]
  fun_cases s.ledger.join workload now flight with
  | case1 | case3 => exact ⟨h.single, h.flights, h.boots, h.parked, hkept, h.rate⟩
  | case2 hroom => exact ⟨h.single, h.flights, h.boots, h.park hroom, hkept, h.rate⟩
  | case4 _ _ _ allowed wakes hwakes hbusy =>
    refine ⟨h.single, h.flights, h.boots, h.parked, ?_, h.rate⟩
    unfold Ledger.allowWake at hwakes
    split_ifs at hwakes
    · cases hwakes
      exact (kept_kept (Int.le_refl _) _).trans hkept
    · cases hwakes
      simp at hbusy
  | case5 hroom hnone hboots allowed wakes hwakes hfree =>
    have hnew : ∀ f, (workload, f) ∉ s.aloft := fun f hf => by
      simp [(h.flights workload f).mpr hf] at hnone
    unfold Ledger.allowWake at hwakes
    split_ifs at hwakes with hfull
    · cases hwakes
      simp at hfree
    cases hwakes
    refine ⟨nodup_cons.mpr ⟨by simpa using hnew, h.single⟩, fun other f => ?_, ?_, h.park hroom, ?_,
      fun p hp => ?_⟩
    · simp only [Sys.joined, Ledger.park, Table.lookup_insert, mem_cons, Prod.mk.injEq]
      split_ifs with hother
      · simp [hother, hnew, eq_comm]
      · simp [hother, h.flights]
    · have := h.boots
      simp only [Sys.joined, Ledger.park, length_cons]
      omega
    · change kept (kept s.ledger.wakes now ++ [now]) now = kept (s.led ++ [now]) now
      rw [kept, filter_append, ← kept, kept_kept (Int.le_refl _), hkept, kept, kept, filter_append]
    · simp only [Sys.joined, countP_append, countP_singleton]
      split_ifs with hin
      · -- those within a window of `now` are among the times that still count
        have : s.led.countP p ≤ (kept s.ledger.wakes now).length := by
          rw [hkept, kept, ← countP_eq_length_filter]
          exact countP_mono_left fun u _ hu => by simpa using hp u now hu hin
        omega
      · exact h.rate p hp

lemma unpark : Exact (s.step (.unpark workload)) := by
  refine ⟨h.single, h.flights, h.boots, fun other => ?_, h.recent, h.rate⟩
  obtain ⟨hcount, hle⟩ := h.parked other
  rcases eq_or_ne other workload with rfl | hother
  · simp only [Sys.step, Ledger.unpark, update_self, count_erase_self]
    split_ifs <;> omega
  · simpa [Sys.step, Ledger.unpark, hother, count_erase_of_ne] using ⟨hcount, hle⟩

lemma complete {flight : Flight} (haloft : (workload, flight) ∈ s.aloft) :
    Exact (s.step (.complete workload flight)) := by
  have hsame : ∀ f, (workload, f) ∈ s.aloft → f = flight := fun f hf =>
    Option.some.inj (((h.flights _ _).mpr hf).symm.trans ((h.flights _ _).mpr haloft))
  refine ⟨(erase_sublist.map _).nodup h.single, fun other f => ?_, ?_, h.parked, h.recent, h.rate⟩
  · simp only [Sys.step, Ledger.complete, Table.lookup_erase,
      (Nodup.of_map _ h.single).mem_erase_iff]
    split_ifs with hother
    · subst hother
      simpa using fun hne hf => hne (hsame f hf)
    · simp [hother, h.flights]
  · have := h.boots
    have hpos := length_pos_of_mem haloft
    simp only [Sys.step, Ledger.complete, length_erase_of_mem haloft]
    omega

lemma step (e : Event) (hcall : s.Calls e) : Exact (s.step e) := by
  cases e with
  | join workload now flight => exact h.join hcall flight
  | unpark workload => exact h.unpark
  | complete workload flight => exact h.complete hcall

end Exact

lemma exact_start (clock : Int) : Exact (.start clock) := by
  refine ⟨nodup_nil, ?_, ?_, ?_, rfl, ?_⟩ <;> simp [Sys.start]

/-- **The activator's ledger is exact and bounded**, whatever the order of the calls, and so is the
number of leaders in every half-open window. -/
theorem activator_ledger (clock : Int) (es : List Event)
    (h : Along Sys.step Sys.Calls (.start clock) es) : let s := run Sys.step (.start clock) es
    (s.aloft.map Prod.fst).Nodup ∧
    (s.ledger.boots = s.aloft.length ∧ s.ledger.boots ≤ activatorMaxBoots) ∧
    (∀ workload, s.ledger.parked workload = s.parked.count workload ∧
      s.ledger.parked workload ≤ activatorMaxParked) ∧
    ∀ t, (s.led.countP fun u => t ≤ u ∧ u < t + activatorWakeWindow) ≤ activatorWakeMax ∧
      (s.led.countP fun u => t < u ∧ u ≤ t + activatorWakeWindow) ≤ activatorWakeMax := by
  intro s
  have hs : Exact s := run_induction Exact (fun _ e hs he => hs.step e he) (exact_start clock) h
  refine ⟨hs.single, hs.boots, hs.parked, fun t => ⟨hs.rate _ ?_, hs.rate _ ?_⟩⟩
  all_goals
    intro u v hu hv
    simp only [decide_eq_true_eq] at hu hv
    omega

/-- The leader of two requests leaves before the other. -/
theorem activator_ledger_two :
    let es : List Event := [.join "web" 0 1, .join "web" 5 2, .complete "web" 1, .unpark "web"]
    let s := run Sys.step (.start 0) es
    Along Sys.step Sys.Calls (.start 0) es ∧ s.parked = ["web"] ∧
      s.ledger.boots = s.aloft.length ∧ s.ledger.boots ≤ activatorMaxBoots := by
  intro es s
  have hes : Along Sys.step Sys.Calls (.start 0) es := by
    refine ⟨?_, ?_, ?_, ?_, trivial⟩ <;> unfold Sys.Calls <;> decide
  exact ⟨hes, by decide, (activator_ledger 0 es hes).2.1⟩

end Homelab.Noded.Activator
