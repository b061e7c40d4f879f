import Mathlib.Algebra.BigOperators.Group.List.Basic
import Mathlib.Algebra.Order.Ring.Nat

/-!
# Splitting a memory between the expert tiers and the rest

`plan` of `plan.rs` sizes the expert tiers from a fresh figure of what is usable: it shrinks what
does not fit, with a warning, and gives up only when even the smallest working tiers do not fit.
`Sound` is what the module's own comment promises of a split and `Short` the two reasons to give up.
The amounts are numbers of bytes, without a bound; `gib` is how the texts print one.

The branch that lowers a default reserve is entered whenever the tiers come out below their floor.
A request below the floor gets there too, with memory to spare, and its reserve is raised
(`plan_raises_reserve`).
-/

namespace Homelab.OomInference

/-- What one memory's split starts from. -/
structure Request where
  /-- Usable host memory, or free VRAM. -/
  usable : Nat
  /-- Left alone for everything else. -/
  reserve : Nat
  /-- The reserve was set explicitly and is never lowered. -/
  reserveExplicit : Bool
  minReserve : Nat
  /-- An explicit size of the tiers. -/
  requested : Option Nat
  /-- Memory the model takes beside the tiers, by what takes it. -/
  outside : List (String × Nat)
  /-- The smallest working tiers, and the tiers that hold every record. -/
  floor : Nat
  useful : Nat

/-- The tiers' size, and warnings for everything shrunk to get it. -/
structure Plan where
  bytes : Nat
  reserve : Nat
  warnings : List String

variable (gib : Nat → String) (what : String) (r : Request)

namespace Request

/-- All the memory taken beside the tiers. -/
def taken : Nat := (r.outside.map Prod.snd).sum

/-- What a reserve leaves to the tiers; the subtraction saturates. -/
def room (reserve : Nat) : Nat := r.usable - (reserve + r.taken)

/-- The reserve that has to be left in any case. -/
def leastReserve : Nat := if r.reserveExplicit then r.reserve else r.minReserve

/-- The tiers' size before the floor is looked at: the request or the rest, shrunk to the rest and
capped at what the records fill. -/
def sized : Nat × List String :=
  let room := r.room r.reserve
  let (bytes, warnings) :=
    match r.requested with
    | some want =>
      if room < want then
        (room, [s!"{what}: requested {gib want} for the expert tiers but only {gib room} fits " ++
          s!"({gib r.usable} usable - {gib r.reserve} reserve - " ++
          s!"{gib r.taken} outside the tiers); " ++
          s!"using {gib room}"])
      else (want, [])
    | none => (room, [])
  if r.useful < bytes then
    (r.useful, if r.requested.isSome then warnings ++ [s!"{what}: the expert tiers need at most " ++
      s!"{gib r.useful} to hold every record; capped there"] else warnings)
  else (bytes, warnings)

/-- The text of the failure: what the smallest split needs, part by part. -/
def need : String :=
  let need := r.outside.foldl (fun need (name, b) => need ++ s!" + {gib b} for {name}")
    s!"{what}: the smallest working expert tiers need {gib r.floor}"
  need ++ s!" + {gib r.leastReserve} reserve = {gib (r.floor + r.taken + r.leastReserve)}, " ++
    s!"but only {gib r.usable} is usable"

end Request

/-- Splits one memory, `what` being "host memory" or "VRAM". -/
def plan : Except String Plan :=
  let (bytes, warnings) := r.sized gib what
  let (bytes, reserve, warnings) :=
    if bytes < r.floor ∧ ¬ r.reserveExplicit ∧ r.floor ≤ r.room r.minReserve then
      let lowered := r.usable - r.taken - r.floor
      (r.floor, lowered, warnings ++ [s!"{what}: lowered the reserve from {gib r.reserve} " ++
        s!"to {gib lowered} to fit the smallest working expert tiers ({gib r.floor})"])
    else (bytes, r.reserve, warnings)
  if bytes < r.floor then .error (r.need gib what) else .ok ⟨bytes, reserve, warnings⟩

namespace Request

/-- A split as the module describes it: working tiers that are no larger than useful, all parts
within what is usable, and a reserve between the least one and the asked one. -/
structure Sound (p : Plan) : Prop where
  floor_le : r.floor ≤ p.bytes
  le_useful : p.bytes ≤ r.useful
  fits : p.bytes + p.reserve + r.taken ≤ r.usable
  reserve_le : p.reserve ≤ r.reserve
  min_le : r.minReserve ≤ p.reserve
  explicit : r.reserveExplicit → p.reserve = r.reserve

/-- The reasons to give up: the smallest split does not fit, or the request is below it. -/
def Short : Prop :=
  r.usable < r.floor + r.taken + r.leastReserve ∨ ∃ want ∈ r.requested, want < r.floor

/-- A request below the floor comes with an explicit reserve, or with no memory to spare. -/
def Reaches : Prop := (∀ want ∈ r.requested, r.floor ≤ want) ∨ r.reserveExplicit ∨
  r.usable ≤ r.reserve + r.taken + r.floor

/-- There is a floor, or the asked reserve fits. -/
def Fits : Prop := 0 < r.floor ∨ r.reserve + r.taken ≤ r.usable

lemma sized_bytes : (r.sized gib what).1 =
    min (min (r.requested.getD (r.room r.reserve)) (r.room r.reserve)) r.useful := by
  unfold sized
  cases r.requested with
  | none => grind
  | some want => grind

/-- Within useful sizes the tiers come out below the floor for one of two reasons. -/
lemma sized_lt (hfloor : r.floor ≤ r.useful) : (r.sized gib what).1 < r.floor ↔
    r.room r.reserve < r.floor ∨ ∃ want ∈ r.requested, want < r.floor := by
  rw [sized_bytes]
  cases r.requested with
  | none => simp; omega
  | some want => simp; omega

end Request

variable {gib what r}

/-- What a plan can be: the sized tiers with the asked reserve, or the floor with what it leaves. -/
lemma plan_ok {p : Plan} (h : plan gib what r = .ok p) :
    (p.reserve = r.reserve ∧ p.bytes = (r.sized gib what).1 ∧ r.floor ≤ p.bytes) ∨
      (p.reserve = r.usable - r.taken - r.floor ∧ p.bytes = r.floor ∧
        (r.sized gib what).1 < r.floor ∧ ¬ r.reserveExplicit ∧ r.floor ≤ r.room r.minReserve) := by
  simp only [plan] at h
  split_ifs at h with hlower hshort hshort <;> cases h
  · exact .inr ⟨rfl, rfl, hlower⟩
  · exact .inl ⟨rfl, rfl, Nat.le_of_not_lt hshort⟩

lemma plan_error {e : String} (h : plan gib what r = .error e) : (r.sized gib what).1 < r.floor ∧
    (¬ r.reserveExplicit → r.room r.minReserve < r.floor) := by
  simp only [plan] at h
  split_ifs at h with hlower hshort hshort
  · exact absurd hshort (lt_irrefl r.floor)
  · exact ⟨hshort, fun hdefault => not_le.1 fun hroom => hlower ⟨hshort, hdefault, hroom⟩⟩

lemma plan_sound_of {p : Plan} (h : plan gib what r = .ok p) (hmin : r.minReserve ≤ r.reserve)
    (hfloor : r.floor ≤ r.useful) (hask : r.Reaches) (hfit : r.Fits) : r.Sound p := by
  unfold Request.Fits at hfit
  obtain ⟨hreserve, hbytes, hle⟩ | ⟨hreserve, hbytes, hlow, hdefault, hroom⟩ := plan_ok h
  · -- the asked reserve is kept, and the tiers are at most what it leaves
    have hsized := r.sized_bytes gib what
    simp only [Request.room] at hsized
    exact ⟨hle, by omega, by omega, hreserve.le, by omega, fun _ => hreserve⟩
  · -- the reserve gives way to the floor: it is no larger for it where the floor did not fit
    have hshort : r.usable ≤ r.reserve + r.taken + r.floor := by
      obtain hask | hexplicit | hshort := hask
      · obtain hlow | ⟨want, hwant, hlow⟩ := (r.sized_lt gib what hfloor).1 hlow
        · unfold Request.room at hlow
          omega
        · exact absurd (hask want hwant) (not_le.2 hlow)
      · exact absurd hexplicit hdefault
      · exact hshort
    unfold Request.room at hroom
    refine ⟨hbytes.ge, by omega, by omega, by omega, by omega, fun hexplicit => ?_⟩
    exact absurd hexplicit hdefault

lemma plan_short {e : String} (h : plan gib what r = .error e) (hfloor : r.floor ≤ r.useful) :
    r.Short := by
  obtain ⟨hlow, hleast⟩ := plan_error h
  obtain hlow | hask := (r.sized_lt gib what hfloor).1 hlow
  · refine .inl ?_
    unfold Request.leastReserve
    unfold Request.room at hlow hleast
    split_ifs with hexplicit
    · omega
    · have := hleast hexplicit
      omega
  · exact .inr hask

/-- With a request below the floor and memory to spare the default reserve is raised. -/
lemma reaches_of_sound (hfloor : r.floor ≤ r.useful) (hmin : r.minReserve ≤ r.reserve)
    (h : ∀ p, plan gib what r = .ok p → r.Sound p) : r.Reaches := by
  by_contra hnot
  simp only [Request.Reaches, not_or, not_forall, not_le] at hnot
  obtain ⟨⟨want, hwant, hlt⟩, hdefault, hspare⟩ := hnot
  have hlow := (r.sized_lt gib what hfloor).2 (.inr ⟨want, hwant, hlt⟩)
  have hroom : r.floor ≤ r.room r.minReserve := by
    unfold Request.room
    omega
  have hplan : ∃ warnings,
      plan gib what r = .ok ⟨r.floor, r.usable - r.taken - r.floor, warnings⟩ := by
    simp [plan, hlow, hdefault, hroom]
  obtain ⟨warnings, hplan⟩ := hplan
  have hraised := (h _ hplan).reserve_le
  dsimp only at hraised
  omega

/-- Without a floor the plan succeeds, and keeps a reserve that does not fit. -/
lemma fits_of_sound (h : ∀ p, plan gib what r = .ok p → r.Sound p) : r.Fits := by
  by_contra hnot
  simp only [Request.Fits, not_or, not_lt, not_le] at hnot
  obtain ⟨hfloor, hover⟩ := hnot
  have hplan : ∃ bytes warnings, plan gib what r = .ok ⟨bytes, r.reserve, warnings⟩ := by
    simp [plan, Nat.le_zero.1 hfloor]
  obtain ⟨bytes, warnings, hplan⟩ := hplan
  have hfits := (h _ hplan).fits
  dsimp only at hfits
  omega

/-- **When a plan is sound and gives up only when it must**: exactly where no request below the
floor comes with a default reserve and memory to spare, and the floor is positive or the asked
reserve fits. -/
theorem plan_sound (gib : Nat → String) (what : String) (r : Request)
    (hmin : r.minReserve ≤ r.reserve) (hfloor : r.floor ≤ r.useful) :
    ((∀ p, plan gib what r = .ok p → r.Sound p) ∧ ∀ e, plan gib what r = .error e → r.Short) ↔
      r.Reaches ∧ r.Fits := by
  constructor
  · rintro ⟨hsound, -⟩
    exact ⟨reaches_of_sound hfloor hmin hsound, fits_of_sound hsound⟩
  · rintro ⟨hask, hfit⟩
    exact ⟨fun _ h => plan_sound_of h hmin hfloor hask hfit, fun _ h => plan_short h hfloor⟩

/-- 10 usable, 12 asked as reserve and no less than 3 left of it, tiers between 2 and 70. -/
def lowReserve : Request := ⟨10, 12, false, 3, none, [("prefix checkpoints", 1)], 2, 70⟩

theorem plan_sound_lowReserve :
    (plan toString "host memory" lowReserve).toOption.map (fun p => (p.bytes, p.reserve)) =
      some (2, 7) ∧
    (∀ p, plan toString "host memory" lowReserve = .ok p → lowReserve.Sound p) ∧
      ∀ e, plan toString "host memory" lowReserve = .error e → lowReserve.Short :=
  ⟨rfl, (plan_sound toString "host memory" lowReserve (by decide) (by decide)).2
    ⟨.inl (by decide), .inl (by decide)⟩⟩

/-- A request below the floor, with memory to spare: the default reserve of 10 becomes 90. With no
floor nothing checks that the reserve fits: 20 are kept of 10. -/
theorem plan_raises_reserve :
    (plan toString "host memory" ⟨100, 10, false, 5, some 1, [], 10, 50⟩).toOption.map
      (fun p => (p.bytes, p.reserve)) = some (10, 90) ∧
    (plan toString "host memory" ⟨10, 20, false, 5, none, [], 0, 50⟩).toOption.map
      (fun p => (p.bytes, p.reserve)) = some (0, 20) :=
  ⟨rfl, rfl⟩

end Homelab.OomInference
