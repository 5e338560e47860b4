/-
# The next run of a recurring broadcast

`_compute_next_run` looks for the next instant with the given time of day, for a weekly broadcast
on one of the given weekdays. It tries eight days from the present one on. Days are those of UTC.
-/

import Mathlib.Order.Bounds.Defs
import VpnControl.Billing.Model

namespace VpnControl.Support

open Billing (Time days seconds)

inductive RecurringCadence
  | daily
  | weekly
  deriving DecidableEq, Repr

/-- `datetime.weekday`: Monday is 0, and 1970 began on a Thursday. -/
def weekday (t : ℤ) : ℤ := (t / days 1 + 3) % 7

/-- `HH:MM` as the time since midnight. -/
def timeOfDay (hh : Fin 24) (mm : Fin 60) : ℤ := seconds ((hh * 60 + mm) * 60)

/-- `after.replace(hour=hh, minute=mm, second=0, microsecond=0)`. -/
def runBase (hh : Fin 24) (mm : Fin 60) (after : ℤ) : ℤ :=
  days (after / days 1) + timeOfDay hh mm

/-- `weekdays or [0]`. -/
def runWeekdays : Option (List (Fin 7)) → List ℤ
  | none | some [] => [0]
  | some weekdays => weekdays.map fun weekday => weekday

/-- The search of the weekly branch. -/
def weeklyRun? (base : ℤ) (weekdays : List ℤ) (after : ℤ) : Option ℕ :=
  (List.range 8).find? fun i => after < base + days i ∧ weekday (base + days i) ∈ weekdays

/-- `_compute_next_run`. -/
def computeNextRun (cadence : RecurringCadence) (hh : Fin 24) (mm : Fin 60)
    (weekdays : Option (List (Fin 7))) (after : Time) : Time :=
  let base := runBase hh mm after
  match cadence with
  | .weekly => base + days ((weeklyRun? base (runWeekdays weekdays) after).getD 7)
  | .daily => if after < base then base else base + days 1

/-- The instants at which a run is due. -/
def IsRun (cadence : RecurringCadence) (hh : Fin 24) (mm : Fin 60)
    (weekdays : Option (List (Fin 7))) (run : Time) : Prop :=
  run % days 1 = timeOfDay hh mm ∧ (cadence = .weekly → weekday run ∈ runWeekdays weekdays)

section

variable (hh : Fin 24) (mm : Fin 60) (after : ℤ)

theorem timeOfDay_bounds : 0 ≤ timeOfDay hh mm ∧ timeOfDay hh mm < days 1 := by
  unfold timeOfDay seconds days
  omega

theorem runBase_add_emod (i : ℤ) : (runBase hh mm after + days i) % days 1 = timeOfDay hh mm := by
  have hbounds := timeOfDay_bounds hh mm
  unfold runBase days at *
  omega

theorem weekday_runBase_add (i : ℤ) :
    weekday (runBase hh mm after + days i) = (after / days 1 + i + 3) % 7 := by
  have hbounds := timeOfDay_bounds hh mm
  have hday : (runBase hh mm after + days i) / days 1 = after / days 1 + i := by
    unfold runBase days at *
    omega
  rw [weekday, hday]

/-- The base lies in the day of the instant. -/
theorem lt_runBase_add : after < runBase hh mm after + days 1 := by
  have hbounds := timeOfDay_bounds hh mm
  unfold runBase days at *
  omega

/-- The runs after an instant are whole days from the base. -/
theorem exists_days {run : ℤ} (hafter : after < run) (htime : run % days 1 = timeOfDay hh mm) :
    ∃ i : ℕ, run = runBase hh mm after + days i := by
  refine ⟨(run / days 1 - after / days 1).toNat, ?_⟩
  unfold runBase days at *
  omega

theorem exists_mem_runWeekdays (weekdays : Option (List (Fin 7))) :
    ∃ wanted ∈ runWeekdays weekdays, 0 ≤ wanted ∧ wanted < 7 := by
  match weekdays with
  | none | some [] => exact ⟨0, by decide⟩
  | some (first :: rest) => exact ⟨first, by simp [runWeekdays], by omega⟩

/-- Every weekday comes up within the eight days. -/
theorem isSome_weeklyRun? (weekdays : Option (List (Fin 7))) :
    (weeklyRun? (runBase hh mm after) (runWeekdays weekdays) after).isSome := by
  obtain ⟨wanted, hmem, hwanted⟩ := exists_mem_runWeekdays weekdays
  have hnext := lt_runBase_add hh mm after
  obtain ⟨i, hlt, hlate, hday⟩ : ∃ i : ℕ, i < 8 ∧ after < runBase hh mm after + days i ∧
      weekday (runBase hh mm after + days i) = wanted := by
    simp only [weekday_runBase_add]
    generalize after / days 1 = today
    generalize runBase hh mm after = base at *
    unfold days at *
    by_cases hlate : after < base
    · exact ⟨((wanted - today - 3) % 7).toNat, by omega⟩
    · exact ⟨((wanted - today - 4) % 7).toNat + 1, by omega⟩
  exact List.find?_isSome.mpr ⟨i, List.mem_range.mpr hlt, decide_eq_true ⟨hlate, hday ▸ hmem⟩⟩

end

/-- **The next run is the earliest one**, and the search never fails. -/
theorem computeNextRun_isLeast (cadence : RecurringCadence) (hh : Fin 24) (mm : Fin 60)
    (weekdays : Option (List (Fin 7))) (after : Time) :
    IsLeast { run | after < run ∧ IsRun cadence hh mm weekdays run }
        (computeNextRun cadence hh mm weekdays after) ∧
      (weeklyRun? (runBase hh mm after) (runWeekdays weekdays) after).isSome := by
  have hsome := isSome_weeklyRun? hh mm after weekdays
  refine ⟨?_, hsome⟩
  have hemod := runBase_add_emod hh mm after
  cases cadence with
  | daily =>
    have hnext := lt_runBase_add hh mm after
    unfold computeNextRun
    dsimp only
    split
    · rename_i hlate
      refine ⟨⟨hlate, by simpa [days] using hemod 0, nofun⟩, fun run ⟨hafter, htime, _⟩ => ?_⟩
      obtain ⟨i, rfl⟩ := exists_days hh mm after hafter htime
      exact Int.le_add_of_nonneg_right (by unfold days; omega)
    · rename_i hlate
      refine ⟨⟨hnext, hemod 1, nofun⟩, fun run ⟨hafter, htime, _⟩ => ?_⟩
      obtain ⟨i, rfl⟩ := exists_days hh mm after hafter htime
      have hpos : 0 < days i := pos_of_lt_add_right ((not_lt.mp hlate).trans_lt hafter)
      exact Int.add_le_add_left (by unfold days at *; omega) _
  | weekly =>
    obtain ⟨i, hi⟩ := Option.isSome_iff_exists.mp hsome
    unfold computeNextRun
    simp only [hi, Option.getD_some]
    obtain ⟨hrun, -, hfirst⟩ := List.find?_range_eq_some.mp hi
    obtain ⟨hlate, hday⟩ := of_decide_eq_true hrun
    refine ⟨⟨hlate, hemod i, fun _ => hday⟩, fun run ⟨hafter, htime, hwanted⟩ => ?_⟩
    obtain ⟨j, rfl⟩ := exists_days hh mm after hafter htime
    have hle : i ≤ j := by
      by_contra hlt
      simpa [hafter, hwanted rfl] using hfirst j (not_le.mp hlt)
    exact Int.add_le_add_left (by unfold days; omega) _

end VpnControl.Support
