/-
# The choice of an entry

`EntryBalancer` takes the entry with the least live load in the zone of a backend, or the entry
that the user has. Ties are broken by a hash of the user and the entry.
-/

import Mathlib.Data.List.MinMax
import Mathlib.Data.Prod.Lex
import VpnControl.Fleet.Pool

namespace VpnControl.Fleet

open List

open Billing (Uuid Time seconds)

/-- `_is_entry_usable`, with `ENTRY_HEARTBEAT_STALE_SEC`. -/
def isEntryUsable (now : Time) (entry : VpnNode) : Bool :=
  entry.isActive && entry.isEnabled && !entry.isDraining &&
    (entry.isVirtual || entry.agentState.all fun agent =>
      agent.isHealthy && agent.lastSeenAt.any (now - seconds 90 ≤ ·))

/-- Python's `min` with a key: the first of the least. -/
def firstMin [LinearOrder κ] (key : α → κ) (items : List α) : Option α :=
  items.find? fun item => ∀ other ∈ items, key item ≤ key other

/-- The entries among which `select_entry_for_backend` chooses. -/
def entryCandidates (now : Time) (current : Option VpnNode) (zone : List VpnNode) : List VpnNode :=
  let all := zone ++ (current.filter fun entry => isEntryUsable now entry ∧ entry ∉ zone).toList
  (all.filter fun entry => current.all fun required => entry.role = required.role).filter
    (isEntryUsable now)

/-- `select_entry_for_backend` at one instant, in which the tie-break is a function of the id. -/
def selectEntryForBackend (settings : EntrySettings) (tiebreak : Uuid → ℕ) (now : Time)
    (backend : VpnNode) (current : Option VpnNode) (entriesByZone : String → List VpnNode)
    (loads : Uuid → Option ℤ) : Option VpnNode :=
  match entryCandidates now current
    (entriesByZone (settings.effectiveZone backend.zone backend.region)) with
  | [] => current.filter (isEntryUsable now)
  | candidates => firstMin (fun entry => toLex ((loads entry.id).getD 0, tiebreak entry.id)) candidates

/-- A usable entry of the zone or the present one, with the role of the present one. -/
def IsCandidate (now : Time) (current : Option VpnNode) (zone : List VpnNode) (entry : VpnNode) :
    Prop :=
  (entry ∈ zone ∨ current = some entry) ∧ isEntryUsable now entry ∧
    ∀ required, current = some required → entry.role = required.role

variable {now : Time} {current : Option VpnNode} {zone : List VpnNode} {entry : VpnNode}

theorem mem_entryCandidates :
    entry ∈ entryCandidates now current zone ↔ IsCandidate now current zone entry := by
  cases current with
  | none => simp [entryCandidates, IsCandidate]
  | some required =>
    simp only [entryCandidates, IsCandidate, mem_filter, mem_append, Option.mem_toList,
      Option.filter_eq_some_iff, Option.all_some, decide_eq_true_eq, Option.some.injEq]
    grind

theorem entryCandidates_filter (hgone : current ≠ some gone) :
    entryCandidates now current (zone.filter (· ≠ gone)) =
      (entryCandidates now current zone).filter (· ≠ gone) := by
  cases current with
  | none => simp [entryCandidates, filter_filter, Bool.and_comm]
  | some required =>
    have hne : required ≠ gone := fun h => hgone (h ▸ rfl)
    by_cases hin : isEntryUsable now required ∧ required ∉ zone <;>
      simp [entryCandidates, Option.filter, hin, hne, filter_filter, Bool.and_comm,
        Bool.and_left_comm, Bool.and_assoc]

section Min

variable [LinearOrder κ] {key : α → κ} {items : List α} {least : α}

theorem firstMin_eq_some (h : firstMin key items = some least) :
    least ∈ items ∧ ∀ other ∈ items, key least ≤ key other :=
  ⟨mem_of_find?_eq_some h, by simpa using find?_some h⟩

theorem firstMin_eq_none (h : firstMin key items = none) : items = [] := by
  by_contra hne
  obtain ⟨least, hleast⟩ := Option.ne_none_iff_exists'.mp (mt (argmin_eq_none (f := key)).mp hne)
  exact find?_eq_none.mp h least (argmin_mem hleast)
    (decide_eq_true fun other hother => le_of_mem_argmin hother hleast)

/-- The others do not matter. -/
theorem firstMin_filter (h : firstMin key items = some least) (hp : p least) :
    firstMin key (items.filter p) = some least := by
  have hleast := (firstMin_eq_some h).2
  obtain ⟨-, before, after, rfl, hbefore⟩ := find?_eq_some_iff_append.mp h
  refine find?_eq_some_iff_append.mpr
    ⟨?_, before.filter p, after.filter p, by simp [hp], fun earlier hearlier => ?_⟩
  · exact decide_eq_true fun other hother => hleast other (mem_of_mem_filter hother)
  · -- an earlier one that is least among those that stay is least among all
    have hnot := hbefore earlier (mem_of_mem_filter hearlier)
    rw [Bool.not_eq_true', decide_eq_false_iff_not] at hnot ⊢
    intro hmin
    have hle := hmin least (by simp [hp])
    exact hnot fun other hother => hle.trans (hleast other hother)

end Min

/-- The answer without candidates is never needed. -/
theorem selectEntryForBackend_eq : selectEntryForBackend settings tiebreak now backend current
      entriesByZone loads =
    firstMin (fun entry => toLex ((loads entry.id).getD 0, tiebreak entry.id)) (entryCandidates now
      current (entriesByZone (settings.effectiveZone backend.zone backend.region))) := by
  unfold selectEntryForBackend
  split
  · rename_i hnone
    rw [hnone]
    refine Option.filter_eq_none_iff.mpr fun entry hentry husable => ?_
    refine not_mem_nil (hnone ▸ mem_entryCandidates.mpr ⟨.inr hentry, husable, ?_⟩)
    exact fun required hrequired => by rw [Option.mem_unique hentry hrequired]
  · rfl

/-- **Entry balancing is minimal and stable.** -/
theorem selectEntryForBackend_least (settings : EntrySettings) (tiebreak : Uuid → ℕ) (now : Time)
    (backend : VpnNode) (current : Option VpnNode) (entriesByZone : String → List VpnNode)
    (loads : Uuid → Option ℤ) :
    let select := fun entriesByZone =>
      selectEntryForBackend settings tiebreak now backend current entriesByZone loads
    let IsCandidate := IsCandidate now current
      (entriesByZone (settings.effectiveZone backend.zone backend.region))
    (match select entriesByZone with
      | some entry => IsCandidate entry ∧
        ∀ other, IsCandidate other → (loads entry.id).getD 0 ≤ (loads other.id).getD 0
      | none => ∀ entry, ¬ IsCandidate entry) ∧
    ∀ gone, select entriesByZone ≠ some gone → current ≠ some gone →
      select (fun zone => (entriesByZone zone).filter (· ≠ gone)) = select entriesByZone := by
  simp only [selectEntryForBackend_eq, ← mem_entryCandidates]
  generalize entriesByZone (settings.effectiveZone backend.zone backend.region) = zone
  refine ⟨?_, fun gone hgone hcurrent => ?_⟩
  · split
    · rename_i entry hentry
      obtain ⟨hmem, hleast⟩ := firstMin_eq_some hentry
      refine ⟨hmem, fun other hother => ?_⟩
      exact Prod.Lex.monotone_fst _ _ (hleast other hother)
    · rename_i hnone
      simp [firstMin_eq_none hnone]
  · rw [entryCandidates_filter hcurrent]
    generalize (fun entry : VpnNode => toLex ((loads entry.id).getD 0, tiebreak entry.id)) = key at *
    cases hleast : firstMin key (entryCandidates now current zone) with
    | none => rw [firstMin_eq_none hleast]; rfl
    | some least => exact firstMin_filter hleast (decide_eq_true fun h => hgone (h ▸ hleast))

end VpnControl.Fleet
