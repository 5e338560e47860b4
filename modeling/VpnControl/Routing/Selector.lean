/-
# The selection of routes

`RouteSelector` picks the routes of a subscription: up to two of the preferred backend, the rest
from as many other backends as possible, and at least one of another transport if there is one. It
is written for any kind of item that has a route id, a backend, an entry, a transport and a weight.
With a seed the picks are random; a draw is arbitrary here, so what is proved holds for every seed.
-/

import Mathlib.Algebra.Order.BigOperators.Group.List
import Mathlib.Data.Finset.Card
import Mathlib.Data.List.Perm.Subperm
import VpnControl.Billing.Model

namespace VpnControl.Routing

open List

open Billing (Uuid)

/-! ## Draws -/

/-- What the generator gives for one pick: `_randbelow` for a list of `n + 1` items, and
`random()`. -/
structure Draw where
  index : (n : ℕ) → Fin (n + 1)
  random : ℚ
  nonneg : 0 ≤ random
  lt_one : random < 1

/-- `itertools.accumulate`. -/
def accumulate (total : ℚ) : List ℚ → List ℚ
  | [] => []
  | weight :: rest => (total + weight) :: accumulate (total + weight) rest

/-- The index that `random.choices` takes: `bisect` in the cumulative weights without the last. -/
def choicesIndex (draw : Draw) (weights : List ℚ) : ℕ :=
  ((accumulate 0 weights).dropLast.takeWhile (· ≤ draw.random * weights.sum)).length

/-! ## The selector -/

structure RouteSelector (α : Type) where
  getBackendId : α → Uuid
  getTransportKey : α → String × String
  getRouteId : α → Uuid
  getWeight : α → ℚ := fun _ => 1
  getEntryKey : α → Option Uuid := fun _ => none

namespace RouteSelector

variable {α : Type} (S : RouteSelector α)

/-- `_weighted_pick`. There is no draw without a seed. -/
def weightedPick (draw : Option Draw) : List α → Option α
  | [] => none
  | first :: rest =>
    match draw with
    | none => some first
    | some draw =>
      let weights := (first :: rest).map fun candidate => max 0 (S.getWeight candidate)
      if weights.sum ≤ 0 then (first :: rest)[(draw.index rest.length).val]?
      else (first :: rest)[choicesIndex draw weights]?

/-- The loop of the two diverse picks: a route whose key was not used yet comes first. It gives
the picks and what is left of the pool. -/
def diversityPick {κ : Type} [DecidableEq κ] (key : α → κ) :
    ℕ → (ℕ → Option Draw) → List κ → List α → List α × List α
  | 0, _, _, pool => ([], pool)
  | limit + 1, draws, used, pool =>
    let preferred := pool.filter fun route => key route ∉ used
    match S.weightedPick (draws 0) (if preferred.isEmpty then pool else preferred) with
    | none => ([], pool)
    | some pick =>
      let next := diversityPick key limit (fun i => draws (i + 1)) (key pick :: used)
        (pool.filter fun route => S.getRouteId route ≠ S.getRouteId pick)
      (pick :: next.1, next.2)

/-- `_weighted_entry_diversity_pick`. -/
def weightedEntryDiversityPick (limit : ℕ) (draws : ℕ → Option Draw) (candidates : List α) :
    List α :=
  (S.diversityPick S.getEntryKey limit draws [] candidates).1

/-- `_select_fallback_with_backend_diversity`. -/
def selectFallbackWithBackendDiversity (limit : ℕ) (draws : ℕ → Option Draw)
    (fallback : List α) : List α × List α :=
  S.diversityPick S.getBackendId limit draws [] fallback

/-- `_ensure_transport_insurance`. -/
def ensureTransportInsurance (selected routes : List α) (preferred : Uuid) (maxRoutes : ℕ) :
    List α :=
  match selected with
  | [] | [_] => selected
  | first :: rest =>
    let transport := S.getTransportKey first
    if rest.any (S.getTransportKey · ≠ transport) then selected
    else
      let others := routes.filter fun route => S.getRouteId route ∉ selected.map S.getRouteId
      match others.filter fun route => S.getTransportKey route ≠ transport with
      | [] => selected
      | candidate :: candidates =>
        let insurance := ((candidate :: candidates).find? fun route =>
          S.getBackendId route ≠ preferred).getD candidate
        if selected.length < maxRoutes then selected ++ [insurance]
        else
          let replaced := (List.range' 1 rest.length).reverse.find? fun index =>
            selected[index]?.any (S.getTransportKey · = transport)
          selected.set (replaced.getD rest.length) insurance

/-- Add as many of the others as there is room for. -/
def fillUp (maxRoutes : ℕ) (selected others : List α) : List α :=
  if selected.length < maxRoutes then selected ++ others.take (maxRoutes - selected.length)
  else selected

/-- What is selected before the transports are looked at. -/
def selectDiverse (routes : List α) (preferred : Uuid) (maxRoutes : ℕ)
    (draws : ℕ → Option Draw) : List α :=
  let primary := routes.filter fun route => S.getBackendId route = preferred
  let fallback := routes.filter fun route => S.getBackendId route ≠ preferred
  let primaryTarget := min 2 (min (maxRoutes - 1) primary.length)
  let fallbackTarget := min (maxRoutes - primaryTarget) fallback.length
  let first := S.weightedEntryDiversityPick primaryTarget draws primary
  let second := S.selectFallbackWithBackendDiversity fallbackTarget
    (fun i => draws (first.length + i)) fallback
  let selected := first ++ second.1
  let remainder := primary.filter fun route => S.getRouteId route ∉ selected.map S.getRouteId
  (fillUp maxRoutes (fillUp maxRoutes selected remainder) second.2).take maxRoutes

/-- `select`, with the draws of a seeded generator or with none. -/
def select (routes : List α) (preferred : Uuid) (maxRoutes : ℤ) (seed : Option (ℕ → Draw)) :
    List α :=
  if maxRoutes ≤ 0 then []
  else if maxRoutes = 1 then routes.take 1
  else
    S.ensureTransportInsurance
      (S.selectDiverse routes preferred maxRoutes.toNat fun i => seed.map (· i)) routes preferred
      maxRoutes.toNat

variable {S} {routes pool selected : List α} {preferred : Uuid} {maxRoutes limit : ℕ}
  {draws : ℕ → Option Draw} {weights : List ℚ}

/-! ## Picks -/

theorem choicesIndex_lt (h : weights ≠ []) : choicesIndex draw weights < weights.length := by
  have hlength : ∀ (total : ℚ) (list : List ℚ), (accumulate total list).length = list.length := by
    intro total list
    induction list generalizing total with
    | nil => rfl
    | cons _ _ ih => simp [accumulate, ih]
  have hle := (takeWhile_sublist (· ≤ draw.random * weights.sum)
    (l := (accumulate 0 weights).dropLast)).length_le
  rw [length_dropLast, hlength] at hle
  have hpos := length_pos_iff.mpr h
  unfold choicesIndex
  omega

/-- A pick is one of the candidates, and there is one if there are candidates. -/
theorem exists_weightedPick (draw : Option Draw) (h : pool ≠ []) :
    ∃ pick ∈ pool, S.weightedPick draw pool = some pick := by
  have hget : ∀ index, index < pool.length → ∃ pick ∈ pool, pool[index]? = some pick :=
    fun index hindex => ⟨pool[index], getElem_mem hindex, getElem?_eq_getElem hindex⟩
  cases pool with
  | nil => exact absurd rfl h
  | cons first rest =>
    cases draw with
    | none => exact ⟨first, mem_cons_self, rfl⟩
    | some draw =>
      unfold weightedPick
      dsimp only
      split
      · exact hget _ (draw.index rest.length).isLt
      · exact hget _ ((choicesIndex_lt (cons_ne_nil _ _)).trans_eq (by simp))

variable (hids : (pool.map S.getRouteId).Nodup)

include hids in
/-- Taking a route out of a pool by its id takes out that route only. -/
theorem perm_cons_filter (hpick : pick ∈ pool) :
    (pick :: pool.filter fun route => S.getRouteId route ≠ S.getRouteId pick).Perm pool := by
  have hpool := hids.of_map
  refine (perm_ext_iff_of_nodup ?_ hpool).mpr fun route => ?_
  · exact nodup_cons.mpr ⟨by simp, hpool.filter _⟩
  · rw [mem_cons, List.mem_filter, decide_eq_true_iff]
    constructor
    · rintro (rfl | ⟨hroute, -⟩)
      · exact hpick
      · exact hroute
    · intro hroute
      by_cases hsame : S.getRouteId route = S.getRouteId pick
      · exact .inl (inj_on_of_nodup_map hids hroute hpick hsame)
      · exact .inr ⟨hroute, hsame⟩

section

variable {κ : Type} [DecidableEq κ] (key : α → κ) (limit : ℕ) (draws : ℕ → Option Draw) (used : List κ)

/-- A pick has a new key if there is one, and the loop goes on with the other routes. -/
theorem exists_diversityPick_succ (h : pool ≠ []) :
    ∃ pick ∈ pool, (key pick ∈ used → ∀ route ∈ pool, key route ∈ used) ∧
      S.diversityPick key (limit + 1) draws used pool =
        let next := S.diversityPick key limit (fun i => draws (i + 1)) (key pick :: used)
          (pool.filter fun route => S.getRouteId route ≠ S.getRouteId pick)
        (pick :: next.1, next.2) := by
  obtain ⟨pick, hmem, hnew, hsome⟩ : ∃ pick ∈ pool,
      (key pick ∈ used → ∀ route ∈ pool, key route ∈ used) ∧
        S.weightedPick (draws 0) (if (pool.filter fun route => key route ∉ used).isEmpty then pool
          else pool.filter fun route => key route ∉ used) = some pick := by
    split
    · rename_i hempty
      obtain ⟨pick, hpick, hsome⟩ := exists_weightedPick (S := S) (draws 0) h
      exact ⟨pick, hpick, fun _ => by simpa using hempty, hsome⟩
    · rename_i hpreferred
      rw [List.isEmpty_iff] at hpreferred
      obtain ⟨pick, hpick, hsome⟩ := exists_weightedPick (S := S) (draws 0) hpreferred
      obtain ⟨hmem, hnew⟩ := List.mem_filter.mp hpick
      exact ⟨pick, hmem, fun hused => absurd hused (of_decide_eq_true hnew), hsome⟩
  exact ⟨pick, hmem, hnew, by rw [diversityPick]; dsimp only; rw [hsome]⟩

include hids

/-- The loop splits the pool into its picks and what is left, stops at the limit only, and takes a
new key as long as there is one. -/
theorem diversityPick_spec :
    let (selected, remainder) := S.diversityPick key limit draws used pool
    (selected ++ remainder).Perm pool ∧ selected.length = min limit pool.length ∧
      (remainder = pool.filter fun route => S.getRouteId route ∉ selected.map S.getRouteId) ∧
      ((selected.map key).toFinset \ used.toFinset).card =
        min limit ((pool.map key).toFinset \ used.toFinset).card := by
  induction limit generalizing draws used pool with
  | zero => simp [diversityPick]
  | succ limit ih =>
    by_cases hnil : pool = []
    · simp [hnil, diversityPick, weightedPick]
    obtain ⟨pick, hmem, hnew, heq⟩ := exists_diversityPick_succ (S := S) key limit draws used hnil
    rw [heq]
    have hperm := perm_cons_filter hids hmem
    obtain ⟨hrest, hlength, hleft, hcard⟩ := ih (hids.sublist ((filter_sublist (p := fun route =>
      S.getRouteId route ≠ S.getRouteId pick)).map _)) (fun i => draws (i + 1)) (key pick :: used)
    refine ⟨(hrest.cons pick).trans hperm, ?_, ?_, ?_⟩
    · have hcount := hperm.length_eq
      simp only [length_cons] at hcount ⊢
      rw [hlength]
      omega
    · rw [hleft, filter_filter]
      refine filter_congr fun route _ => ?_
      rw [map_cons, ← Bool.decide_and, decide_eq_decide, mem_cons, not_or, and_comm]
    · rw [← toFinset_eq_of_perm _ _ (hperm.map key)]
      simp only [map_cons, toFinset_cons] at hcard ⊢
      by_cases hused : key pick ∈ used
      · -- no key of the pool is new
        have hold := mem_toFinset.mpr hused
        have hnone : ((pool.filter fun route => S.getRouteId route ≠ S.getRouteId pick).map
            key).toFinset \ used.toFinset = ∅ := by
          refine Finset.sdiff_eq_empty_iff_subset.mpr fun k hk => ?_
          obtain ⟨route, hroute, rfl⟩ := mem_map.mp (mem_toFinset.mp hk)
          exact mem_toFinset.mpr (hnew hused route (mem_of_mem_filter hroute))
        rw [Finset.insert_eq_of_mem hold] at hcard
        rw [Finset.insert_sdiff_of_mem _ hold, Finset.insert_sdiff_of_mem _ hold, hcard, hnone,
          Finset.card_empty, Nat.min_zero, Nat.min_zero]
      · have hinsert : ∀ keys : Finset κ, (insert (key pick) keys \ used.toFinset).card =
            (keys \ insert (key pick) used.toFinset).card + 1 := by
          intro keys
          rw [Finset.insert_sdiff_of_notMem _ (by simpa using hused), Finset.sdiff_insert,
            ← Finset.erase_insert_eq_erase, Finset.card_erase_add_one (Finset.mem_insert_self _ _)]
        rw [hinsert, hinsert, hcard]
        omega

end

/-! ## Selections -/

/-- `count` routes with different ids. -/
structure Selection (S : RouteSelector α) (routes : List α) (count : ℕ) (selected : List α) :
    Prop where
  subset : selected ⊆ routes
  nodup : (selected.map S.getRouteId).Nodup
  length : selected.length = count

theorem Selection.take {whole : List α} (h : whole.Perm routes)
    (hids : (routes.map S.getRouteId).Nodup) (count : ℕ) :
    S.Selection routes (min count routes.length) (whole.take count) where
  subset := fun _ hroute => h.subset (mem_of_mem_take hroute)
  nodup := ((h.map _).nodup_iff.mpr hids).sublist ((take_sublist count whole).map _)
  length := by rw [length_take, h.length_eq]

theorem fillUp_eq :
    fillUp maxRoutes selected others = selected ++ others.take (maxRoutes - selected.length) := by
  unfold fillUp
  split
  · rfl
  · rename_i hfull
    rw [Nat.sub_eq_zero_of_le (not_lt.mp hfull), take_zero, append_nil]

/-- Filling up takes from the front of everything there is. -/
theorem take_fillUp (rest : List α) :
    (fillUp maxRoutes (fillUp maxRoutes selected remainder) rest).take maxRoutes =
      (selected ++ (remainder ++ rest)).take maxRoutes := by
  rw [fillUp_eq, fillUp_eq]
  simp only [take_append, take_take, length_append, length_take]
  rw [append_assoc]
  congr 3 <;> omega

/-- What is left of a pool besides its picks, where the others have their picks as well. -/
theorem perm_append_remainder
    (hids : ((pool ++ others).map S.getRouteId).Nodup) (hnodup : first.Nodup)
    (hfirst : first ⊆ pool) (hsecond : second ⊆ others) :
    (first ++ pool.filter fun route =>
      S.getRouteId route ∉ (first ++ second).map S.getRouteId).Perm pool := by
  have hpool := nodup_append.mp hids.of_map
  refine (perm_ext_iff_of_nodup ?_ hpool.1).mpr fun route => ?_
  · refine nodup_append.mpr ⟨hnodup, hpool.1.filter _, ?_⟩
    rintro route hpicked other hother rfl
    have hout := of_decide_eq_true (List.mem_filter.mp hother).2
    exact hout (mem_map_of_mem (mem_append_left _ hpicked))
  · rw [mem_append, List.mem_filter, decide_eq_true_iff]
    constructor
    · rintro (hpicked | ⟨hroute, -⟩)
      · exact hfirst hpicked
      · exact hroute
    · intro hroute
      by_cases hpicked : S.getRouteId route ∈ (first ++ second).map S.getRouteId
      · obtain ⟨pick, hpick, hsame⟩ := mem_map.mp hpicked
        rcases mem_append.mp hpick with hin | hother
        · obtain rfl := inj_on_of_nodup_map hids (mem_append_left _ (hfirst hin))
            (mem_append_left _ hroute) hsame
          exact .inl hin
        · have hsame := inj_on_of_nodup_map hids (mem_append_right _ (hsecond hother))
            (mem_append_left _ hroute) hsame
          exact absurd hsame.symm (hpool.2.2 route hroute pick (hsecond hother))
      · exact .inr ⟨hroute, hpicked⟩

theorem selection_selectDiverse (hids : (routes.map S.getRouteId).Nodup) :
    S.Selection routes (min maxRoutes routes.length)
      (S.selectDiverse routes preferred maxRoutes draws) := by
  unfold selectDiverse weightedEntryDiversityPick selectFallbackWithBackendDiversity
  dsimp only
  rw [take_fillUp]
  refine Selection.take ?_ hids maxRoutes
  have hsplit : (routes.filter (fun route => S.getBackendId route = preferred) ++
      routes.filter fun route => S.getBackendId route ≠ preferred).Perm routes := by
    simpa using filter_append_perm (fun route => decide (S.getBackendId route = preferred)) routes
  generalize routes.filter (fun route => decide (S.getBackendId route = preferred)) = primary at *
  generalize routes.filter (fun route => decide (S.getBackendId route ≠ preferred)) = fallback at *
  have hall := (hsplit.map S.getRouteId).nodup_iff.mpr hids
  have hboth := nodup_append.mp (map_append ▸ hall)
  have hprimary := fun limit draws => (S.diversityPick_spec hboth.1 S.getEntryKey limit draws []).1
  have hfallback := fun limit draws =>
    (S.diversityPick_spec hboth.2.1 S.getBackendId limit draws []).1
  -- the picks and the remainders together are the routes
  refine Perm.trans ?_ hsplit
  rw [append_assoc]
  refine (Perm.append_left _ (perm_append_comm_assoc _ _ _)).trans ?_
  rw [← append_assoc]
  refine (perm_append_remainder hall ?_ ?_ ?_).append (hfallback _ _)
  · exact ((hprimary _ _).nodup_iff.mpr hboth.1.of_map).sublist (sublist_append_left _ _)
  · exact fun route hroute => (hprimary _ _).subset (mem_append_left _ hroute)
  · exact fun route hroute => (hfallback _ _).subset (mem_append_left _ hroute)

/-- The first route stays. An insurance comes in behind it, unless there is another transport there
already or all routes of other transports are. -/
theorem ensureTransportInsurance_cases (routes : List α) (preferred : Uuid) (maxRoutes : ℕ)
    (first : α) (rest : List α) :
    ∃ rest', S.ensureTransportInsurance (first :: rest) routes preferred maxRoutes =
        first :: rest' ∧
      (rest' = rest ∨ ∃ insurance ∈ routes,
        S.getRouteId insurance ∉ (first :: rest).map S.getRouteId ∧
          ((first :: rest).length < maxRoutes ∨ ∃ index, rest' = rest.set index insurance)) ∧
      (rest ≠ [] → (∃ other ∈ rest', S.getTransportKey other ≠ S.getTransportKey first) ∨
        rest' = rest ∧ ∀ route ∈ routes, S.getTransportKey route ≠ S.getTransportKey first →
          S.getRouteId route ∈ (first :: rest).map S.getRouteId) := by
  cases rest with
  | nil => exact ⟨[], rfl, .inl rfl, fun h => absurd rfl h⟩
  | cons second rest =>
    unfold RouteSelector.ensureTransportInsurance
    dsimp only
    split
    · rename_i hany
      exact ⟨_, rfl, .inl rfl, fun _ => .inl (by simpa using hany)⟩
    · split
      · rename_i hnone
        refine ⟨_, rfl, .inl rfl, fun _ => .inr ⟨rfl, fun route hroute hother => ?_⟩⟩
        by_contra hout
        exact filter_eq_nil_iff.mp hnone route
          (List.mem_filter.mpr ⟨hroute, decide_eq_true hout⟩) (decide_eq_true hother)
      · rename_i candidate candidates hcandidates
        generalize hinsurance : ((candidate :: candidates).find? fun route =>
          S.getBackendId route ≠ preferred).getD candidate = insurance
        have hin : insurance ∈ candidate :: candidates := by
          subst hinsurance
          cases hfound : (candidate :: candidates).find? fun route =>
              S.getBackendId route ≠ preferred with
          | none => exact mem_cons_self
          | some found => exact mem_of_find?_eq_some hfound
        rw [← hcandidates] at hin
        obtain ⟨hin, hother⟩ := List.mem_filter.mp hin
        obtain ⟨hroute, hout⟩ := List.mem_filter.mp hin
        have hother := of_decide_eq_true hother
        have hout := of_decide_eq_true hout
        split
        · rename_i hroom
          exact ⟨_, rfl, .inr ⟨insurance, hroute, hout, .inl hroom⟩,
            fun _ => .inl ⟨insurance, by simp, hother⟩⟩
        · generalize hreplaced : (range' 1 (second :: rest).length).reverse.find? _ = replaced
          obtain ⟨index, hset, hindex⟩ : ∃ index, replaced.getD (second :: rest).length = index + 1 ∧
              index < (second :: rest).length := by
            cases replaced with
            | none => exact ⟨rest.length, rfl, by simp⟩
            | some index =>
              have hindex := mem_of_find?_eq_some hreplaced
              rw [mem_reverse, mem_range'_1] at hindex
              exact ⟨index - 1, by rw [Option.getD_some]; omega, by omega⟩
          rw [hset, set_cons_succ]
          exact ⟨_, rfl, .inr ⟨insurance, hroute, hout, .inr ⟨index, rfl⟩⟩,
            fun _ => .inl ⟨insurance, mem_set hindex _, hother⟩⟩

/-- The insurance is added or put in the place of a route only where it keeps the number. -/
theorem Selection.ensureTransportInsurance
    (h : S.Selection routes (min maxRoutes routes.length) selected) :
    S.Selection routes (min maxRoutes routes.length)
      (S.ensureTransportInsurance selected routes preferred maxRoutes) := by
  cases selected with
  | nil => exact h
  | cons first rest =>
    obtain ⟨rest', heq, rfl | ⟨insurance, hroute, hout, hroom | ⟨index, rfl⟩⟩, -⟩ :=
      S.ensureTransportInsurance_cases routes preferred maxRoutes first rest
    · rwa [heq]
    · -- a selection with room has every route, so there is no candidate
      have hnodup : (insurance :: first :: rest).Nodup := nodup_cons.mpr
        ⟨fun hselected => hout (mem_map_of_mem hselected), h.nodup.of_map⟩
      have hle := (subperm_of_subset hnodup (cons_subset.mpr ⟨hroute, h.subset⟩)).length_le
      rw [length_cons] at hle
      have hlength := h.length
      omega
    · rw [heq, ← set_cons_succ]
      refine ⟨fun route hset => ?_, ?_, length_set.trans h.length⟩
      · rcases mem_or_eq_of_mem_set hset with hselected | rfl
        · exact h.subset hselected
        · exact hroute
      · rw [map_set]
        exact h.nodup.set hout

/-- **Selection size and membership.** Whatever is drawn, a selection has as many routes as asked
for, or all of them, and no route twice. -/
theorem selection_select (S : RouteSelector α) (routes : List α) (preferred : Uuid) (maxRoutes : ℤ)
    (seed : Option (ℕ → Draw)) (hids : (routes.map S.getRouteId).Nodup) :
    S.Selection routes (min maxRoutes.toNat routes.length)
      (S.select routes preferred maxRoutes seed) := by
  unfold select
  split
  · rename_i hnone
    rw [Int.toNat_of_nonpos hnone, Nat.zero_min]
    exact ⟨List.nil_subset _, List.nodup_nil, rfl⟩
  · split
    · rename_i hone
      subst hone
      exact Selection.take (.refl routes) hids 1
    · exact (selection_selectDiverse hids).ensureTransportInsurance

/-- Routes that are named by their backends. -/
def byBackend : RouteSelector Uuid where
  getBackendId := id
  getTransportKey _ := ("tcp", "reality")
  getRouteId := id

theorem selection_select_two : (byBackend.select [1, 2, 3] 1 2 none).length = 2 :=
  (selection_select byBackend [1, 2, 3] 1 2 none (by decide)).length

/-! ## The preferred backend and the transports -/

/-- A route of the preferred backend comes first. -/
theorem head_selectDiverse (hids : (routes.map S.getRouteId).Nodup)
    (hmax : 2 ≤ maxRoutes) (hprimary : ∃ route ∈ routes, S.getBackendId route = preferred) :
    ∃ first rest, S.selectDiverse routes preferred maxRoutes draws = first :: rest ∧
      S.getBackendId first = preferred := by
  unfold selectDiverse weightedEntryDiversityPick
  dsimp only
  rw [take_fillUp]
  obtain ⟨route, hroute, hbackend⟩ := hprimary
  have hpos : 0 < (routes.filter fun route => S.getBackendId route = preferred).length :=
    length_pos_of_mem (List.mem_filter.mpr ⟨hroute, decide_eq_true hbackend⟩)
  obtain ⟨hperm, hlength, -⟩ := S.diversityPick_spec
    (hids.sublist ((filter_sublist (p := fun route => S.getBackendId route = preferred)).map _))
    S.getEntryKey (min 2 (min (maxRoutes - 1) (routes.filter fun route =>
      S.getBackendId route = preferred).length)) draws []
  generalize (S.diversityPick S.getEntryKey _ draws [] _).1 = picks at *
  cases picks with
  | nil => simp only [length_nil] at hlength; omega
  | cons first rest =>
    obtain ⟨limit, rfl⟩ := Nat.exists_eq_add_of_le' (Nat.one_le_of_lt hmax)
    exact ⟨first, _, rfl, of_decide_eq_true (List.mem_filter.mp (hperm.subset (by simp))).2⟩

/-- **The preferred backend and two transports.** -/
theorem select_preferred_insured (S : RouteSelector α) (routes : List α) (preferred : Uuid)
    (maxRoutes : ℤ) (seed : Option (ℕ → Draw)) (hids : (routes.map S.getRouteId).Nodup)
    (hmax : 2 ≤ maxRoutes) :
    ((∃ route ∈ routes, S.getBackendId route = preferred) →
        ∃ first, (S.select routes preferred maxRoutes seed).head? = some first ∧
          S.getBackendId first = preferred) ∧
      ((∃ one ∈ routes, ∃ other ∈ routes, S.getTransportKey one ≠ S.getTransportKey other) →
        ∃ one ∈ S.select routes preferred maxRoutes seed,
          ∃ other ∈ S.select routes preferred maxRoutes seed,
            S.getTransportKey one ≠ S.getTransportKey other) := by
  unfold select
  rw [if_neg (by omega), if_neg (by omega)]
  have hcases := S.ensureTransportInsurance_cases routes preferred maxRoutes.toNat
  constructor
  · intro hprimary
    have hmax : 2 ≤ maxRoutes.toNat := by omega
    obtain ⟨first, rest, heq, hbackend⟩ := head_selectDiverse hids hmax hprimary
    obtain ⟨rest', hrest, -⟩ := hcases first rest
    exact ⟨first, by rw [heq, hrest, List.head?_cons], hbackend⟩
  · rintro ⟨one, hone, other, hother, hne⟩
    have htwo : 2 ≤ routes.length := by
      have hnodup : [one, other].Nodup := by simpa using fun h : one = other => hne (h ▸ rfl)
      exact (List.subperm_of_subset hnodup (by simp [hone, hother])).length_le
    obtain ⟨hsubset, -, hlength⟩ : S.Selection routes _ (S.selectDiverse routes preferred
      maxRoutes.toNat fun i => seed.map (· i)) := selection_selectDiverse hids
    generalize S.selectDiverse routes preferred maxRoutes.toNat _ = selected at *
    match selected with
    | [] | [_] => simp only [List.length_nil, List.length_singleton] at hlength; omega
    | first :: second :: rest =>
      obtain ⟨route, hroute, hdiffers⟩ : ∃ route ∈ routes,
          S.getTransportKey route ≠ S.getTransportKey first := by
        by_cases hsame : S.getTransportKey one = S.getTransportKey first
        · exact ⟨other, hother, fun h => hne (hsame.trans h.symm)⟩
        · exact ⟨one, hone, hsame⟩
      obtain ⟨rest', heq, -, hinsured⟩ := hcases first (second :: rest)
      rw [heq]
      obtain ⟨found, hfound, hfirst⟩ | ⟨rfl, hall⟩ := hinsured (List.cons_ne_nil _ _)
      · exact ⟨first, by simp, found, by simp [hfound], hfirst.symm⟩
      · obtain ⟨chosen, hchosen, hsame⟩ := List.mem_map.mp (hall route hroute hdiffers)
        obtain rfl := List.inj_on_of_nodup_map hids (hsubset hchosen) hroute hsame
        exact ⟨first, by simp, chosen, hchosen, hdiffers.symm⟩

theorem select_preferred_insured_two :
    ∃ first, (byBackend.select [1, 2, 3] 2 2 none).head? = some first ∧ first = 2 :=
  (select_preferred_insured byBackend [1, 2, 3] 2 2 none (by decide) (by decide)).1
    ⟨2, by decide, rfl⟩

/-! ## Diversity -/

theorem diverse_diversityPick [DecidableEq κ] (hids : (routes.map S.getRouteId).Nodup)
    (key : α → κ) (limit : ℕ) (draws : ℕ → Option Draw) :
    let (selected, remainder) := S.diversityPick key limit draws [] routes
    S.Selection routes (min limit routes.length) selected ∧
      (selected.map key).toFinset.card = min limit (routes.map key).toFinset.card ∧
      remainder = routes.filter fun route => S.getRouteId route ∉ selected.map S.getRouteId := by
  obtain ⟨hperm, hlength, hleft, hcard⟩ := S.diversityPick_spec hids key limit draws []
  exact ⟨⟨fun route hroute => hperm.subset (mem_append_left _ hroute),
    ((hperm.map _).nodup_iff.mpr hids).sublist ((sublist_append_left _ _).map _), hlength⟩,
    by simpa using hcard, hleft⟩

/-- **Greedy picks are as diverse as possible.** -/
theorem picks_are_diverse (S : RouteSelector α) (routes : List α) (limit : ℤ)
    (seed : Option (ℕ → Draw)) (hids : (routes.map S.getRouteId).Nodup) :
    let draws := fun i => seed.map (· i)
    let (selected, remainder) := S.selectFallbackWithBackendDiversity limit.toNat draws routes
    let entries := S.weightedEntryDiversityPick limit.toNat draws routes
    (S.Selection routes (min limit.toNat routes.length) selected ∧
      (selected.map S.getBackendId).toFinset.card =
        min limit.toNat (routes.map S.getBackendId).toFinset.card ∧
      remainder = routes.filter fun route => S.getRouteId route ∉ selected.map S.getRouteId) ∧
    S.Selection routes (min limit.toNat routes.length) entries ∧
      (entries.map S.getEntryKey).toFinset.card =
        min limit.toNat (routes.map S.getEntryKey).toFinset.card := by
  obtain ⟨hselection, hentries, -⟩ := diverse_diversityPick hids S.getEntryKey limit.toNat _
  exact ⟨diverse_diversityPick hids _ _ _, hselection, hentries⟩

theorem picks_are_diverse_two :
    (byBackend.selectFallbackWithBackendDiversity 2 (fun _ => none) [1, 2, 3]).1.length = 2 :=
  (picks_are_diverse byBackend [1, 2, 3] 2 none (by decide)).1.1.length

/-! ## Weights -/

/-- Where `bisect` ends up, the weight is positive. -/
theorem exists_pos_choices (hlow : total ≤ x) (hhigh : x < total + weights.sum) :
    ∃ weight, weights[((accumulate total weights).dropLast.takeWhile (· ≤ x)).length]? =
      some weight ∧ 0 < weight := by
  induction weights generalizing total with
  | nil => exact absurd hhigh (by simpa using hlow)
  | cons weight rest ih =>
    rw [sum_cons, ← add_assoc] at hhigh
    cases rest with
    | nil => exact ⟨weight, rfl, by rw [sum_nil] at hhigh; linarith⟩
    | cons second rest =>
      change ∃ found, (weight :: second :: rest)[(((total + weight) ::
        (accumulate (total + weight) (second :: rest)).dropLast).takeWhile _).length]? = _ ∧ _
      by_cases hpast : total + weight ≤ x
      · simpa [hpast] using ih hpast hhigh
      · exact ⟨weight, by simp [hpast], by linarith⟩

/-- **Overloaded routes are not picked first.** A pick without a generator takes what comes first;
a drawn one takes a route without weight only from a bucket without weight. -/
theorem weightedPick_heeds_weight_iff (S : RouteSelector α) (bucket : List α)
    (seed : Option (ℕ → Draw)) (i : ℕ) :
    (∀ pick, S.weightedPick (seed.map (· i)) bucket = some pick → S.getWeight pick ≤ 0 →
        ∀ route ∈ bucket, S.getWeight route ≤ 0) ↔
      (seed = none → ∀ first, bucket.head? = some first → S.getWeight first ≤ 0 →
        ∀ route ∈ bucket, S.getWeight route ≤ 0) := by
  cases bucket with
  | nil => simp
  | cons head rest =>
    cases seed with
    | none => simp [weightedPick]
    | some draws =>
      refine iff_of_true (fun pick hpick hzero => ?_) (fun hnone => by cases hnone)
      have hnonneg : ∀ weight ∈ (head :: rest).map fun route => max 0 (S.getWeight route),
          0 ≤ weight := by
        intro weight hweight
        obtain ⟨route, -, rfl⟩ := List.mem_map.mp hweight
        exact le_max_left _ _
      unfold weightedPick at hpick
      dsimp only [Option.map_some] at hpick
      split at hpick
      · rename_i hsum
        intro route hroute
        have hle := List.single_le_sum hnonneg _ (List.mem_map_of_mem hroute)
        exact (le_max_right 0 _).trans (hle.trans hsum)
      · rename_i hsum
        have hsum := not_le.mp hsum
        obtain ⟨weight, hweight, hpos⟩ := exists_pos_choices
          (mul_nonneg (draws i).nonneg hsum.le)
          (by rw [zero_add]; exact mul_lt_of_lt_one_left hsum (draws i).lt_one)
        unfold choicesIndex at hpick
        rw [List.getElem?_map, hpick, Option.map_some, Option.some.injEq, max_eq_left hzero]
          at hweight
        exact absurd hweight hpos.ne

/-- Routes to two backends, the first of them without weight. -/
def firstOverloaded : RouteSelector Uuid := { byBackend with getWeight := fun id => id - 1 }

theorem weightless_picked_first :
    firstOverloaded.selectFallbackWithBackendDiversity 1 (fun _ => none) [1, 2] = ([1], [2]) ∧
      firstOverloaded.getWeight 1 = 0 ∧ firstOverloaded.getWeight 2 = 1 := by
  decide +kernel

end RouteSelector

end VpnControl.Routing
