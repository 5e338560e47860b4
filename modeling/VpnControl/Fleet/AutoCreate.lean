/-
# Routes that follow the assignments

A tick of `RouteAutoCreateReconciler` creates the reality routes that are missing for the
assignments that are active and enabled, and switches off the others. It never switches one on.
-/

import VpnControl.Fleet.Generations

namespace VpnControl.Fleet

open Txn
open Billing (Uuid)

namespace Database

variable (db : Database)

/-- The profile of the routes that are created. -/
def realityProfile? : Option TransportProfile :=
  (db.activeProfiles.take 10).find? fun profile =>
    profile.security = "reality" ∧ profile.network = "tcp"

/-- The entries and backends with an assignment that is active and enabled. By the foreign key of
an assignment its entry is there. -/
def wantedPairs : List (Uuid × Uuid) :=
  (db.assignments.rows.filter fun a => a.isActive ∧ a.enabled).map Row.key

def pairRoutes (profile : Uuid) (pair : Uuid × Uuid) : List Route :=
  db.routesByTriple pair.2 pair.1 profile

/-- The route of a pair, if it has none. -/
def addPairRoute (profile : Uuid) (db : Database) (pair : Uuid × Uuid) : Outcome :=
  match db.pairRoutes profile pair with
  | [] =>
    match db.nodes.find? pair.2, db.nodes.find? pair.1 with
    | some backend, some entry =>
      if (db.routes.find? db.nextUuid).isSome then .error .uniqueViolation
      else db.insertRoute {
        id := db.nextUuid
        name := entry.name ++ "→" ++ backend.name ++ "·reality"
        nodeId := pair.2
        entryNodeId := some pair.1
        transportProfileId := profile }
    -- `None` has no name
    | _, _ => .error .nodeNotFound
  | [_] => .ok db
  | _ => .error .multipleResults

/-- `RouteAutoCreateReconciler.tick`. -/
def autoCreateTick : Outcome :=
  match db.realityProfile? with
  | none => .ok db
  | some profile => do
    let created ← db.wantedPairs.foldlM (addPairRoute profile.id) db
    pure { created with
      routes := created.routes.modifyWhere (fun route =>
        route.isActive ∧ route.transportProfileId = profile.id ∧
          route.entryNodeId.any fun entry => (entry, route.nodeId) ∉ db.wantedPairs)
        (fun route => { route with isActive := false }) fun _ => rfl }

/-- Some route of the pair is active. -/
def Routed (profile : Uuid) (pair : Uuid × Uuid) : Prop :=
  ∃ route ∈ db.pairRoutes profile pair, route.isActive

variable {db after : Database} {profile : Uuid} {pair : Uuid × Uuid}

/-- A pair without a route gets an active one, and the routes of the others stay. -/
theorem ends_addPairRoute : Ends (fun _ => True) (fun created =>
      created.assignments = db.assignments ∧
      (db.pairRoutes profile pair = [] → created.Routed profile pair) ∧
      ∀ other, other ≠ pair ∨ db.pairRoutes profile other ≠ [] →
        created.pairRoutes profile other = db.pairRoutes profile other)
      (addPairRoute profile db pair) := by
  unfold addPairRoute insertRoute
  split
  · rename_i hnone
    repeat' split
    all_goals try trivial
    rename_i backend entry _ _ hfree _ _
    have hrows : ∀ new : Route, new.id = db.nextUuid →
        (db.routes.insert new).rows = db.routes.rows ++ [new] := by
      intro new hid
      have hnew : db.routes.find? new.id = none := hid ▸ Option.not_isSome_iff_eq_none.mp hfree
      exact Table.rows_insert hnew
    refine ⟨rfl, fun _ => by simp [Routed, pairRoutes, routesByTriple, hrows], ?_⟩
    intro other hother
    have hne : other ≠ pair := by
      rintro rfl
      simp [hnone] at hother
    have hpair : pair.2 = other.2 → ¬ pair.1 = other.1 := fun hnode hentry =>
      hne (Prod.ext hentry.symm hnode.symm)
    simpa [pairRoutes, routesByTriple, hrows] using hpair
  · rename_i hone
    exact ⟨rfl, fun hnone => by simp [hone] at hnone, fun _ _ => rfl⟩
  · trivial

/-- After the pairs, those are routed that were routed, and those that had no route. -/
theorem ends_addPairRoutes (pairs : List (Uuid × Uuid)) : Ends (fun _ => True) (fun created =>
      created.assignments = db.assignments ∧ ∀ pair, created.Routed profile pair ↔
        db.Routed profile pair ∨ pair ∈ pairs ∧ db.pairRoutes profile pair = [])
      (pairs.foldlM (addPairRoute profile) db) := by
  induction pairs generalizing db with
  | nil => exact ⟨rfl, by simp⟩
  | cons first rest ih =>
    rw [List.foldlM_cons]
    refine Ends.bind ends_addPairRoute ?_
    rintro mid ⟨hassignments, hfirst, hothers⟩
    refine ih.mono (fun _ h => h) ?_
    rintro created ⟨hcreated, hrouted⟩
    refine ⟨hcreated.trans hassignments, fun pair => ?_⟩
    rw [hrouted]
    by_cases hnew : pair = first ∧ db.pairRoutes profile pair = []
    · obtain ⟨rfl, hnone⟩ := hnew
      simp [hfirst hnone, hnone]
    · have hsame := hothers pair (by tauto)
      rw [Routed, hsame, List.mem_cons, or_and_right]
      exact or_congr_right (or_iff_right hnew).symm

theorem ends_autoCreateTick {profile : TransportProfile}
    (hprofile : db.realityProfile? = some profile) : Ends (fun _ => True) (fun after =>
      after.assignments = db.assignments ∧ ∀ pair, after.Routed profile.id pair ↔
        (db.Routed profile.id pair ∨ db.pairRoutes profile.id pair = []) ∧ pair ∈ db.wantedPairs)
      db.autoCreateTick := by
  unfold autoCreateTick
  rw [hprofile]
  refine Ends.bind (ends_addPairRoutes db.wantedPairs) ?_
  rintro created ⟨hassignments, hrouted⟩
  refine ⟨hassignments, fun pair => ?_⟩
  trans created.Routed profile.id pair ∧ pair ∈ db.wantedPairs
  · simp only [Routed, pairRoutes, routesByTriple, Table.modifyWhere, List.mem_filter, List.mem_map,
      decide_eq_true_eq]
    constructor
    · rintro ⟨route, ⟨⟨old, hold, rfl⟩, htriple⟩, hactive⟩
      split at hactive
      · cases hactive
      · rename_i hoff
        rw [if_neg hoff] at htriple
        refine ⟨⟨old, ⟨hold, htriple⟩, hactive⟩, ?_⟩
        simpa [htriple, hactive] using hoff
    · rintro ⟨⟨route, ⟨hroute, htriple⟩, hactive⟩, hwanted⟩
      refine ⟨route, ⟨⟨route, hroute, if_neg ?_⟩, htriple⟩, hactive⟩
      simp [htriple, hwanted]
  · rw [hrouted]
    tauto

end Database

open Database

/-- Two assignments that were made before there was a profile. -/
def unroutedBackends : Database :=
  { PoolChange.twoBackends with profiles := ⟨[{ id := 4 }], by decide⟩ }

end VpnControl.Fleet
