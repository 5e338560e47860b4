/-
# The routes of an entry that was drained and came back

A drain blocks the routes that are not blocked, and the return of the entry warms up those that
are. A route that was blocked before the drain, by a probe or by an administrator, is among them: it
comes back with the others, although its cooldown may still run. So the two together restore the
routes exactly if no active route was blocked to begin with.
-/

import VpnControl.Fleet.EntryDrain

namespace VpnControl.Fleet

open Txn Option
open Billing (Uuid Time)
open Table EntryAutoDrainService

/-- What was blocked is still blocked, with its cooldown, and what was not blocked is not. -/
def Route.Restored (route now : Route) : Prop :=
  if route.healthStatus = .blocked then
    now.healthStatus = .blocked ∧ now.effectiveWeight = 0 ∧ now.cooldownUntil = route.cooldownUntil
  else now.healthStatus ≠ .blocked

def RoutesRestored (entry : Uuid) (before after : Database) : Prop :=
  ∀ route ∈ before.routes.rows, route.entryNodeId = some entry →
    ∃ now ∈ after.routes.rows, now.id = route.id ∧ route.Restored now

/-- A drain, and then the return, restore a route that was not blocked, and one that was if it is
not in use. -/
theorem restored_undrain_drain {route : Route}
    (hentry : route.entryNodeId = some entry.id) (hsame : entry'.id = entry.id) :
    route.Restored (EntryVerdict.undrain.route entry' returnedAt
        (EntryVerdict.drain.route entry drainedAt route)) ↔
      (route.healthStatus = .blocked → route.isActive = false ∧ route.effectiveWeight = 0) := by
  by_cases hblocked : route.healthStatus = .blocked
  · by_cases hactive : route.isActive
    · simp [Route.Restored, EntryVerdict.route, hentry, hsame, hblocked, hactive, Route.unblock]
    · simp [Route.Restored, EntryVerdict.route, hentry, hsame, hblocked, hactive]
  · by_cases hactive : route.isActive
    · simp [Route.Restored, EntryVerdict.route, hentry, hsame, hblocked, hactive, Route.block,
        Route.unblock]
    · simp [Route.Restored, EntryVerdict.route, hentry, hsame, hblocked, hactive]

namespace EntryAutoDrainService

variable {service : EntryAutoDrainService} {settings : EntrySettings} {probeFailures : Uuid → ℤ}
  {now : Time} {db after : Database} {entry : Uuid}

/-- An entry whose flag a run has changed is one of the run, and its verdict says how. -/
theorem verdict_of_draining? (hrun : service.run settings probeFailures now db = .ok after)
    (hbefore : db.draining? entry = some before)
    (hafter : after.draining? entry = some !before) :
    ∃ node ∈ service.entries db, node.id = entry ∧
      service.verdict probeFailures node = if before then .undrain else .drain := by
  have hmapped := (service.ends_run settings probeFailures now db).result hrun
  obtain ⟨node, hnode, rfl⟩ := map_eq_some_iff.mp hbefore
  have hid : node.id = entry := key_of_find? hnode
  rw [Database.draining?, hmapped.nodes, hnode, map_some, map_some, some.injEq] at hafter
  by_cases hmem : node ∈ service.entries db
  · refine ⟨node, hmem, hid, ?_⟩
    rw [service.node_of_mem probeFailures now (service.nodup_entries db) hmem rfl] at hafter
    cases hverdict : service.verdict probeFailures node <;> cases hdraining : node.isDraining <;>
      simp_all [EntryVerdict.node, VpnNode.drainEntry, VpnNode.undrainEntry]
  · rw [service.node_of_notMem probeFailures now fun other hother heq => hmem ?_] at hafter
    · simp at hafter
    · rwa [List.inj_on_of_nodup_map db.nodes.nodup (mem_of_find? hnode)
        (List.mem_of_mem_filter ((List.mem_insertionSort _).mp (List.mem_of_mem_take hother))) heq]

theorem find?_route_of_verdict (hrun : service.run settings probeFailures now db = .ok after)
    {node : VpnNode} (hnode : node ∈ service.entries db) {route : Route}
    (hroute : route ∈ db.routes.rows) (hentry : route.entryNodeId = some node.id) :
    after.routes.find? route.id =
      some ((service.verdict probeFailures node).route node now route) := by
  have hmapped := (service.ends_run settings probeFailures now db).result hrun
  have hfound : db.routes.find? route.id = some route := Table.find?_of_mem hroute
  rw [hmapped.routes, hfound]
  exact congrArg some (foldl_of_mem Route.entryNodeId VpnNode.id
    (fun _ entry h => EntryVerdict.route_of_ne entry now _ h)
    (fun _ entry => EntryVerdict.entryNodeId_route entry now _) (service.nodup_entries db) hnode
    hentry)

end EntryAutoDrainService

/-- A run that changes the flag of an entry: it drains one that is not draining, or undrains one
that is. -/
structure FlagRun (settings : EntrySettings) (entry : Uuid) (draining : Bool)
    (before after : Database) where
  service : EntryAutoDrainService
  probeFailures : Uuid → ℤ
  now : Time
  run_eq : service.run settings probeFailures now before = .ok after
  before_eq : before.draining? entry = some draining
  after_eq : after.draining? entry = some !draining

/-- An entry is drained by one run and undrained by a later one, and in between nothing happens to
its routes. -/
theorem routesRestored_iff (settings : EntrySettings) (entry : Uuid)
    {before drained between after : Database} (drain : FlagRun settings entry false before drained)
    (hkept : ∀ route, route.entryNodeId = some entry →
      (route ∈ between.routes.rows ↔ route ∈ drained.routes.rows))
    (undrain : FlagRun settings entry true between after) :
    RoutesRestored entry before after ↔
      ∀ route ∈ before.routes.rows, route.entryNodeId = some entry → route.healthStatus = .blocked →
        route.isActive = false ∧ route.effectiveWeight = 0 := by
  obtain ⟨node, hnode, hid, hdrain⟩ :=
    verdict_of_draining? drain.run_eq drain.before_eq drain.after_eq
  obtain ⟨node', hnode', hid', hundrain⟩ :=
    verdict_of_draining? undrain.run_eq undrain.before_eq undrain.after_eq
  refine forall₂_congr fun route hroute => forall_congr' fun hentry => ?_
  rw [← hid] at hentry
  -- the row of the route after the drain, which the return finds
  have hdrained := EntryAutoDrainService.find?_route_of_verdict drain.run_eq hnode hroute hentry
  simp only [hdrain, Bool.false_eq_true, if_false] at hdrained
  set blocked := EntryVerdict.drain.route node drain.now route with hblocked
  have hsame : blocked.entryNodeId = some node.id := by
    rw [hblocked, EntryVerdict.entryNodeId_route, hentry]
  have hbetween : blocked ∈ between.routes.rows :=
    (hkept blocked (hid ▸ hsame)).mpr (mem_of_find? hdrained)
  have hreturned := EntryAutoDrainService.find?_route_of_verdict undrain.run_eq hnode' hbetween
    (by rw [hsame, hid, hid'])
  simp only [hundrain, if_true] at hreturned
  have hrow : ∀ now ∈ after.routes.rows, now.id = route.id →
      now = EntryVerdict.undrain.route node' undrain.now blocked := by
    intro now hnow heq
    have hfound := Table.find?_of_mem hnow
    have hid : blocked.id = route.id := key_of_find? hdrained
    change after.routes.find? now.id = some now at hfound
    rw [heq, ← hid, hreturned] at hfound
    exact (Option.some.inj hfound).symm
  rw [← restored_undrain_drain hentry (hid'.trans hid.symm)]
  constructor
  · rintro ⟨now, hnow, heq, hrestored⟩
    rwa [hrow now hnow heq] at hrestored
  · intro hrestored
    refine ⟨_, mem_of_find? hreturned, ?_, hrestored⟩
    exact (key_of_find? hreturned).trans (key_of_find? hdrained)

/-! ## An entry with two routes -/

variable (routes : Table Route)

/-- An entry that is reported unhealthy, and its routes. -/
def unhealthyEntry : Database where
  nodes := ⟨[{ id := 1, name := "entry-1", role := .entry, agentState := some { isHealthy := false } }],
    by decide⟩
  assignments := Table.empty
  routes
  profiles := Table.empty
  poolEvents := []
  nextUuid := 100

/-- The entry reports that it is healthy. -/
def reportHealthy (db : Database) : Database :=
  db.updateNode 1 (fun node => { node with agentState := node.agentState.map fun state =>
    { state with isHealthy := true, heartbeat := { state.heartbeat with consecutiveHealthy := 3 } } })
    fun _ => rfl

/-- The service drains on what the agent reports. -/
def agentDrain : EntryAutoDrainService where
  probeFailureThreshold := 0
  maxNodes := 10

/-- What a run leaves; a run that fails leaves everything as it is. -/
def EntryAutoDrainService.leaves (service : EntryAutoDrainService) (now : Time) (db : Database) :
    Database :=
  match service.run plainSettings (fun _ => 0) now db with
  | .ok after => after
  | .error _ => db

def drainedEntry : Database := agentDrain.leaves 1000 (unhealthyEntry routes)

/-- Three healthy reports later the entry comes back. -/
def returnedEntry : Database :=
  agentDrain.leaves 2000 (reportHealthy (drainedEntry routes))

def healthyAndUnused : Table Route :=
  ⟨[{ id := 10, name := "in use", nodeId := 2, entryNodeId := some 1, transportProfileId := 7 },
    { id := 11, name := "out of use", nodeId := 3, entryNodeId := some 1, transportProfileId := 7
      healthStatus := .blocked, effectiveWeight := 0, isActive := false }], by decide⟩

def blockedByProbe : Table Route :=
  ⟨[{ id := 10, nodeId := 2, entryNodeId := some 1, transportProfileId := 7
      healthStatus := .blocked, effectiveWeight := 0, cooldownUntil := some 9000000 }], by decide⟩

theorem routesRestored_healthyAndUnused :
    RoutesRestored 1 (unhealthyEntry healthyAndUnused) (returnedEntry healthyAndUnused) := by
  have drain : FlagRun plainSettings 1 false (unhealthyEntry healthyAndUnused)
      (drainedEntry healthyAndUnused) := ⟨agentDrain, fun _ => 0, 1000, rfl, rfl, rfl⟩
  have undrain : FlagRun plainSettings 1 true (reportHealthy (drainedEntry healthyAndUnused))
      (returnedEntry healthyAndUnused) := ⟨agentDrain, fun _ => 0, 2000, rfl, rfl, rfl⟩
  refine (routesRestored_iff plainSettings 1 drain ?_ undrain).mpr ?_
  · exact fun _ _ => Iff.rfl
  · decide

/-- A route that a probe has blocked comes back before its cooldown is over. -/
theorem not_routesRestored_blockedByProbe :
    ∃ before drained between after, Nonempty (FlagRun plainSettings 1 false before drained) ∧
      between.routes = drained.routes ∧ Nonempty (FlagRun plainSettings 1 true between after) ∧
      ¬ RoutesRestored 1 before after := by
  refine ⟨unhealthyEntry blockedByProbe, drainedEntry blockedByProbe,
    reportHealthy (drainedEntry blockedByProbe), returnedEntry blockedByProbe,
    ⟨agentDrain, fun _ => 0, 1000, rfl, rfl, rfl⟩, rfl,
    ⟨agentDrain, fun _ => 0, 2000, rfl, rfl, rfl⟩, fun h => ?_⟩
  obtain ⟨now, hnow, -, hblocked, -⟩ := h _ List.mem_cons_self rfl
  have hrows : (returnedEntry blockedByProbe).routes.rows.all
      (fun route => route.healthStatus ≠ .blocked) = true := by decide
  exact of_decide_eq_true (List.all_eq_true.mp hrows now hnow) hblocked

end VpnControl.Fleet
