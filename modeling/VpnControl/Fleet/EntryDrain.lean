/-
# Automatic draining of entries

`EntryAutoDrainService` looks at every entry node in use. One that is unhealthy is drained and its
routes are blocked; one that it drained before and that has been healthy for some heartbeats comes
back, and its routes are warmed up. Which routes to block and which to warm up is decided by their
status at that time, not by what the service did to them before.

What one entry goes through does not touch the row of another or its routes, so a run as a whole
changes each row by the verdict on the entry it belongs to.
-/

import VpnControl.Fleet.Routes
import VpnControl.Txn.Fallible

namespace VpnControl.Fleet

open Txn List Option
open Billing (Uuid Time)
open Table

/-! ## The service -/

structure EntryAutoDrainService where
  probeFailureThreshold : ℤ
  maxNodes : ℕ
  autoUndrainEnabled : Bool := true
  healthyTicksForRecovery : ℤ := 3

/-- What a run does to an entry. -/
inductive EntryVerdict
  | skip
  | drain
  | undrain
  deriving DecidableEq

namespace EntryAutoDrainService

variable (service : EntryAutoDrainService) (probeFailures : Uuid → ℤ)

/-- `_unhealthy_reason` gives a reason. -/
def unhealthy (entry : VpnNode) : Bool :=
  entry.agentState.any (fun state => ¬ state.isHealthy) ∨
    (0 < service.probeFailureThreshold ∧ service.probeFailureThreshold ≤ probeFailures entry.id)

/-- The condition of `_try_undrain_entry`. -/
def recovered (entry : VpnNode) : Bool :=
  entry.agentState.any fun state =>
    state.heartbeat.drainReason = some drainReasonEntryAutoDrain ∧
      max 1 service.healthyTicksForRecovery ≤ state.heartbeat.consecutiveHealthy

def verdict (entry : VpnNode) : EntryVerdict :=
  if service.unhealthy probeFailures entry then .drain
  else if service.autoUndrainEnabled ∧ entry.isDraining ∧ service.recovered entry then .undrain
  else .skip

end EntryAutoDrainService

/-- What `_mark_drain_meta` records. -/
def NodeAgentState.markDrain (state : NodeAgentState) (reason : String) (now : Time) :
    NodeAgentState :=
  { state with
    heartbeat := { state.heartbeat with drainReason := some reason, drainedAt := some now } }

/-- What `_mark_drain_meta` takes back. -/
def NodeAgentState.clearDrain (state : NodeAgentState) : NodeAgentState :=
  { state with heartbeat := { state.heartbeat with drainReason := none, drainedAt := none } }

/-- What `_drain_entry` sets. It does not say who drains. -/
def VpnNode.drainEntry (node : VpnNode) (now : Time) : VpnNode :=
  { node with
    isDraining := true
    agentState := node.agentState.map (·.markDrain drainReasonEntryAutoDrain now) }

/-- What `_try_undrain_entry` sets. -/
def VpnNode.undrainEntry (node : VpnNode) : VpnNode :=
  { node with isDraining := false, agentState := node.agentState.map (·.clearDrain) }

/-- What `_block_routes_for_entry` sets. -/
def Route.block (route : Route) : Route :=
  { route with healthStatus := .blocked, effectiveWeight := 0 }

/-- What `_unblock_routes_for_entry` sets. -/
def Route.unblock (route : Route) (now : Time) : Route :=
  { route with
    healthStatus := .warmingUp
    effectiveWeight := max 1 (route.baseWeight / 2)
    warmupStage := some 1
    warmupStartedAt := some now }

namespace Database

variable (settings : EntrySettings) (db : Database)

/-- Whether a node is draining. -/
def draining? (id : Uuid) : Option Bool := (db.nodes.find? id).map (·.isDraining)

/-- `update_by_id` of a node. -/
def updateNode (id : Uuid) (f : VpnNode → VpnNode) (hf : ∀ node, (f node).id = node.id) :
    Database :=
  { db with nodes := db.nodes.modify id f hf }

/-- Update the rows of some routes, one after the other. -/
def updateRoutes (routes : List Route) (f : Route → Route)
    (hf : ∀ route, (f route).id = route.id) : Outcome :=
  routes.foldlM (fun db route => db.updateRouteById route.id f hf) db

/-- `_block_routes_for_entry`. -/
def blockRoutesForEntry (entry : Uuid) : Outcome :=
  db.updateRoutes (db.routes.rows.filter fun route =>
    route.entryNodeId = some entry ∧ route.isActive ∧ route.healthStatus ≠ .blocked) Route.block
    fun _ => rfl

/-- `_unblock_routes_for_entry`. -/
def unblockRoutesForEntry (entry : Uuid) (now : Time) : Outcome :=
  db.updateRoutes (db.routes.rows.filter fun route =>
    route.entryNodeId = some entry ∧ route.isActive ∧ route.healthStatus = .blocked)
    (·.unblock now) fun _ => rfl

/-- The events for these entries, up to the first that fails. -/
def enqueueUntilFailure (db : Database) : List Uuid → Database
  | [] => db
  | entry :: rest =>
    match db.enqueuePoolSnapshot settings entry with
    | .ok next => next.enqueueUntilFailure rest
    | .error _ => db

/-- `_notify_alternative_entries`: an exception ends the events of one backend. -/
def notifyAlternativeEntries (entry : Uuid) : Database :=
  (((db.listByEntry entry).map (·.backendNodeId)).dedup).foldl
    (fun db backend => db.enqueueUntilFailure settings (db.entryIdsForBackend backend)) db

/-- `_list_entry_candidates`. -/
def listEntryCandidates : List VpnNode :=
  (db.nodes.rows.filter fun node =>
    node.isActive ∧ node.isEnabled ∧ ¬ node.isVirtual ∧ node.role.isEntry).insertionSort
      fun first second => first.name ≤ second.name

end Database

namespace EntryAutoDrainService

variable (service : EntryAutoDrainService) (settings : EntrySettings) (probeFailures : Uuid → ℤ)
  (now : Time)

/-- `run` for one entry. An unhealthy entry that is drained already has its routes blocked once
more. -/
def process (db : Database) (entry : VpnNode) : Outcome :=
  match service.verdict probeFailures entry with
  | .skip => .ok db
  | .drain => do
      let drained := if entry.isDraining then db
        else db.updateNode entry.id (·.drainEntry now) fun _ => rfl
      let blocked ← drained.blockRoutesForEntry entry.id
      pure (blocked.notifyAlternativeEntries settings entry.id)
  | .undrain => do
      let undrained := db.updateNode entry.id (·.undrainEntry) fun _ => rfl
      let unblocked ← undrained.unblockRoutesForEntry entry.id now
      pure (unblocked.notifyAlternativeEntries settings entry.id)

/-- The entries of a run. -/
def entries (db : Database) : List VpnNode := db.listEntryCandidates.take service.maxNodes

/-- `run`. -/
def run (db : Database) : Outcome :=
  (service.entries db).foldlM (service.process settings probeFailures now) db

end EntryAutoDrainService

/-! ## Changing every row -/

/-- Every node is changed by `g`, every route by `f`, and events are added. -/
structure Mapped (g : VpnNode → VpnNode) (f : Route → Route) (db after : Database) : Prop where
  nodes : ∀ id, after.nodes.find? id = (db.nodes.find? id).map g
  routes : ∀ id, after.routes.find? id = (db.routes.find? id).map f
  assignments : after.assignments = db.assignments
  profiles : after.profiles = db.profiles
  events : db.poolEvents <+: after.poolEvents

namespace Mapped

variable {g g' : VpnNode → VpnNode} {f f' : Route → Route} {db mid after : Database}

theorem refl : Mapped id id db db where
  nodes _ := map_id'.symm
  routes _ := map_id'.symm
  assignments := rfl
  profiles := rfl
  events := prefix_rfl

theorem trans (hfirst : Mapped g f db mid) (hsecond : Mapped g' f' mid after) :
    Mapped (g' ∘ g) (f' ∘ f) db after where
  nodes k := by rw [hsecond.nodes, hfirst.nodes, Option.map_map]
  routes k := by rw [hsecond.routes, hfirst.routes, Option.map_map]
  assignments := hsecond.assignments.trans hfirst.assignments
  profiles := hsecond.profiles.trans hfirst.profiles
  events := hfirst.events.trans hsecond.events

theorem congr (h : Mapped g f db after) (hg : ∀ node ∈ db.nodes.rows, g node = g' node)
    (hf : ∀ route ∈ db.routes.rows, f route = f' route) : Mapped g' f' db after where
  nodes k := by
    rw [h.nodes]
    exact map_congr fun node hnode => hg node (mem_of_find? hnode)
  routes k := by
    rw [h.routes]
    exact map_congr fun route hroute => hf route (mem_of_find? hroute)
  assignments := h.assignments
  profiles := h.profiles
  events := h.events

theorem exists_route (h : Mapped g f db after) (hroute : route ∈ after.routes.rows) :
    ∃ old ∈ db.routes.rows, f old = route := by
  have hfound := Table.find?_of_mem hroute
  rw [h.routes] at hfound
  obtain ⟨old, hold, heq⟩ := map_eq_some_iff.mp hfound
  exact ⟨old, mem_of_find? hold, heq⟩

end Mapped

variable {db : Database}

theorem mapped_updateNode (g : VpnNode → VpnNode) (hg : ∀ node, (g node).id = node.id) :
    Mapped (fun node => if node.id = k then g node else node) id db (db.updateNode k g hg) where
  nodes _ := Table.find?_modify g hg
  routes _ := map_id'.symm
  assignments := rfl
  profiles := rfl
  events := prefix_rfl

variable {f : Route → Route} {settings : EntrySettings}

section

variable (hf : ∀ route, (f route).id = route.id) (hname : ∀ route, (f route).name = route.name)

include hname

/-- A change that keeps the name of the route fails only on the check constraints. -/
theorem ends_updateRouteById : Ends (fun e => e = .checkViolation ∧
        ∃ route ∈ db.routes.rows, route.id = k ∧ ¬ (f route).MeetsChecks)
      (Mapped id (fun route => if route.id = k then f route else route) db)
      (db.updateRouteById k f hf) := by
  unfold Database.updateRouteById
  cases hfound : db.routes.find? k with
  | none =>
    refine Mapped.refl.congr (fun _ _ => rfl) fun route hroute => ?_
    exact (if_neg (Table.find?_eq_none.mp hfound route hroute)).symm
  | some route =>
    by_cases hchecks : (f route).MeetsChecks
    · simp only [hchecks, not_true_eq_false, if_false, hname, ne_eq, false_and]
      exact {
        nodes := fun _ => map_id'.symm, routes := fun _ => Table.find?_modify f hf
        assignments := rfl, profiles := rfl, events := prefix_rfl }
    · simp only [hchecks, not_false_eq_true, if_true]
      exact ⟨rfl, route, mem_of_find? hfound, key_of_find? hfound, hchecks⟩

theorem ends_updateRoutes (db : Database) (hnodup : (routes.map Route.id).Nodup) :
    Ends (fun e => e = .checkViolation ∧
        ∃ route ∈ db.routes.rows, route.id ∈ routes.map Route.id ∧ ¬ (f route).MeetsChecks)
      (Mapped id (fun route => if route.id ∈ routes.map Route.id then f route else route) db)
      (db.updateRoutes routes f hf) := by
  induction routes generalizing db with
  | nil => exact Mapped.refl.congr (fun _ _ => rfl) fun _ _ => by simp
  | cons head _ ih =>
    rw [map_cons, nodup_cons] at hnodup
    refine .bind ((ends_updateRouteById hf hname).mono ?_ fun _ h => h) ?_
    · rintro e ⟨rfl, route, hroute, hid, hchecks⟩
      exact ⟨rfl, route, hroute, by simp [hid], hchecks⟩
    · intro mid hmid
      refine (ih mid hnodup.2).mono ?_ fun after hafter => (hmid.trans hafter).congr
        (fun _ _ => rfl) fun route _ => ?_
      · rintro e ⟨rfl, route, hroute, hid, hchecks⟩
        obtain ⟨old, hold, rfl⟩ := hmid.exists_route hroute
        -- a later route is not the one just written
        have hne : old.id ≠ head.id := by
          intro heq
          rw [if_pos heq, hf, heq] at hid
          exact hnodup.1 hid
        rw [if_neg hne] at hid hchecks
        exact ⟨rfl, old, hold, by simp [hid], hchecks⟩
      · by_cases heq : route.id = head.id
        · simp only [Function.comp_apply, heq, if_true, hf, if_neg hnodup.1, map_cons,
            mem_cons, true_or]
        · simp [heq]

theorem ends_updateRoutes_filter : Ends (fun e => e = .checkViolation ∧
        ∃ route ∈ db.routes.rows, p route ∧ ¬ (f route).MeetsChecks)
      (Mapped id (fun route => if p route then f route else route) db)
      (db.updateRoutes (db.routes.rows.filter p) f hf) := by
  have hids : ∀ route ∈ db.routes.rows,
      (route.id ∈ (db.routes.rows.filter p).map Route.id ↔ p route) := by
    intro route hroute
    constructor
    · intro hmem
      obtain ⟨other, hother, heq⟩ := mem_map.mp hmem
      obtain ⟨hother, hp⟩ := mem_filter.mp hother
      rwa [inj_on_of_nodup_map db.routes.nodup hroute hother heq.symm]
    · exact fun hp => mem_map_of_mem (mem_filter.mpr ⟨hroute, hp⟩)
  refine (ends_updateRoutes hf hname db
    (db.routes.nodup.sublist (filter_sublist.map _))).mono ?_ fun after h => ?_
  · rintro e ⟨rfl, route, hroute, hmem, hchecks⟩
    exact ⟨rfl, route, hroute, (hids route hroute).mp hmem, hchecks⟩
  · refine h.congr (fun _ _ => rfl) fun route hroute => ?_
    simp only [hids route hroute]

end

/-! ## A run -/

section Fold

variable {α β κ : Type} {f : α → β → α} {xs : List β} {a : α} (owner : α → Option κ) (key : β → κ)

/-- Steps that each change only what belongs to one element leave alone what belongs to none. -/
theorem foldl_of_notMem (hne : ∀ a x, owner a ≠ some (key x) → f a x = a)
    (h : ∀ x ∈ xs, owner a ≠ some (key x)) : xs.foldl f a = a := by
  induction xs with
  | nil => rfl
  | cons x _ ih =>
    rw [foldl_cons, hne a x (h x mem_cons_self)]
    exact ih fun y hy => h y (mem_cons_of_mem _ hy)

/-- What belongs to one of the elements is changed by that one alone. -/
theorem foldl_of_mem (hne : ∀ a x, owner a ≠ some (key x) → f a x = a)
    (howner : ∀ a x, owner (f a x) = owner a) (hnodup : (xs.map key).Nodup) (hx : x ∈ xs)
    (ha : owner a = some (key x)) : xs.foldl f a = f a x := by
  induction xs with
  | nil => cases hx
  | cons head _ ih =>
    rw [map_cons, nodup_cons] at hnodup
    rw [foldl_cons]
    rcases mem_cons.mp hx with rfl | hrest
    · refine foldl_of_notMem owner key hne fun y hy heq => ?_
      rw [howner, ha, some.injEq] at heq
      exact hnodup.1 (heq ▸ mem_map_of_mem hy)
    · rw [hne a head ?_]
      · exact ih hnodup.2 hrest
      · intro heq
        rw [ha, some.injEq] at heq
        exact hnodup.1 (heq ▸ mem_map_of_mem hrest)

end Fold

theorem mapped_enqueueUntilFailure (db : Database) :
    Mapped id id db (db.enqueueUntilFailure settings entries) := by
  induction entries generalizing db with
  | nil => exact .refl
  | cons entry _ ih =>
    simp only [Database.enqueueUntilFailure, Database.enqueuePoolSnapshot]
    cases db.getRelayPool settings entry with
    | error => exact .refl
    | ok pool =>
      have hevent : Mapped id id db
          { db with poolEvents := db.poolEvents ++ [⟨entry, pool⟩] } :=
        { (.refl : Mapped id id db db) with events := prefix_append .. }
      exact hevent.trans (ih _)

theorem mapped_notifyAlternativeEntries (db : Database) :
    Mapped id id db (db.notifyAlternativeEntries settings entry) := by
  unfold Database.notifyAlternativeEntries
  induction ((db.listByEntry entry).map (·.backendNodeId)).dedup generalizing db with
  | nil => exact .refl
  | cons _ _ ih => exact (mapped_enqueueUntilFailure db).trans (ih _)

namespace EntryVerdict

variable (entry : VpnNode) (now : Time)

def node : EntryVerdict → VpnNode → VpnNode
  | skip, node => node
  | drain, node => if node.id = entry.id ∧ ¬ entry.isDraining then node.drainEntry now else node
  | undrain, node => if node.id = entry.id then node.undrainEntry else node

def route : EntryVerdict → Route → Route
  | skip, route => route
  | drain, route =>
    if route.entryNodeId = some entry.id ∧ route.isActive ∧ route.healthStatus ≠ .blocked then
      route.block
    else route
  | undrain, route =>
    if route.entryNodeId = some entry.id ∧ route.isActive ∧ route.healthStatus = .blocked then
      route.unblock now
    else route

variable (verdict : EntryVerdict)

theorem id_node : (verdict.node entry now n).id = n.id := by
  cases verdict <;> simp only [node] <;> split <;> rfl

theorem node_of_ne (h : n.id ≠ entry.id) : verdict.node entry now n = n := by
  cases verdict <;> simp [node, h]

theorem entryNodeId_route : (verdict.route entry now r).entryNodeId = r.entryNodeId := by
  cases verdict <;> simp only [route] <;> split <;> rfl

theorem route_of_ne (h : r.entryNodeId ≠ some entry.id) : verdict.route entry now r = r := by
  cases verdict <;> simp [route, h]

end EntryVerdict

namespace EntryAutoDrainService

variable (service : EntryAutoDrainService) (settings : EntrySettings) (probeFailures : Uuid → ℤ)
  (now : Time)

/-- The node is written, then its routes, then the events. -/
theorem ends_rewrite (hmid : Mapped g id db mid)
    (hroutes : mid.routes = db.routes) (f : Route → Route)
    (hf : ∀ route, (f route).id = route.id) (hname : ∀ route, (f route).name = route.name) :
    Ends (fun e => e = .checkViolation ∧
        ∃ route ∈ db.routes.rows, p route ∧ ¬ (f route).MeetsChecks)
      (Mapped g (fun route => if p route then f route else route) db)
      (mid.updateRoutes (mid.routes.rows.filter p) f hf >>= fun written =>
        pure (written.notifyAlternativeEntries settings entry)) := by
  rw [← hroutes]
  exact (ends_updateRoutes_filter hf hname).bind fun written hwritten =>
    (hmid.trans hwritten).trans (mapped_notifyAlternativeEntries written)

theorem ends_process : Ends (fun e => e = .checkViolation ∧ ∃ route ∈ db.routes.rows,
        route.entryNodeId = some entry.id ∧
          ¬ ((service.verdict probeFailures entry).route entry now route).MeetsChecks)
      (Mapped ((service.verdict probeFailures entry).node entry now)
        ((service.verdict probeFailures entry).route entry now) db)
      (service.process settings probeFailures now db entry) := by
  unfold process
  cases service.verdict probeFailures entry with
  | skip => exact .refl
  | drain =>
    have hmid : Mapped (EntryVerdict.drain.node entry now) id db (if entry.isDraining then db
          else db.updateNode entry.id (·.drainEntry now) fun _ => rfl) := by
      by_cases hdraining : entry.isDraining
      · rw [if_pos hdraining]
        exact Mapped.refl.congr (fun _ _ => by simp [EntryVerdict.node, hdraining]) fun _ _ => rfl
      · rw [if_neg hdraining]
        exact (mapped_updateNode _ _).congr
          (fun _ _ => by simp [EntryVerdict.node, hdraining]) fun _ _ => rfl
    refine (ends_rewrite settings hmid (by split <;> rfl) Route.block (fun _ => rfl)
      (fun _ => rfl)).mono ?_ fun after h => h.congr (fun _ _ => rfl) fun _ _ => ?_
    · rintro e ⟨rfl, route, hroute, hp, hchecks⟩
      rw [decide_eq_true_iff] at hp
      exact ⟨rfl, route, hroute, hp.1, by rwa [EntryVerdict.route, if_pos hp]⟩
    · simp only [EntryVerdict.route, decide_eq_true_iff]
  | undrain =>
    refine (ends_rewrite settings (mapped_updateNode (·.undrainEntry) fun _ => rfl) rfl
      (·.unblock now) (fun _ => rfl) (fun _ => rfl)).mono ?_ fun after h =>
        h.congr (fun _ _ => rfl) fun _ _ => ?_
    · rintro e ⟨rfl, route, hroute, hp, hchecks⟩
      rw [decide_eq_true_iff] at hp
      exact ⟨rfl, route, hroute, hp.1, by rwa [EntryVerdict.route, if_pos hp]⟩
    · simp only [EntryVerdict.route, decide_eq_true_iff]

/-- What a run does to a node. -/
def node (entries : List VpnNode) (n : VpnNode) : VpnNode :=
  entries.foldl (fun n entry => (service.verdict probeFailures entry).node entry now n) n

/-- What a run does to a route. -/
def route (entries : List VpnNode) (r : Route) : Route :=
  entries.foldl (fun r entry => (service.verdict probeFailures entry).route entry now r) r

variable {entries : List VpnNode} {n : VpnNode}

theorem ends_foldlM_process (db : Database) (hnodup : (entries.map VpnNode.id).Nodup) :
    Ends (fun e => e = .checkViolation ∧ ∃ entry ∈ entries, ∃ route ∈ db.routes.rows,
        route.entryNodeId = some entry.id ∧
          ¬ ((service.verdict probeFailures entry).route entry now route).MeetsChecks)
      (Mapped (service.node probeFailures now entries) (service.route probeFailures now entries) db)
      (entries.foldlM (service.process settings probeFailures now) db) := by
  induction entries generalizing db with
  | nil => exact .refl
  | cons entry _ ih =>
    rw [map_cons, nodup_cons] at hnodup
    rw [foldlM_cons]
    refine .bind ((service.ends_process settings probeFailures now).mono ?_
      fun _ h => h) fun mid hmid => (ih mid hnodup.2).mono ?_ fun after h => hmid.trans h
    · rintro e ⟨rfl, route, hroute⟩
      exact ⟨rfl, entry, mem_cons_self, route, hroute⟩
    · rintro e ⟨rfl, other, hother, route, hroute, hentry, hchecks⟩
      obtain ⟨old, hold, rfl⟩ := hmid.exists_route hroute
      rw [EntryVerdict.entryNodeId_route] at hentry
      -- the route of a later entry has not been touched yet
      have hne : old.entryNodeId ≠ some entry.id := by
        intro heq
        rw [hentry, some.injEq] at heq
        exact hnodup.1 (heq ▸ mem_map_of_mem hother)
      rw [EntryVerdict.route_of_ne _ _ _ hne] at hchecks
      exact ⟨rfl, other, mem_cons_of_mem _ hother, old, hold, hentry, hchecks⟩

theorem nodup_entries (db : Database) : ((service.entries db).map VpnNode.id).Nodup := by
  have hsorted : (db.listEntryCandidates.map VpnNode.id).Nodup :=
    (((perm_insertionSort _ _).map VpnNode.id).nodup_iff).mpr
      (db.nodes.nodup.sublist (filter_sublist.map _))
  exact hsorted.sublist ((take_sublist _ _).map _)

/-- A run changes every node and every route by the verdict on its entry. It fails only if a route
that is warmed up again breaks a check constraint. -/
theorem ends_run (db : Database) :
    Ends (fun e => e = .checkViolation ∧ ∃ entry ∈ service.entries db, ∃ route ∈ db.routes.rows,
        route.entryNodeId = some entry.id ∧
          ¬ ((service.verdict probeFailures entry).route entry now route).MeetsChecks)
      (Mapped (service.node probeFailures now (service.entries db))
        (service.route probeFailures now (service.entries db)) db)
      (service.run settings probeFailures now db) :=
  service.ends_foldlM_process settings probeFailures now db (service.nodup_entries db)

theorem node_of_mem (hnodup : (entries.map VpnNode.id).Nodup)
    (hentry : entry ∈ entries) (hn : n.id = entry.id) :
    service.node probeFailures now entries n =
      (service.verdict probeFailures entry).node entry now n :=
  foldl_of_mem (fun n => some n.id) VpnNode.id
    (fun _ entry h => EntryVerdict.node_of_ne entry now _ fun heq => h (congrArg some heq))
    (fun _ entry => congrArg some (EntryVerdict.id_node entry now _)) hnodup hentry
    (congrArg some hn)

theorem node_of_notMem (h : ∀ entry ∈ entries, n.id ≠ entry.id) :
    service.node probeFailures now entries n = n :=
  foldl_of_notMem (fun n => some n.id) VpnNode.id
    (fun _ entry hne => EntryVerdict.node_of_ne entry now _ fun heq => hne (congrArg some heq))
    fun entry hentry heq => h entry hentry (some.inj heq)

end EntryAutoDrainService

end VpnControl.Fleet
