/-
# Rebalancing placements

`PlacementRebalanceReconciler`: one tick first takes the placements on draining backends out of
service and then gives every key that still has a placement one on every healthy backend. The
second step looks at the table as the first has left it. A key whose only placements were on
draining backends is no longer among the keys with a placement, and gets none.

A tick runs alone, so it is a function of the tables. A tick that returns without a commit
leaves them as they were.
-/

import VpnControl.Vpn.Service

namespace VpnControl.Vpn

open Txn List
open Billing (Uuid Time seconds)
open Table Database

/-! ## The tick -/

/-- The columns of `node_policy` that a tick reads. -/
structure NodePolicy where
  placementRebalanceBatchSize : ℤ
  staleAfterSec : ℤ
  deriving DecidableEq, Repr

/-- The placement is in service: active, with the desired state active. -/
def UserPlacement.InService (placement : UserPlacement) : Prop :=
  placement.isActive = true ∧ placement.desiredState = .active

instance (placement : UserPlacement) : Decidable placement.InService :=
  inferInstanceAs (Decidable (_ ∧ _))

/-- What `_deactivate_placements_on_draining_backends` writes into a placement. -/
def UserPlacement.drain (now : Time) (placement : UserPlacement) : UserPlacement :=
  { placement with
    desiredState := .inactive
    opVersion := placement.opVersion + 1
    lastMigrationReason := some "backend_draining"
    updatedAt := now }

namespace Database

variable (db : Database)

def OnDraining (placement : UserPlacement) : Prop :=
  (db.nodes.find? placement.backendNodeId).any VpnNode.isDraining = true

instance (placement : UserPlacement) : Decidable (db.OnDraining placement) :=
  inferInstanceAs (Decidable (_ = true))

/-- The `WHERE` of `_deactivate_placements_on_draining_backends`. -/
def drains (placement : UserPlacement) : Bool := db.OnDraining placement ∧ placement.InService

/-- The ids that `_deactivate_placements_on_draining_backends` returns. -/
def drainedIds : List Uuid := (db.placements.rows.filter db.drains).map UserPlacement.id

/-- The tables after `_deactivate_placements_on_draining_backends`. -/
def drain (now : Time) : Database :=
  { db with placements := db.placements.modifyWhere db.drains (UserPlacement.drain now) fun _ => rfl }

/-- The tables after `enqueue_for_placement_ids`. -/
def enqueueForPlacementIds (ids : List Uuid) : Database :=
  db.apply (.enqueueMany ((db.transportRows ids).flatMap (placementCommands db)))

/-- `_find_healthy_backend_node_ids`. -/
def findHealthyBackendNodeIds (now : Time) (staleAfterSec : ℤ) : List Uuid :=
  (db.nodes.rows.filter fun node =>
    node.isActive ∧ node.isEnabled ∧ ¬ node.isDraining ∧ node.role = .backend ∧
      (node.agentState.any fun agent =>
        agent.isHealthy ∧ agent.lastSeenAt.any (now - seconds staleAfterSec ≤ ·)) ∧
      db.routes.rows.any fun route => route.nodeId = node.id ∧ route.entryNodeId.isSome).map
    VpnNode.id

def Places (key node : Uuid) : Prop :=
  ∃ placement ∈ db.placements.rows, placement.keyId = key ∧ placement.backendNodeId = node ∧
    placement.InService

instance (key node : Uuid) : Decidable (db.Places key node) :=
  inferInstanceAs (Decidable (∃ placement ∈ db.placements.rows, _))

def activeKeys : List Uuid :=
  ((db.placements.rows.filter fun placement => placement.InService).map UserPlacement.keyId).dedup

/-- `UserPlacementRepository.find_missing_placements`. -/
def findMissingPlacements (healthy : List Uuid) (batchSize : ℕ) : List (Uuid × Uuid) :=
  ((db.activeKeys.flatMap fun key => healthy.map (key, ·)).filter fun pair =>
    ¬ db.Places pair.1 pair.2).take batchSize

end Database

/-- The rows for some pairs of a key and a backend, with the ids that the database draws. -/
def pendingRows (uuids : ℕ → Uuid) (pairs : List (Uuid × Uuid)) (desired : PlacementDesiredState)
    (reason : Option String) (now : Time) : List UserPlacement :=
  pairs.mapIdx fun index pair => .pending (uuids index) pair.1 pair.2 desired reason now

/-- `UserPlacementRepository.bulk_upsert_set_pending`: the ids it returns and the tables after
it. -/
def bulkUpsertSetPending (rows : List UserPlacement) (db : Database) : List Uuid × Database :=
  let upserted := rows.foldl Database.upsertSetPending db
  ((upserted.placements.rows.filter fun placement =>
    rows.any fun row => row.SameHome placement).map UserPlacement.id, upserted)

/-- `PlacementRebalanceReconciler._execute_tick`: what it returns, and the committed tables. -/
def executeTick (policy : NodePolicy) (now : Time) (uuids : ℕ → Uuid) (db : Database) :
    ℕ × Database :=
  let batchSize := (max 1 policy.placementRebalanceBatchSize).toNat
  let staleAfterSec := max 30 policy.staleAfterSec
  let drainedIds := db.drainedIds
  let drained :=
    if drainedIds ≠ [] then (db.drain now).enqueueForPlacementIds drainedIds else db.drain now
  let healthy := drained.findHealthyBackendNodeIds now staleAfterSec
  if healthy.length < 2 then (0, if drainedIds ≠ [] then drained else db)
  else
    let missing := drained.findMissingPlacements healthy batchSize
    -- nothing is committed on this way out, so the drained placements come back
    if missing = [] then (0, db)
    else
      let (createdIds, upserted) :=
        bulkUpsertSetPending (pendingRows uuids missing .active (some "rebalance") now) drained
      (createdIds.length,
        if createdIds ≠ [] then upserted.enqueueForPlacementIds createdIds else upserted)

/-! ## Keys in service -/

namespace Database

variable {db : Database} {key : Uuid}

def Serves (db : Database) (key : Uuid) : Prop :=
  ∃ placement ∈ db.placements.rows, placement.keyId = key ∧ placement.InService

instance : Decidable (db.Serves key) :=
  inferInstanceAs (Decidable (∃ placement ∈ db.placements.rows, _))

/-- Some placement of the key is in service on a node that is not being drained. -/
def ServesSafely (db : Database) (key : Uuid) : Prop :=
  ∃ placement ∈ db.placements.rows, placement.keyId = key ∧ placement.InService ∧
    ¬ db.OnDraining placement

instance : Decidable (db.ServesSafely key) :=
  inferInstanceAs (Decidable (∃ placement ∈ db.placements.rows, _))

/-- Every key that is served safely has a placement in service on each of the nodes. -/
def FullyPlaced (db : Database) (nodes : List Uuid) : Prop :=
  ∀ placement ∈ db.placements.rows, placement.InService → ¬ db.OnDraining placement →
    ∀ node ∈ nodes, db.Places placement.keyId node

theorem mem_activeKeys : key ∈ db.activeKeys ↔ db.Serves key := by
  simp [activeKeys, Serves, and_comm, and_left_comm]

/-- Draining leaves the placements in service that are not on a draining node. -/
theorem mem_drain_inService (hservice : placement.InService) :
    placement ∈ (db.drain now).placements.rows ↔
      placement ∈ db.placements.rows ∧ ¬ db.OnDraining placement := by
  have hrows : (db.drain now).placements.rows = db.placements.rows.map fun old =>
      if db.drains old then old.drain now else old := rfl
  rw [hrows, mem_map]
  constructor
  · rintro ⟨old, hold, rfl⟩
    split at hservice
    · exact absurd hservice.2 (by simp [UserPlacement.drain])
    · rename_i hkept
      rw [if_neg hkept]
      refine ⟨hold, fun hdraining => hkept ?_⟩
      simp [drains, hdraining, hservice]
  · rintro ⟨hmem, hsafe⟩
    exact ⟨placement, hmem, by simp [drains, hsafe]⟩

theorem serves_drain : (db.drain now).Serves key ↔ db.ServesSafely key := by
  constructor
  · rintro ⟨placement, hmem, hkey, hservice⟩
    obtain ⟨hold, hsafe⟩ := (mem_drain_inService hservice).mp hmem
    exact ⟨placement, hold, hkey, hservice, hsafe⟩
  · rintro ⟨placement, hold, hkey, hservice, hsafe⟩
    exact ⟨placement, (mem_drain_inService hservice).mpr ⟨hold, hsafe⟩, hkey, hservice⟩

/-- An upsert of the state active keeps every key in service, and puts only its own key into
service. -/
theorem serves_upsertSetPending (hactive : row.desiredState = .active)
    (hrow : db.Serves row.keyId) : (db.upsertSetPending row).Serves key ↔ db.Serves key := by
  unfold upsertSetPending
  split
  · have hrows : (db.placements.modifyWhere (fun old => row.SameHome old) row.setPending
        fun _ => rfl).rows = db.placements.rows.map fun old =>
          if row.SameHome old then row.setPending old else old := by
      simp [Table.modifyWhere]
    unfold Serves
    dsimp only
    rw [hrows]
    constructor
    · rintro ⟨placement, hmem, rfl, hservice⟩
      obtain ⟨old, hold, rfl⟩ := mem_map.mp hmem
      split at hservice
      · rename_i hhome
        rw [if_pos hhome]
        exact hhome.1 ▸ hrow
      · rename_i hother
        rw [if_neg hother]
        exact ⟨old, hold, rfl, hservice⟩
    · rintro ⟨placement, hmem, rfl, hservice⟩
      refine ⟨_, mem_map.mpr ⟨placement, hmem, rfl⟩, ?_⟩
      split
      · exact ⟨rfl, rfl, hactive⟩
      · exact ⟨rfl, hservice⟩
  · constructor
    · rintro ⟨placement, hmem, rfl, hservice⟩
      rcases mem_rows_insert hmem with hold | rfl
      · exact ⟨placement, hold, rfl, hservice⟩
      · exact hrow
    · rintro ⟨placement, hmem, rfl, hservice⟩
      exact ⟨placement, mem_insert_of_mem hmem, rfl, hservice⟩

theorem serves_upserts {rows : List UserPlacement}
    (hrows : ∀ row ∈ rows, row.desiredState = .active ∧ db.Serves row.keyId) :
    (rows.foldl upsertSetPending db).Serves key ↔ db.Serves key := by
  induction rows generalizing db with
  | nil => rfl
  | cons row _ ih =>
    obtain ⟨hactive, hrow⟩ := hrows row (by simp)
    have hstep : ∀ other, (db.upsertSetPending row).Serves other ↔ db.Serves other :=
      fun other => serves_upsertSetPending hactive hrow
    refine (ih fun other hother => ?_).trans (hstep key)
    obtain ⟨hdesired, hserved⟩ := hrows other (by simp [hother])
    exact ⟨hdesired, (hstep _).mpr hserved⟩

/-! ## The pairs that are missing -/

variable {healthy : List Uuid} {batchSize : ℕ}

theorem findMissingPlacements_eq_nil (hbatch : 0 < batchSize) :
    db.findMissingPlacements healthy batchSize = [] ↔
      ∀ key, db.Serves key → ∀ node ∈ healthy, db.Places key node := by
  rw [findMissingPlacements, take_eq_nil_iff, or_iff_right hbatch.ne', filter_eq_nil_iff]
  constructor
  · intro h key hkey node hnode
    have hpair : (key, node) ∈ db.activeKeys.flatMap fun key => healthy.map (key, ·) :=
      mem_flatMap.mpr ⟨key, mem_activeKeys.mpr hkey, mem_map.mpr ⟨node, hnode, rfl⟩⟩
    simpa using h (key, node) hpair
  · intro h pair hpair
    obtain ⟨key, hkey, hmem⟩ := mem_flatMap.mp hpair
    obtain ⟨node, hnode, rfl⟩ := mem_map.mp hmem
    simpa using h key (mem_activeKeys.mp hkey) node hnode

theorem places_drain (hnode : ∀ row, db.nodes.find? node = some row → row.isDraining = false) :
    (db.drain now).Places key node ↔ db.Places key node := by
  constructor
  · rintro ⟨placement, hmem, hkey, hhome, hservice⟩
    exact ⟨placement, ((mem_drain_inService hservice).mp hmem).1, hkey, hhome, hservice⟩
  · rintro ⟨placement, hmem, hkey, hhome, hservice⟩
    refine ⟨placement, (mem_drain_inService hservice).mpr ⟨hmem, ?_⟩, hkey, hhome, hservice⟩
    intro hdraining
    unfold OnDraining at hdraining
    rw [hhome] at hdraining
    obtain ⟨row, hrow, hrowDraining⟩ := (Option.any_eq_true _ _).mp hdraining
    rw [hnode row hrow] at hrowDraining
    cases hrowDraining

theorem not_draining_of_healthy (h : node ∈ db.findHealthyBackendNodeIds now staleAfterSec) :
    ∀ row, db.nodes.find? node = some row → row.isDraining = false := by
  intro row hrow
  obtain ⟨found, hfound, rfl⟩ := mem_map.mp h
  obtain ⟨hmem, hhealthy⟩ := mem_filter.mp hfound
  have hsame : some found = some row := (Table.find?_of_mem hmem).symm.trans hrow
  obtain rfl := Option.some.inj hsame
  simp only [decide_eq_true_eq] at hhealthy
  simpa using hhealthy.2.2.1

/-- No pair is missing after the draining exactly when the keys that are served safely are
fully placed. -/
theorem findMissingPlacements_drain_eq_nil (now : Time) (staleAfterSec : ℤ)
    (hbatch : 0 < batchSize) :
    (db.drain now).findMissingPlacements (db.findHealthyBackendNodeIds now staleAfterSec)
        batchSize = [] ↔
      db.FullyPlaced (db.findHealthyBackendNodeIds now staleAfterSec) := by
  rw [findMissingPlacements_eq_nil hbatch]
  constructor
  · intro h placement hmem hservice hsafe node hnode
    have hserves : (db.drain now).Serves placement.keyId :=
      serves_drain.mpr ⟨placement, hmem, rfl, hservice, hsafe⟩
    exact (places_drain (not_draining_of_healthy hnode)).mp (h _ hserves node hnode)
  · intro h key hserves node hnode
    obtain ⟨placement, hmem, rfl, hservice, hsafe⟩ := serves_drain.mp hserves
    exact (places_drain (not_draining_of_healthy hnode)).mpr
      (h placement hmem hservice hsafe node hnode)

/-! ## The ways out of a tick -/

theorem enqueueForPlacementIds_nil : db.enqueueForPlacementIds [] = db := by
  simp [enqueueForPlacementIds, transportRows, apply]

theorem drain_of_drainedIds_eq_nil (h : db.drainedIds = []) : db.drain now = db := by
  have hnone := filter_eq_nil_iff.mp (map_eq_nil_iff.mp h)
  exact congrArg (fun placements => { db with placements }) (modifyWhere_of_none hnone)

/-- The tables when a tick has drained and looks for healthy backends. -/
def drained (db : Database) (now : Time) : Database :=
  (db.drain now).enqueueForPlacementIds db.drainedIds

/-- The backends that a tick takes for healthy. -/
def healthyNodes (db : Database) (policy : NodePolicy) (now : Time) : List Uuid :=
  db.findHealthyBackendNodeIds now (max 30 policy.staleAfterSec)

end Database

variable {uuids : ℕ → Uuid}

theorem of_mem_pendingRows (h : row ∈ pendingRows uuids pairs desired reason now) :
    row.desiredState = desired ∧ (row.keyId, row.backendNodeId) ∈ pairs ∧
      ∃ id, row = .pending id row.keyId row.backendNodeId desired reason now := by
  obtain ⟨index, hindex, rfl⟩ := mem_mapIdx.mp h
  exact ⟨rfl, getElem_mem hindex, _, rfl⟩

/-- The three ways in which a tick returns: it keeps the draining, it drops it, or it keeps it
and places keys that were still served on healthy backends. -/
theorem executeTick_cases :
    (db.healthyNodes policy now).length < 2 ∧ (executeTick policy now uuids db).2 = db.drained now ∨
      2 ≤ (db.healthyNodes policy now).length ∧ db.FullyPlaced (db.healthyNodes policy now) ∧
        (executeTick policy now uuids db).2 = db ∨
      2 ≤ (db.healthyNodes policy now).length ∧ ¬ db.FullyPlaced (db.healthyNodes policy now) ∧
        ∃ (rows : List UserPlacement) (ids : List Uuid), (executeTick policy now uuids db).2 =
            (rows.foldl Database.upsertSetPending (db.drained now)).enqueueForPlacementIds ids ∧
          ∀ row ∈ rows, row.desiredState = .active ∧ (db.drain now).Serves row.keyId ∧
            row.backendNodeId ∈ db.healthyNodes policy now ∧
            ∃ id, row = .pending id row.keyId row.backendNodeId .active (some "rebalance") now := by
  have hbatch : 0 < (max 1 policy.placementRebalanceBatchSize).toNat := by omega
  unfold executeTick
  dsimp only
  have hdrained : (if db.drainedIds ≠ [] then
      (db.drain now).enqueueForPlacementIds db.drainedIds else db.drain now) = db.drained now := by
    split
    · rfl
    · rename_i hnone
      rw [Database.drained, not_not.mp hnone, enqueueForPlacementIds_nil]
  rw [hdrained, show (db.drained now).findHealthyBackendNodeIds now (max 30 policy.staleAfterSec) =
    db.healthyNodes policy now from rfl]
  split
  · rename_i hfew
    refine .inl ⟨hfew, ?_⟩
    split
    · rfl
    · rename_i hnone
      rw [Database.drained, drain_of_drainedIds_eq_nil (not_not.mp hnone),
        not_not.mp hnone, enqueueForPlacementIds_nil]
  · rename_i hmany
    refine .inr ?_
    -- the commands in the outbox are nothing that the search for missing pairs looks at
    rw [show (db.drained now).findMissingPlacements = (db.drain now).findMissingPlacements from rfl]
    have hmissing := @findMissingPlacements_drain_eq_nil db _ now
      (max 30 policy.staleAfterSec) hbatch
    split
    · rename_i hnone
      exact .inl ⟨not_lt.mp hmany, hmissing.mp hnone, rfl⟩
    · rename_i hsome
      generalize hrows : pendingRows uuids ((db.drain now).findMissingPlacements
        (db.healthyNodes policy now) (max 1 policy.placementRebalanceBatchSize).toNat) .active
        (some "rebalance") now = rows
      refine .inr ⟨not_lt.mp hmany, fun hfull => hsome (hmissing.mpr hfull), rows,
        (bulkUpsertSetPending rows (db.drained now)).1, ?_, fun row hrow => ?_⟩
      · dsimp only
        split
        · rfl
        · rename_i hnone
          rw [not_not.mp hnone, enqueueForPlacementIds_nil]
          rfl
      · rw [← hrows] at hrow
        obtain ⟨hactive, hpair, hpending⟩ := of_mem_pendingRows hrow
        have hcross := mem_of_mem_filter (mem_of_mem_take hpair)
        obtain ⟨key, hkey, hpair⟩ := mem_flatMap.mp hcross
        obtain ⟨node, hhealthy, hsame⟩ := mem_map.mp hpair
        obtain ⟨rfl, rfl⟩ := Prod.mk.inj hsame
        exact ⟨hactive, mem_activeKeys.mp hkey, hhealthy, hpending⟩

/-! ## Keys in service after a tick -/

/-- With two healthy backends, a key that is in service stays in service exactly when one of its
placements in service is on a node that is not being drained, or nothing is missing for the
keys that have such a placement. -/
theorem rebalance_keeps_key_iff {policy : NodePolicy} {now : Time} {uuids : ℕ → Uuid}
    {db : Database} {key : Uuid} (hkey : db.Serves key)
    (hhealthy : 2 ≤ (db.findHealthyBackendNodeIds now (max 30 policy.staleAfterSec)).length) :
    (executeTick policy now uuids db).2.Serves key ↔ db.ServesSafely key ∨
        db.FullyPlaced (db.findHealthyBackendNodeIds now (max 30 policy.staleAfterSec)) := by
  rcases executeTick_cases with
    ⟨hfew, -⟩ | ⟨-, hfull, hafter⟩ | ⟨-, hgap, rows, ids, hafter, hrows⟩
  · exact absurd hfew (not_lt.mpr hhealthy)
  · rw [hafter]
    exact ⟨fun _ => .inr hfull, fun _ => hkey⟩
  · rw [hafter]
    refine Iff.trans (?_ : _ ↔ db.ServesSafely key) (or_iff_left hgap).symm
    rw [← serves_drain]
    exact @serves_upserts (db.drained now) _ _ fun row hrow =>
      ⟨(hrows row hrow).1, (hrows row hrow).2.1⟩

/-- Backends 50 and 51 are healthy, backend 52 is being drained. Key 30 is placed on the backend
that is being drained and, if `safe`, on backend 50. Key 31 is placed on backend 50. -/
def drainingBackend (safe : Bool) : Database :=
  let healthyNode (id : Uuid) : VpnNode :=
    { id := id, agentState := some { isHealthy := true, lastSeenAt := some 0 } }
  let home (id key node : Uuid) : UserPlacement :=
    { UserPlacement.pending id key node .active none 0 with appliedState := .applied }
  { Database.empty with
    nodes := [healthyNode 50, healthyNode 51, { healthyNode 52 with isDraining := true }].foldl
      Table.insert .empty
    routes := [⟨60, 50, some 70⟩, ⟨61, 51, some 70⟩, ⟨62, 52, some 70⟩].foldl
      (fun routes route => routes.insert (route : Route)) .empty
    placements := ([home 40 30 52, home 41 31 50] ++ if safe then [home 42 30 50] else []).foldl
      Table.insert .empty }

def rebalancePolicy : NodePolicy where
  placementRebalanceBatchSize := 200
  staleAfterSec := 90

/-- Key 30 loses its only placement: when the missing pairs are computed, it has none in
service. -/
theorem rebalance_strands_key :
    2 ≤ ((drainingBackend false).findHealthyBackendNodeIds 0 90).length ∧
      (drainingBackend false).Serves 30 ∧
      ¬ (executeTick rebalancePolicy 0 (· + 100) (drainingBackend false)).2.Serves 30 := by
  decide +kernel

/-- A second placement on a healthy backend keeps the key in service. -/
theorem rebalance_keeps_key_safe : (drainingBackend true).ServesSafely 30 ∧
      (executeTick rebalancePolicy 0 (· + 100) (drainingBackend true)).2.Serves 30 := by
  have hsafe : (drainingBackend true).ServesSafely 30 := by decide +kernel
  have hkey : (drainingBackend true).Serves 30 := by decide +kernel
  have hhealthy : 2 ≤ ((drainingBackend true).findHealthyBackendNodeIds 0
      (max 30 rebalancePolicy.staleAfterSec)).length := by
    decide +kernel
  exact ⟨hsafe, (rebalance_keeps_key_iff hkey hhealthy).mpr (Or.inl hsafe)⟩

/-! ## Work that a tick loses -/

namespace Database

variable {db : Database} {id : Uuid}

/-- The tables keep what draining has done: the placements are out of service, and the commands
about them are in the outbox. -/
def KeepsDrain (db : Database) (now : Time) (after : Database) : Prop :=
  (∀ id ∈ db.drainedIds, after.placements.find? id = (db.drain now).placements.find? id) ∧
    ∀ item ∈ (db.drained now).outbox.rows, item ∈ after.outbox.rows

theorem find?_upserts {rows : List UserPlacement}
    (hold : db.placements.find? id = some old) (hother : ∀ row ∈ rows, ¬ row.SameHome old) :
    (rows.foldl upsertSetPending db).placements.find? id = some old := by
  induction rows generalizing db with
  | nil => exact hold
  | cons row _ ih =>
    refine ih ?_ fun next hnext => hother next (by simp [hnext])
    unfold upsertSetPending
    split
    · refine (Table.find?_modifyWhere row.setPending (fun _ => rfl) ..).trans ?_
      rw [hold, Option.map_some, if_neg (by simpa using hother row (by simp))]
    · exact find?_insert_of_some hold

theorem outbox_upserts (rows : List UserPlacement) :
    (rows.foldl upsertSetPending db).outbox = db.outbox := by
  induction rows generalizing db with
  | nil => rfl
  | cons row _ ih => exact ih

theorem exists_of_mem_drainedIds (h : id ∈ db.drainedIds) :
    ∃ old, db.placements.find? id = some old ∧ db.drains old = true ∧
      (db.drain now).placements.find? id = some (old.drain now) := by
  obtain ⟨old, hold, rfl⟩ := mem_map.mp h
  obtain ⟨hmem, hdrains⟩ := mem_filter.mp hold
  have hfind : db.placements.find? old.id = some old := Table.find?_of_mem hmem
  refine ⟨old, hfind, hdrains,
    (Table.find?_modifyWhere (UserPlacement.drain now) (fun _ => rfl) ..).trans ?_⟩
  rw [hfind, Option.map_some, if_pos hdrains]

end Database

/-- A tick keeps what draining has done exactly when there was nothing to drain, or fewer than
two backends are healthy, or something is missing on them. -/
theorem rebalance_keeps_drain_iff {policy : NodePolicy} {now : Time} {uuids : ℕ → Uuid}
    {db : Database} :
    db.KeepsDrain now (executeTick policy now uuids db).2 ↔ db.drainedIds = [] ∨
        (db.findHealthyBackendNodeIds now (max 30 policy.staleAfterSec)).length < 2 ∨
        ¬ db.FullyPlaced (db.findHealthyBackendNodeIds now (max 30 policy.staleAfterSec)) := by
  rcases executeTick_cases with
    ⟨hfew, hafter⟩ | ⟨hmany, hfull, hafter⟩ | ⟨-, hgap, rows, ids, hafter, hrows⟩ <;> rw [hafter]
  · exact ⟨fun _ => .inr (.inl hfew), fun _ => ⟨fun _ _ => rfl, fun _ hitem => hitem⟩⟩
  · constructor
    · intro hkeeps
      refine .inl (List.eq_nil_iff_forall_not_mem.mpr fun id hid => ?_)
      -- the row is as it was, and it was in service
      obtain ⟨old, hold, hdrains, hdrained⟩ := exists_of_mem_drainedIds hid
      have hsame : old = old.drain now :=
        Option.some.inj (hold.symm.trans ((hkeeps.1 id hid).trans hdrained))
      have hservice : old.InService := (of_decide_eq_true hdrains).2
      rw [hsame] at hservice
      cases hservice.2
    · rintro (hnone | hfew | hgap)
      · refine ⟨fun id hid => absurd hid (by simp [hnone]), fun item hitem => ?_⟩
        rwa [Database.drained, hnone, enqueueForPlacementIds_nil] at hitem
      · exact absurd hfew (not_lt.mpr hmany)
      · exact absurd hfull hgap
  · refine ⟨fun _ => .inr (.inr hgap), fun _ => ⟨fun id hid => ?_, fun item hitem => ?_⟩⟩
    · obtain ⟨old, -, hdrains, hdrained⟩ := exists_of_mem_drainedIds hid
      rw [hdrained]
      refine @Database.find?_upserts (db.drained now) _ _ _ hdrained fun row hrow hhome => ?_
      -- the row goes to a healthy backend, and those are not being drained
      have hnode := not_draining_of_healthy (hrows row hrow).2.2.1
      have hdraining : db.OnDraining old := (of_decide_eq_true hdrains).1
      obtain ⟨node, hfound, htrue⟩ := (Option.any_eq_true _ _).mp hdraining
      rw [hnode node ((congrArg db.nodes.find? hhome.2).trans hfound)] at htrue
      cases htrue
    · obtain ⟨added, hrows, -⟩ := exists_rows_foldl_insert (_ : Table NodeTransportOutbox)
      refine hrows ▸ List.mem_append_left added ?_
      rwa [outbox_upserts]

/-- Key 30 is in service on every backend, on the one that is being drained as well. -/
def placedEverywhere : Database :=
  { drainingBackend true with
    placements := [52, 50, 51].foldl (fun placements node => placements.insert
      (.pending (node - 10) 30 node .active none 0)) .empty }

/-- Nothing is missing on the healthy backends, and the placement on the other one stays in
service. -/
theorem rebalance_loses_drain : placedEverywhere.drainedIds = [42] ∧
      (executeTick rebalancePolicy 0 (· + 100) placedEverywhere).1 = 0 ∧
      ¬ placedEverywhere.KeepsDrain 0 (executeTick rebalancePolicy 0 (· + 100) placedEverywhere).2 := by
  refine ⟨by decide +kernel, by decide +kernel, fun hkeeps => ?_⟩
  have hrow := hkeeps.1 42 (by decide +kernel)
  exact absurd hrow (by decide +kernel)

end VpnControl.Vpn
