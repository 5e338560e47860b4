/-
# Operations on placements

The services and reconcilers that write placements and send the commands about them, each in one
transaction: a change of rows by `UserPlacementRepository`, followed by
`enqueue_for_placement_ids` for the rows it has changed. An operation that raises leaves nothing
behind.
-/

import Mathlib.Data.List.MinMax
import Mathlib.Data.List.Sort
import VpnControl.Placements.Repository

namespace VpnControl.Vpn

open Txn
open Billing (Uuid Time)

structure UserPlacementUpsertIn where
  keyId : Uuid
  backendNodeId : Uuid
  desiredState : PlacementDesiredState := .active
  lastMigrationReason : Option String := none
  deriving DecidableEq, Repr

structure PlacementMigrateBackendIn where
  sourceBackendId : Uuid
  targetBackendId : Option Uuid := none
  lastMigrationReason : String := "admin_manual"
  deriving DecidableEq, Repr

inductive PlacementError
  | keyNotFound | backendNotFound | upsertFailed
  | sameBackend | sourceNotFound | targetNotFound | noEligibleTarget | targetNotEligible
  | integrityError
  deriving DecidableEq, Repr

namespace Database

variable (db : Database)

/-! ## Upserts and changes of the desired state -/

/-- `UserPlacementService.upsert`, with the id that the database draws. -/
def upsertPlacement (id : Uuid) (payload : UserPlacementUpsertIn) (now : Time) :
    Except PlacementError Database :=
  if db.keys.find? payload.keyId = none then .error .keyNotFound
  else if db.nodes.find? payload.backendNodeId = none then .error .backendNotFound
  else
    let upserted := db.upsertSetPending (.pending id payload.keyId payload.backendNodeId
      payload.desiredState payload.lastMigrationReason now)
    match upserted.placements.rows.filter fun placement =>
      placement.keyId = payload.keyId ∧ placement.backendNodeId = payload.backendNodeId ∧
        placement.isActive with
    | [placement] => .ok (upserted.enqueueForPlacementIds [placement.id])
    | _ => .error .upsertFailed

/-- The upserts of active placements by which a payload, a routeset or a rebalance tick places
keys. -/
def placeKeys (uuids : ℕ → Uuid) (pairs : List (Uuid × Uuid)) (reason : Option String)
    (now : Time) : Database :=
  let upserted := bulkUpsertSetPending (pendingRows uuids pairs .active reason now) db
  upserted.2.enqueueForPlacementIds upserted.1

/-- `set_desired_state_for_key` and `enqueue_for_key_state`, as the services of keys,
subscriptions and traffic call them. -/
def changeKeyState (key : Uuid) (desired : PlacementDesiredState) (reason : String) (now : Time) :
    Database :=
  let changed := db.setDesiredStateForKey key desired reason now none
  changed.enqueueForPlacementIds (changed.activePlacementIds key desired)

/-- The placements that a reconciler of expired keys or subscriptions takes out of service. -/
def expireKeys (keys : List Uuid) (reason : String) (now : Time) : Database :=
  let ids := (db.placements.rows.filter (redirectsMany keys .inactive)).map UserPlacement.id
  (db.apply (.setDesiredStateMany keys .inactive reason now)).enqueueForPlacementIds ids

/-- A node that was a backend gets another role. -/
def swapRole (node : Uuid) (reason : String) (now : Time) : Database :=
  let deactivated := db.deactivatePlacementsOnNode node reason now
  deactivated.2.enqueueForPlacementIds deactivated.1

/-- A synthetic probe finds a backend that does not serve its key. -/
def requeueBackend (backend : Uuid) (reason : Option String) (now : Time) : Database :=
  let requeued := db.setPendingForBackend backend reason now
  requeued.2.enqueueForPlacementIds requeued.1

/-- The part of a synthetic reconciliation that places one key on the backends it is wanted
on and nowhere else. -/
def reconcileSynthetic (uuids : ℕ → Uuid) (key : Uuid) (desiredBackends : List Uuid)
    (now : Time) : Database :=
  let active := (db.placements.rows.filter fun placement =>
    placement.keyId = key ∧ placement.InService).map UserPlacement.backendNodeId
  let toActivate := (desiredBackends.dedup.filter (· ∉ active)).insertionSort (· ≤ ·)
  let toDeactivate := (active.dedup.filter (· ∉ desiredBackends)).insertionSort (· ≤ ·)
  let reason := "probe_synthetic_reconcile"
  let upserted := bulkUpsertSetPending
    (pendingRows uuids (toActivate.map (key, ·)) .active (some reason) now) db
  let listed := (upserted.2.placements.rows.filter fun placement =>
    placement.keyId = key ∧ placement.InService ∧ placement.backendNodeId ∈ toDeactivate).map
      UserPlacement.id
  (upserted.2.setDesiredStateForKey key .inactive reason now (some toDeactivate))
    |>.enqueueForPlacementIds (upserted.1 ++ listed)

/-! ## Moving placements between backends -/

/-- The placements in service on a node, the last changed first. -/
def placementsInService (node : Uuid) : List UserPlacement :=
  (db.placements.rows.filter fun placement =>
    placement.backendNodeId = node ∧ placement.InService).insertionSort
      fun first second => second.updatedAt ≤ first.updatedAt

/-- `bulk_migrate_backend` and the commands for the placements on the target. -/
def migratePlacements (ids : List Uuid) (target : Uuid) (reason : Option String) (now : Time) :
    Option Database :=
  (db.bulkMigrateBackend ids target reason now).map fun migrated =>
    migrated.2.enqueueForPlacementIds migrated.1

variable (payload : PlacementMigrateBackendIn)

/-- The target of `migrate_backend`: the one that is asked for, or the best one that
`select_nodes` returns when the source is excluded. -/
def migrationTarget (selected : List Uuid) :
    Except PlacementError VpnNode :=
  match payload.targetBackendId with
  | some target =>
    match db.nodes.find? target with
    | none => .error .targetNotFound
    | some node => .ok node
  | none =>
    match (selected.filter (· ≠ payload.sourceBackendId)).filterMap db.nodes.find? with
    | [] => .error .noEligibleTarget
    | node :: _ => .ok node

/-- `UserPlacementService.migrate_backend`. -/
def migrateBackend (selected : List Uuid) (now : Time) :
    Except PlacementError Database := do
  if payload.targetBackendId = some payload.sourceBackendId then .error .sameBackend
  else if db.nodes.find? payload.sourceBackendId = none then .error .sourceNotFound
  else
    let target ← db.migrationTarget payload selected
    if ¬ target.isActive ∨ ¬ target.isEnabled ∨ target.isDraining then .error .targetNotEligible
    else
      match db.migratePlacements
        ((db.placementsInService payload.sourceBackendId).map UserPlacement.id) target.id
        (some payload.lastMigrationReason) now with
      | none => .error .integrityError
      | some migrated => .ok migrated

/-- The nodes of `map_active_backend_nodes_by_key`. -/
def activeBackendNodes (key : Uuid) : List Uuid :=
  (db.placements.rows.filter fun placement => placement.keyId = key ∧ placement.isActive).map
    UserPlacement.backendNodeId

/-- The placements on a node whose keys have no placement on another candidate. -/
def orphanPlacements (source : Uuid) (candidates : List Uuid) : List UserPlacement :=
  (db.placementsInService source).filter fun placement =>
    ¬ (db.activeBackendNodes placement.keyId).any fun node => node ≠ source ∧ node ∈ candidates

/-- Give each orphan the candidate with the fewest orphans so far, among those that its key is
not on if there are such. -/
def distribute (candidates : List Uuid) (orphans : List UserPlacement) : List (Uuid × Uuid) :=
  orphans.foldl (fun assigned placement =>
      let fresh := candidates.filter (· ∉ db.activeBackendNodes placement.keyId)
      let available := if fresh = [] then candidates else fresh
      match available.argmin fun node => assigned.countP (·.2 = node) with
      | none => assigned
      | some best => assigned ++ [(placement.id, best)])
    []

/-- `PlacementAutoHealService._smart_migrate_placements`, with what `select_nodes` returns when
the source is excluded. Nothing is left when one of the moves fails. -/
def smartMigratePlacements (source : Uuid) (selected : List Uuid) (now : Time) : Option Database :=
  let candidates := selected.filter (· ≠ source)
  let assigned := db.distribute candidates (db.orphanPlacements source candidates)
  (assigned.map Prod.snd).reverse.dedup.reverse.foldlM
    (fun current target => current.migratePlacements
      ((assigned.filter (·.2 = target)).map Prod.fst) target (some "node_auto_heal") now) db

end Database

end VpnControl.Vpn
