/-
# The placement repository

`UserPlacementRepository` and the two reconcilers that write placements themselves. Each method
is a function of the tables. A placement is written by upserts, by `UPDATE`s that ask a node to
do something, which raise `op_version` and put the row back to pending, and by the reports of the
nodes, which record what has been done.
-/

import VpnControl.Vpn.Rebalance

namespace VpnControl.Vpn

open Txn
open Billing (Uuid Time seconds)

/-! ## What the statements write into a row -/

namespace UserPlacement

/-- What `set_pending_for_backend` writes. -/
def resend (reason : Option String) (now : Time) (placement : UserPlacement) : UserPlacement :=
  { placement with
    appliedState := .pending
    opVersion := placement.opVersion + 1
    lastMigrationReason := reason
    updatedAt := now }

/-- What an error-retry tick writes. -/
def retry (now : Time) (placement : UserPlacement) : UserPlacement :=
  { placement with
    appliedState := .pending
    opVersion := placement.opVersion + 1
    updatedAt := now }

/-- What `bulk_migrate_backend` writes into a placement that moves. -/
def moveTo (target : Uuid) (reason : Option String) (now : Time) (placement : UserPlacement) :
    UserPlacement :=
  { placement with
    backendNodeId := target
    appliedState := .pending
    opVersion := placement.opVersion + 1
    lastMigrationReason := reason
    updatedAt := now }

/-- What `bulk_migrate_backend` writes into the placement on the target when the key has one
there. -/
def mergeFrom (source : UserPlacement) (reason : Option String) (now : Time)
    (placement : UserPlacement) : UserPlacement :=
  { placement with
    desiredState := source.desiredState
    appliedState := .pending
    opVersion := placement.opVersion + 1
    lastMigrationReason := reason
    isActive := true
    updatedAt := now }

/-- What `bulk_migrate_backend` writes into a placement that has been merged into another. -/
def retire (now : Time) (placement : UserPlacement) : UserPlacement :=
  { placement with isActive := false, updatedAt := now }

/-- What the report of a node writes. -/
def report (outcome : PlacementAppliedState) (now : Time) (placement : UserPlacement) :
    UserPlacement :=
  { placement with
    appliedState := outcome
    appliedVersion := placement.opVersion
    updatedAt := now }

end UserPlacement

/-- One item of `bulk_apply_backend_report`. The `applied_version` that the items carry is not
read. -/
structure PlacementResultApply where
  id : Uuid
  opVersion : ℕ
  backendNodeId : Uuid
  appliedState : PlacementAppliedState
  updatedAt : Time
  deriving DecidableEq, Repr

/-- The item is about the row as it stands: `(id, op_version, backend_node_id)` agree. -/
def PlacementResultApply.Matches (item : PlacementResultApply) (placement : UserPlacement) : Prop :=
  placement.id = item.id ∧ placement.opVersion = item.opVersion ∧
    placement.backendNodeId = item.backendNodeId

instance (item : PlacementResultApply) (placement : UserPlacement) :
    Decidable (item.Matches placement) :=
  inferInstanceAs (Decidable (_ ∧ _))

namespace Database

variable (db : Database)

/-! ## Changes of the desired state -/

/-- `set_desired_state_for_key`, with `backend_node_ids`. -/
def setDesiredStateForKey (key : Uuid) (desired : PlacementDesiredState) (reason : String)
    (now : Time) (backendNodeIds : Option (List Uuid)) : Database :=
  { db with
    placements := db.placements.modifyWhere (fun placement => db.redirects key desired placement ∧
        backendNodeIds.all (placement.backendNodeId ∈ ·))
      (UserPlacement.redirect desired reason now) (UserPlacement.key_redirect reason now) }

/-- The ids that `deactivate_placements_on_node` selects. -/
def placementsToDeactivate (backend : Uuid) : List Uuid :=
  (db.placements.rows.filter fun placement =>
    placement.isActive ∧ placement.desiredState ≠ .inactive ∧
      placement.backendNodeId = backend).map UserPlacement.id

/-- `deactivate_placements_on_node`: the ids it returns and the tables after it. -/
def deactivatePlacementsOnNode (backend : Uuid) (reason : String) (now : Time) :
    List Uuid × Database :=
  let ids := db.placementsToDeactivate backend
  (ids,
    { db with
      placements := db.placements.modifyWhere (·.id ∈ ids)
        (UserPlacement.redirect .inactive reason now) fun _ => rfl })

/-- `set_pending_for_backend`: the ids it returns and the tables after it. -/
def setPendingForBackend (backend : Uuid) (reason : Option String) (now : Time) :
    List Uuid × Database :=
  let resends := fun placement : UserPlacement =>
    decide (placement.backendNodeId = backend ∧ placement.isActive)
  ((db.placements.rows.filter resends).map UserPlacement.id,
    { db with
      placements := db.placements.modifyWhere resends (UserPlacement.resend reason now)
        fun _ => rfl })

/-! ## Reports -/

/-- `apply_backend_report`: the ids it returns and the tables after it. -/
def applyBackendReport (item : PlacementResultApply) : List Uuid × Database :=
  ((db.placements.rows.filter fun placement => item.Matches placement).map UserPlacement.id,
    { db with
      placements := db.placements.modifyWhere (fun placement => item.Matches placement)
        (UserPlacement.report item.appliedState item.updatedAt) fun _ => rfl })

/-- The `UPDATE` of `bulk_apply_backend_report` for the items with one `applied_state`. -/
def applyReports (outcome : PlacementAppliedState) (items : List PlacementResultApply) :
    List Uuid × Database :=
  let matched := fun placement : UserPlacement => items.any fun item => item.Matches placement
  let now := items.head?.elim 0 PlacementResultApply.updatedAt
  ((db.placements.rows.filter matched).map UserPlacement.id,
    { db with
      placements := db.placements.modifyWhere matched (UserPlacement.report outcome now)
        fun _ => rfl })

/-- `bulk_apply_backend_report`: one `UPDATE` for each state, in the order in which the states
first occur. -/
def bulkApplyBackendReport (items : List PlacementResultApply) : List Uuid × Database :=
  ((items.map PlacementResultApply.appliedState).reverse.dedup.reverse).foldl
    (fun updated outcome =>
      let (ids, after) := updated.2.applyReports outcome
        (items.filter fun item => item.appliedState = outcome)
      (updated.1 ++ ids, after)) ([], db)

/-! ## Moving placements -/

/-- The placements that `bulk_migrate_backend` locks first. -/
def migrationSources (ids : List Uuid) : List UserPlacement :=
  db.placements.rows.filter fun placement => placement.id ∈ ids ∧ placement.isActive

/-- The placement of a key on a node, active or not. -/
def homeOn (key target : Uuid) : Option UserPlacement :=
  db.placements.rows.find? fun placement =>
    placement.keyId = key ∧ placement.backendNodeId = target

/-- The sources whose key has no placement on the target. -/
def simpleMoves (sources : List UserPlacement) (target : Uuid) : List UserPlacement :=
  sources.filter fun source => db.homeOn source.keyId target = none

/-- The sources whose key has another placement on the target. -/
def mergeSources (sources : List UserPlacement) (target : Uuid) : List UserPlacement :=
  sources.filter fun source =>
    (db.homeOn source.keyId target).any fun existing => existing.id ≠ source.id

/-- The `UPDATE` that moves placements to the target. -/
def movePlacements (moves : List UserPlacement) (target : Uuid) (reason : Option String)
    (now : Time) : Database :=
  { db with
    placements := db.placements.modifyWhere (fun placement => placement ∈ moves)
      (UserPlacement.moveTo target reason now) fun _ => rfl }

variable (merges : List UserPlacement)

/-- The source that is merged into a placement on the target. When there are several, the first
one is taken. -/
def mergedInto (target : Uuid) (placement : UserPlacement) :
    Option UserPlacement :=
  if placement.backendNodeId = target then
    merges.find? fun source => source.keyId = placement.keyId
  else none

/-- The ids of the placements that the `UPDATE … FROM` changes. -/
def mergedIds (target : Uuid) : List Uuid :=
  (db.placements.rows.filter fun placement => (mergedInto merges target placement).isSome).map
    UserPlacement.id

/-- The `UPDATE … FROM` that merges sources into the placements on the target. -/
def mergePlacements (target : Uuid) (reason : Option String)
    (now : Time) : Database :=
  { db with
    placements := db.placements.modifyWhere
      (fun placement => (mergedInto merges target placement).isSome)
      (fun placement => (mergedInto merges target placement).elim placement fun source =>
        .mergeFrom source reason now placement)
      fun placement => by cases mergedInto merges target placement <;> rfl }

/-- The `UPDATE` that retires the sources that have been merged. -/
def retirePlacements (now : Time) : Database :=
  { db with
    placements := db.placements.modifyWhere
      (fun placement => placement.id ∈ merges.map UserPlacement.id) (UserPlacement.retire now)
      fun _ => rfl }

/-- `bulk_migrate_backend`: the ids on the target and the tables after it, or an
`IntegrityError`. -/
def bulkMigrateBackend (ids : List Uuid) (target : Uuid) (reason : Option String) (now : Time) :
    Option (List Uuid × Database) :=
  let sources := db.migrationSources ids
  let moves := db.simpleMoves sources target
  let merges := db.mergeSources sources target
  -- two placements of one key cannot both move to the target
  if ¬ (moves.map UserPlacement.keyId).Nodup then none
  else
    let moved := db.movePlacements moves target reason now
    some (moves.map UserPlacement.id ++ moved.mergedIds merges target,
      (moved.mergePlacements merges target reason now).retirePlacements merges now)

/-! ## Retries -/

/-- The active placements in a state that were last changed before a time. -/
def stalePlacements (outcome : PlacementAppliedState) (cutoff : Time) : List Uuid :=
  (db.placements.rows.filter fun placement =>
    placement.appliedState = outcome ∧ placement.isActive ∧ placement.updatedAt < cutoff).map
      UserPlacement.id

/-- `PlacementErrorRetryReconciler._execute_tick`. Where nothing is found, nothing has been
written that a missing commit could lose. -/
def errorRetryTick (retryAfterSec : ℤ) (now : Time) : Database :=
  let cutoff := now - seconds (max 30 retryAfterSec)
  let errorIds := db.stalePlacements .error cutoff
  let retried :=
    if errorIds ≠ [] then
      { db with
        placements := db.placements.modifyWhere (·.id ∈ errorIds) (UserPlacement.retry now)
          fun _ => rfl }.enqueueForPlacementIds errorIds
    else db
  let pendingIds := retried.stalePlacements .pending cutoff
  if pendingIds ≠ [] then retried.enqueueForPlacementIds pendingIds else retried

/-- The rows when the placements in error have been retried. -/
def retryRows (db : Database) (cutoff now : Time) : Database :=
  { db with
    placements := db.placements.modifyWhere (·.id ∈ db.stalePlacements .error cutoff)
      (UserPlacement.retry now) fun _ => rfl }

/-- The tables when the commands for these placements have been enqueued. -/
def retryErrors (db : Database) (cutoff now : Time) : Database :=
  (db.retryRows cutoff now).enqueueForPlacementIds (db.stalePlacements .error cutoff)

theorem errorRetryTick_eq (db : Database) (retryAfterSec : ℤ) (now : Time) :
    db.errorRetryTick retryAfterSec now =
      (db.retryErrors (now - seconds (max 30 retryAfterSec)) now).enqueueForPlacementIds
        ((db.retryErrors (now - seconds (max 30 retryAfterSec)) now).stalePlacements .pending
          (now - seconds (max 30 retryAfterSec))) := by
  unfold Database.errorRetryTick
  dsimp only
  generalize now - seconds (max 30 retryAfterSec) = cutoff
  generalize hretry : (if db.stalePlacements .error cutoff ≠ [] then _ else db) = retried
  obtain rfl : db.retryErrors cutoff now = retried := by
    rw [← hretry]
    split
    · rfl
    · rename_i hnone
      rw [retryErrors, not_not.mp hnone, enqueueForPlacementIds_nil]
      have hnobody : ∀ row ∈ db.placements.rows,
          ¬ decide (row.id ∈ db.stalePlacements .error cutoff) = true := by
        simp [not_not.mp hnone]
      exact congrArg (fun placements => { db with placements }) (Table.modifyWhere_of_none hnobody)
  split
  · rfl
  · rename_i hnone
    rw [not_not.mp hnone, enqueueForPlacementIds_nil]

end Database

end VpnControl.Vpn
