/-
# The expiration and reset jobs

Two jobs switch devices and keys without a request. The expiration job closes the subscriptions
that ran out, with their devices and keys. The reset job starts the traffic counters of a period
again and gives back the keys. Both select subscriptions first and then write by id.

A bulk `UPDATE … WHERE` is here a query for the ids followed by the update of these rows.
-/

import VpnControl.Vpn.Devices

namespace VpnControl.Vpn

open Txn
open Billing (Uuid Time)

/-! ## Queries -/

namespace Database

variable (db : Database)

/-- `SubscriptionRepository.list_expired_active`. -/
def expiredActive (now : Time) (limit : ℕ) : List Billing.Subscription :=
  ((db.billing.subscriptions.rows.filter fun sub =>
    sub.isActive ∧ sub.expiresAt.any (· < now)).insertionSort fun first second =>
      first.expiresAt.getD 0 ≤ second.expiresAt.getD 0).take limit

/-- The keys that `bulk_revoke_by_subscription_ids` revokes. -/
def liveKeyIdsOf (subscriptions : List Uuid) : List Uuid :=
  (db.keys.rows.filter fun key =>
    key.subscriptionId.any (· ∈ subscriptions) ∧ key.isActive ∧ !key.isRevoked).map VpnKey.id

/-- The placements that `bulk_set_desired_state_for_keys` updates. -/
def placementsToRedirect (keys : List Uuid) (desired : PlacementDesiredState) :
    List Uuid :=
  (db.placements.rows.filter (redirectsMany keys desired)).map UserPlacement.id

/-- The devices that `bulk_deactivate_by_subscription_ids` updates. -/
def activeDeviceIdsOf (subscriptions : List Uuid) : List Uuid :=
  (db.devices.rows.filter fun device =>
    device.subscriptionId ∈ subscriptions ∧ device.isActive).map SubscriptionDevice.id

def needsReset (strategy : ResetStrategy) (cutoff : Time)
    (subscription : Subscription) : Bool :=
  subscription.isActive ∧ (subscription.planId.bind db.billing.plans.find?).any (·.isActive) ∧
    (subscription.planId.bind db.planTraffic.find?).any (fun plan =>
      plan.resetStrategy = strategy ∧ 0 < plan.trafficLimitBytes) ∧
    ∀ reset ∈ subscription.lastTrafficResetAt, reset < cutoff

/-- `SubscriptionRepository.list_needing_traffic_reset`. -/
def needingTrafficReset (strategy : ResetStrategy) (cutoff : Time) :
    List Subscription :=
  (db.columns.rows.filterMap db.joinSubscription).filter (db.needsReset strategy cutoff)

def activeKeyIdsOf (subscription : Uuid) : List Uuid :=
  (db.keys.rows.filter fun key => key.subscriptionId = some subscription ∧ key.isActive).map VpnKey.id

def revokedKeyIdsOf (subscription : Uuid) : List Uuid :=
  (db.keys.rows.filter fun key =>
    key.subscriptionId = some subscription ∧ key.isActive ∧ key.isRevoked).map VpnKey.id

end Database

/-! ## Expiration -/

structure TickResult where
  subscriptionsExpired : ℕ
  keysRevoked : ℕ
  placementsAffected : ℕ
  deriving DecidableEq, Repr

variable (subscriptions : List Uuid)

/-- `VpnKeyRepository.bulk_revoke_by_subscription_ids`. -/
def bulkRevokeBySubscriptionIds : Service (List Uuid) := do
  let keys ← select (·.liveKeyIdsOf subscriptions)
  if keys = [] then pure []
  else do
    execute (.setRevokedMany keys true)
    pure keys

def withdrawPlacements (keys : List Uuid) (now : Time) : Service (List Uuid) :=
  if keys = [] then pure []
  else do
    let affected ← select (·.placementsToRedirect keys .inactive)
    execute (.setDesiredStateMany keys .inactive "subscription_expired" now)
    if affected ≠ [] then enqueueForPlacementIds affected
    pure affected

/-- `SubscriptionDeviceRepository.bulk_deactivate_by_subscription_ids`. -/
def bulkDeactivateDevices : Service Unit := do
  let devices ← select (·.activeDeviceIdsOf subscriptions)
  execute (.deactivateDevices devices)

/-- Close the given subscriptions. -/
def closeSubscriptions (now : Time) : Service TickResult := do
  let keys ← bulkRevokeBySubscriptionIds subscriptions
  let affected ← withdrawPlacements keys now
  execute (.deactivateSubscriptions subscriptions)
  bulkDeactivateDevices subscriptions
  invalidateBySubscriptionIds subscriptions
  pure ⟨subscriptions.length, keys.length, affected.length⟩

/-- `SubscriptionExpirationReconciler.tick`. -/
def expirationTick (batchSize : ℕ) : Service TickResult := do
  let now ← datetimeNow
  let expired ← select (·.expiredActive now batchSize)
  if expired = [] then pure ⟨0, 0, 0⟩
  else closeSubscriptions (expired.map Billing.Subscription.id) now

/-! ## Traffic reset -/

/-- Start the counters of a subscription again. -/
def resetSubscription (now : Time) (subscription : Subscription) : Service Unit := do
  let unrevoked ← select (·.revokedKeyIdsOf subscription.id)
  let keys ← select (·.activeKeyIdsOf subscription.id)
  execute (.resetKeys keys)
  execute (.resetTraffic subscription.id now)
  unrevoked.forM fun key => do
    execute (.setDesiredState key .active "traffic_reset" now)
    enqueueForKeyState key .active

/-- The transaction of `TrafficResetReconciler.tick` for one strategy. The start of the period is
given by the calendar. -/
def resetTick (resetCutoff : ResetStrategy → Time → Time) (strategy : ResetStrategy) :
    Service Unit := do
  let now ← datetimeNow
  let subscriptions ← select (·.needingTrafficReset strategy (resetCutoff strategy now))
  subscriptions.forM (resetSubscription now)

end VpnControl.Vpn
