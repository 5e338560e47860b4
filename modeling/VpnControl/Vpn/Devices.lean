/-
# Devices and their keys

The devices of a subscription take its slots. A device is registered by the first fetch of its
configuration, gets one key for each transport, and can be revoked and restored. The methods here
are those of `SubscriptionService` that switch devices and keys on and off, with the placements
of the keys on backend nodes.

The choice of nodes is a function of the tables that nothing here depends on, `selectNodes`.
-/

import Mathlib.Data.List.Sort
import VpnControl.Vpn.Traffic

namespace VpnControl.Vpn

open Txn
open Billing (Uuid Time days)

variable {α : Type}

/-! ## Settings -/

/-- The settings and functions that the methods of this file read. -/
structure Provisioning where
  /-- `settings.subscriptions.smart_route_max_count`. -/
  smartRouteMaxCount : ℤ
  /-- `settings.subscriptions.max_devices_default`. -/
  maxDevicesDefault : ℤ
  /-- `SubscriptionService._infer_transport_from_profile_key`. -/
  inferTransport : Option String → Option VpnTransport
  /-- The nodes with a public host of `RoutingService.select_nodes` for a region, and none if it
  fails. -/
  selectNodes : Option String → Database → List Uuid
  library : Library

namespace Provisioning

variable (cfg : Provisioning)

/-- `max(1, min(10, smart_route_max_count))`. -/
def maxRoutes : ℕ := (max 1 (min 10 cfg.smartRouteMaxCount)).toNat

/-- `SubscriptionService._subscription_bundle_transports`. -/
def bundleTransports (subscription : Subscription) : List VpnTransport :=
  let preferred := (cfg.inferTransport subscription.profileKey).toList
  preferred ++ [.reality, .ws, .xhttp].filter (· ∉ preferred)

/-- `SubscriptionService._effective_device_limit`. -/
def effectiveDeviceLimit (subscription : Subscription) (db : Database) : ℤ :=
  let planBased := (subscription.planId.bind db.billing.plans.find?).elim 0 fun plan =>
    plan.includedDevices + subscription.paidDeviceSlots
  let limit := max (subscription.maxDevices.getD 0) planBased
  if limit = 0 then cfg.maxDevicesDefault else limit

end Provisioning

/-! ## Queries -/

namespace Database

variable (db : Database)

variable (subscription : Uuid)

/-- The devices of `get_active_by_sub_and_hwid_hash`. -/
def activeDevicesByHwid (hwidHash : String) :
    List SubscriptionDevice :=
  db.devices.rows.filter fun device =>
    device.subscriptionId = subscription ∧ device.hwidHash = hwidHash ∧ device.isActive

/-- The devices of `get_by_sub_and_hwid_hash`. -/
def devicesByHwid (hwidHash : String) :
    List SubscriptionDevice :=
  db.devices.rows.filter fun device =>
    device.subscriptionId = subscription ∧ device.hwidHash = hwidHash

/-- `SubscriptionDeviceRepository.get_by_id_for_subscription`. -/
def deviceForSubscription (subscription device : Uuid) :
    Option SubscriptionDevice :=
  (db.devices.find? device).filter (·.subscriptionId = subscription)

def activeDevices : List SubscriptionDevice :=
  db.devices.rows.filter fun device => device.subscriptionId = subscription ∧ device.isActive

/-- `SubscriptionDeviceRepository.count_active_for_subscription`. -/
def countActiveDevices : ℕ :=
  (db.activeDevices subscription).length

/-- `SubscriptionDeviceKeyRepository.list_by_device_ids` for one device and active bindings:
the primary binding first. -/
def bindingsOfDevice (device : Uuid) : List SubscriptionDeviceKey :=
  let rows := db.deviceKeys.rows.filter fun binding =>
    binding.subscriptionDeviceId = device ∧ binding.isActive
  rows.filter (·.isPrimary) ++ rows.filter fun binding => !binding.isPrimary

/-- A binding of the device for the transport would break the unique constraint. -/
def bindingTaken (device : Uuid) (transport : VpnTransport) : Bool :=
  db.deviceKeys.rows.any fun binding =>
    binding.subscriptionDeviceId = device ∧ binding.transport = transport

/-- The active placements of a key that are meant to be active, the last changed first. -/
def activePlacementsOfKey (key : Uuid) : List UserPlacement :=
  (db.placements.rows.filter fun placement =>
    placement.keyId = key ∧ placement.isActive ∧ placement.desiredState = .active).insertionSort
      fun first second => second.updatedAt < first.updatedAt ∨
        second.updatedAt = first.updatedAt ∧ first.id ≤ second.id

/-- `UserPlacementRepository.get_by_key_and_backend`. -/
def placementOn (key backend : Uuid) : Option UserPlacement :=
  db.placements.rows.find? fun placement =>
    placement.keyId = key ∧ placement.backendNodeId = backend ∧ placement.isActive

end Database

/-! ## Statements -/

def uuid4 : Service Uuid := Program.perform (S := engine.toSignature) (.billing .uuid4)

variable (subscription : Uuid)

/-- `SubscriptionService._lock_subscription_for_device_allocation`. -/
def lockSubscriptionForDeviceAllocation : Service Unit :=
  Program.perform (S := engine.toSignature) (.lockSubscription subscription)

def getActiveDevice (hwidHash : String) :
    Service (Option SubscriptionDevice) := do
  let rows ← select (·.activeDevicesByHwid subscription hwidHash)
  scalarOneOrNone rows

def getDevice (hwidHash : String) : Service (Option SubscriptionDevice) := do
  let rows ← select (·.devicesByHwid subscription hwidHash)
  scalarOneOrNone rows

/-! ## Placements -/

/-- `SubscriptionService._is_placement_synced`. -/
def UserPlacement.isSynced (placement : UserPlacement) : Bool :=
  placement.appliedState = .applied ∧ placement.appliedVersion = placement.opVersion

/-- The loop of `_ensure_backend_placements_for_key`: a placement on each node that has none. It
returns the placements and the new ones among them. -/
def addReplicas (key : Uuid) : List Uuid → List UserPlacement →
    Service (List UserPlacement × List UserPlacement)
  | [], placed => pure (placed, [])
  | node :: rest, placed =>
    if placed.any fun placement => placement.backendNodeId = node then addReplicas key rest placed
    else do
      let id ← uuid4
      let now ← datetimeNow
      execute (.upsertPlacement (.pending id key node .active (some "subscription_replica") now))
      match ← select (·.placementOn key node) with
      | none => raise (.runtimeError "placement upsert failed to load placement row")
      | some created => do
          let (placed, new) ← addReplicas key rest (placed ++ [created])
          pure (placed, created :: new)

/-- The placement that a key is served from. -/
def preferredPlacement (targets : List Uuid) (synced placed : List UserPlacement) :
    Option UserPlacement :=
  let onTarget := targets.findSome? fun node =>
    (synced.find? (·.backendNodeId = node)).or (placed.find? (·.backendNodeId = node))
  (onTarget.or (if targets = [] then synced.head? else none)).or placed.head?

/-- What `_ensure_backend_placements_for_key` returns. -/
structure KeyPlacements where
  preferredBackendId : Uuid
  preferredPlacement : UserPlacement
  allowedBackendIds : List Uuid

/-- The end of `_ensure_backend_placements_for_key`. -/
def choosePlacement (targets : List Uuid) (synced placed : List UserPlacement) :
    Service KeyPlacements :=
  match preferredPlacement targets synced placed with
  | none => raise (.buildUnavailable "Node placement sync pending")
  | some preferred =>
    let allowed := if targets ≠ [] then targets else placed.map UserPlacement.backendNodeId
    pure
      { preferredBackendId := preferred.backendNodeId
        preferredPlacement := preferred
        allowedBackendIds := if allowed = [] then [preferred.backendNodeId] else allowed }

variable (cfg : Provisioning)

/-- `SubscriptionService._ensure_backend_placements_for_key`. -/
def ensureBackendPlacementsForKey (key : Uuid)
    (preferredRegion : Option String) (desiredReplicas : ℤ) : Service KeyPlacements := do
  let replicas := (max 1 (min 10 desiredReplicas)).toNat
  let placements ← select (·.activePlacementsOfKey key)
  let synced := placements.filter (·.isSynced)
  let candidates ← select (cfg.selectNodes preferredRegion)
  if candidates = [] ∧ placements = [] then raise (.buildUnavailable "No available nodes")
  else do
    let targets := candidates.take replicas
    let (placed, new) ← addReplicas key targets placements
    if new ≠ [] then enqueueForPlacementIds (new.map UserPlacement.id)
    choosePlacement targets synced placed

/-- Give a restored key its placements again, or at least switch on those it has. -/
def reinstatePlacements (subscription : Subscription) (key : Uuid)
    (reason : String) : Service Unit :=
  (do
    let _ ← ensureBackendPlacementsForKey cfg key subscription.preferredRegion cfg.maxRoutes
    pure ()).tryCatch fun
      | .build _ => setPlacementDesiredState key .active reason
      | .buildUnavailable _ => setPlacementDesiredState key .active reason
      | error => raise error

/-! ## The keys of a device -/

/-- `TRANSPORT_PRIORITY`. -/
def VpnTransport.priority : VpnTransport → ℕ
  | reality => 0
  | ws => 1
  | xhttp => 2
  | tcp => 3

structure ResolvedDeviceKey where
  transport : VpnTransport
  isPrimary : Bool
  key : VpnKey
  deriving DecidableEq, Repr

structure ResolvedDeviceBundle where
  device : SubscriptionDevice
  keys : List ResolvedDeviceKey
  deriving DecidableEq, Repr

/-- The order of the keys in a bundle. -/
def ResolvedDeviceKey.Precedes (first second : ResolvedDeviceKey) : Prop :=
  if first.isPrimary ≠ second.isPrimary then first.isPrimary
  else if first.transport.priority ≠ second.transport.priority then
    first.transport.priority < second.transport.priority
  else first.key.id ≤ second.key.id

instance : DecidableRel ResolvedDeviceKey.Precedes := fun first second => by
  unfold ResolvedDeviceKey.Precedes
  infer_instance

/-- The loop of `_load_device_bundles`: the first key of each transport. -/
def resolveKeys (loaded : List VpnKey) : List SubscriptionDeviceKey → List VpnTransport →
    List ResolvedDeviceKey
  | [], _ => []
  | binding :: rest, seen =>
    match loaded.find? fun key => key.id = binding.vpnKeyId with
    | none => resolveKeys loaded rest seen
    | some key =>
      if binding.transport ∈ seen then resolveKeys loaded rest seen
      else
        { transport := binding.transport, isPrimary := binding.isPrimary, key := key } ::
          resolveKeys loaded rest (binding.transport :: seen)

/-- `SubscriptionService._load_device_bundle`. -/
def loadDeviceBundle (device : SubscriptionDevice) : Service ResolvedDeviceBundle := do
  let bindings ← select (·.bindingsOfDevice device.id)
  let loaded ← select (·.keysByIds (bindings.map SubscriptionDeviceKey.vpnKeyId).dedup)
  pure
    { device := device
      keys := (resolveKeys loaded bindings []).insertionSort ResolvedDeviceKey.Precedes }

variable (cfg : Provisioning) (subscription : Subscription)

/-- `SubscriptionService._create_vpn_key_for_transport`. -/
def createVpnKeyForTransport (transport : VpnTransport)
    (validUntil : Time) : Service VpnKey := do
  let limit ← select (·.trafficLimit subscription)
  let id ← uuid4
  let clientId ← uuid4
  let key : VpnKey :=
    { id := id
      transport := transport
      clientId := toString clientId
      validUntil := validUntil
      trafficLimitMb := if 0 < limit then max 1 (limit / mib) else 0
      isRevoked := false
      subscriptionId := some subscription.id }
  execute (.insertKey key)
  pure key

/-- Bind a key to a device. A transport that is bound already is left as it is. -/
def bindKey (device : SubscriptionDevice) (key : VpnKey) (transport : VpnTransport)
    (isPrimary : Bool) : Service Unit := do
  let taken ← select (·.bindingTaken device.id transport)
  if taken then pure ()
  else do
    let id ← uuid4
    execute (.insertDeviceKey
      { id := id
        subscriptionDeviceId := device.id
        vpnKeyId := key.id
        transport := transport
        isPrimary := isPrimary })

/-- The end of a key without one for its subscription. -/
def keyValidUntil (now : Time) : Time :=
  subscription.expiresAt.getD (now + days 365)

def addMissingKey (now : Time) (bundle : ResolvedDeviceBundle)
    (transport : VpnTransport) (index : ℕ) : Service Unit :=
  if transport ∈ bundle.keys.map ResolvedDeviceKey.transport then pure ()
  else do
    let key ← createVpnKeyForTransport subscription transport (keyValidUntil subscription now)
    bindKey bundle.device key transport (index = 0 ∧ bundle.keys = [])

/-- `SubscriptionService._ensure_device_key_bundle`. -/
def ensureDeviceKeyBundle (device : SubscriptionDevice) (now : Time) :
    Service ResolvedDeviceBundle := do
  let required := cfg.bundleTransports subscription
  let bundle ← loadDeviceBundle device
  if ∀ transport ∈ required, transport ∈ bundle.keys.map ResolvedDeviceKey.transport then
    pure bundle
  else do
    lockSubscriptionForDeviceAllocation subscription.id
    let bundle ← loadDeviceBundle device
    required.zipIdx.forM fun (transport, index) =>
      addMissingKey subscription now bundle transport index
    loadDeviceBundle device

/-- Un-revoke a loaded key. The session writes the row only if it changes. -/
def unrevokeKey (key : VpnKey) : Service Unit :=
  if key.isRevoked then execute (.setRevoked key.id false) else pure ()

/-! ## Registering a device -/

def checkDeviceLimit : Service Unit := do
  let limit ← select (cfg.effectiveDeviceLimit subscription)
  let current ← select (·.countActiveDevices subscription.id)
  if limit ≤ current then raise .deviceLimitReached else pure ()

/-- A revoked device that fetches again takes a slot and gets its keys back. -/
def refetchDevice (revoked : SubscriptionDevice) (now : Time) : Service ResolvedDeviceBundle := do
  checkDeviceLimit cfg subscription
  execute (.setDeviceActive revoked.id true)
  let bundle ← loadDeviceBundle revoked
  bundle.keys.forM fun resolved => do
    unrevokeKey resolved.key
    setPlacementDesiredState resolved.key.id .active "device_refetch_restore"
  ensureDeviceKeyBundle cfg subscription revoked now

/-- A new device takes a slot and gets its keys. -/
def registerDevice (hwidHash : String)
    (now : Time) : Service ResolvedDeviceBundle := do
  checkDeviceLimit cfg subscription
  match cfg.bundleTransports subscription with
  | [] => raise (.buildUnavailable "No available key")
  | primary :: _ => do
      let key ← createVpnKeyForTransport subscription primary (keyValidUntil subscription now)
      let taken ← select fun db => decide (db.devicesByHwid subscription.id hwidHash ≠ [])
      if taken then do
        match ← getActiveDevice subscription.id hwidHash with
        | none => raise .integrityError
        | some device => ensureDeviceKeyBundle cfg subscription device now
      else do
        let id ← uuid4
        let device : SubscriptionDevice :=
          { id := id, subscriptionId := subscription.id, hwidHash := hwidHash }
        execute (.insertDevice device)
        let bindingId ← uuid4
        execute (.insertDeviceKey
          { id := bindingId
            subscriptionDeviceId := device.id
            vpnKeyId := key.id
            transport := primary
            isPrimary := true })
        ensureDeviceKeyBundle cfg subscription device now

/-- What `_resolve_device_bundle_for_request` does under the lock of the subscription. -/
def allocateDevice (hwidHash : String)
    (now : Time) : Service ResolvedDeviceBundle := do
  match ← getActiveDevice subscription.id hwidHash with
  | some device => ensureDeviceKeyBundle cfg subscription device now
  | none => do
      match ← getDevice subscription.id hwidHash with
      | none => registerDevice cfg subscription hwidHash now
      | some found =>
        if found.isActive then registerDevice cfg subscription hwidHash now
        else refetchDevice cfg subscription found now

/-- `SubscriptionService._resolve_device_bundle_for_request`. -/
def resolveDeviceBundleForRequest (hwid : Option String) (now : Time) :
    Service ResolvedDeviceBundle :=
  match hwid with
  | none => raise .hwidRequired
  | some hwid =>
    let normalized := cfg.library.strip hwid
    if hwid = "" ∨ normalized = "" then raise .hwidRequired
    else do
      let hwidHash := cfg.library.sha256 normalized
      match ← getActiveDevice subscription.id hwidHash with
      | some device => ensureDeviceKeyBundle cfg subscription device now
      | none => do
          lockSubscriptionForDeviceAllocation subscription.id
          allocateDevice cfg subscription hwidHash now

/-- What `build_payload` does between its checks and the cache: it finds the device of the
request and then renders the routes of its keys. -/
def buildBundle
    (render : Subscription → ResolvedDeviceBundle → Service Rendered) (hwid : Option String)
    (subscription : Subscription) : Service Rendered := do
  let now ← datetimeNow
  let bundle ← resolveDeviceBundleForRequest cfg subscription hwid now
  render subscription bundle

/-! ## Revoking and restoring a device -/

/-- `SubscriptionService.revoke_device`. -/
def revokeDevice (subscriptionId deviceId : Uuid) : Service Bool := do
  match ← getSubscription subscriptionId with
  | none => raise .notFound
  | some subscription => do
      match ← select (·.deviceForSubscription subscriptionId deviceId) with
      | none => raise .deviceNotFound
      | some device => do
          if device.isActive then execute (.setDeviceActive device.id false)
          let bundle ← loadDeviceBundle device
          bundle.keys.forM fun resolved => do
            revokeKey resolved.key
            setPlacementDesiredState resolved.key.id .inactive "subscription_device_revoke"
          invalidatePayloadCacheByTokenHash subscription.tokenHash
          pure (bundle.keys.any fun resolved => !resolved.key.isRevoked)

/-- The part of `restore_device` that takes a slot. -/
def reclaimSlot (device : SubscriptionDevice) : Service Unit :=
  if device.isActive then pure ()
  else do
    checkDeviceLimit cfg subscription
    execute (.setDeviceActive device.id true)

/-- `SubscriptionService.restore_device`. -/
def restoreDevice (subscriptionId deviceId : Uuid) : Service Bool := do
  match ← getSubscription subscriptionId with
  | none => raise .notFound
  | some subscription => do
      match ← select (·.deviceForSubscription subscriptionId deviceId) with
      | none => raise .deviceNotFound
      | some device => do
          reclaimSlot cfg subscription device
          let bundle ← loadDeviceBundle device
          bundle.keys.forM fun resolved => do
            unrevokeKey resolved.key
            reinstatePlacements cfg subscription resolved.key.id "subscription_device_restore"
          invalidatePayloadCacheByTokenHash subscription.tokenHash
          pure (bundle.keys.any fun resolved => resolved.key.isRevoked)

/-! ## Opening a subscription -/

/-- Let a loaded key last as long as its subscription. -/
def extendKey (key : VpnKey) : Service Unit :=
  match subscription.expiresAt with
  | none => pure ()
  | some expiresAt =>
    if key.validUntil < expiresAt then execute (.setValidUntil key.id expiresAt) else pure ()

/-- The loop of `activate`. -/
def activateKeys (loaded : List VpnKey) :
    List Uuid → Service ℕ
  | [] => pure 0
  | keyId :: rest =>
    match loaded.find? fun key => key.id = keyId with
    | none => activateKeys loaded rest
    | some key => do
        unrevokeKey key
        extendKey subscription key
        reinstatePlacements cfg subscription keyId "subscription_activate"
        let restored ← activateKeys loaded rest
        pure (if key.isRevoked then restored + 1 else restored)

/-- The part of `activate` after the update of the subscription. -/
def restoreKeys : Service ℕ := do
  invalidatePayloadCacheByTokenHash subscription.tokenHash
  let keyIds ← select (·.keyIdsForSubscription subscription.id)
  let loaded ← select (·.keysByIds keyIds)
  activateKeys cfg subscription loaded keyIds

/-- `SubscriptionService.activate`. -/
def activate (subscriptionId : Uuid) : Service ℕ := do
  match ← getSubscription subscriptionId with
  | none => raise .notFound
  | some subscription => do
      execute (.billing (.updateSubscription subscription.id { isActive := some true }))
      restoreKeys cfg subscription

end VpnControl.Vpn
