/-
# The subscription service

`SubscriptionService`: rotating the token of a subscription, closing a subscription, and
serving the configuration of a subscription from the cache or from a fresh build. The names of
the methods are those of the source.

What `build_payload` does between its checks and the cache, the devices, placements and routes
of a payload, is its argument `build`: what is said here about tokens and the cache does not
depend on it.
-/

import VpnControl.Vpn.Statements

namespace VpnControl.Vpn

open Txn
open Billing (Uuid Time seconds)

variable {α : Type}

/-! ## Statements -/

def raise (error : SubscriptionError) : Service α := Program.raise error

def datetimeNow : Service Time := Program.perform (S := engine.toSignature) (.billing .now)

def select (query : Database → α) : Service α :=
  Program.perform (S := engine.toSignature) (.query α query)

def execute (w : Write) : Service Unit := Program.perform (S := engine.toSignature) (.write w)

def generateToken : Service String := Program.perform (S := engine.toSignature) .generateToken

def redis (command : RedisCommand) : Service command.Reply :=
  Program.perform (S := engine.toSignature) (.redis command)

/-- `Result.scalar_one_or_none`. -/
def scalarOneOrNone : List α → Service (Option α)
  | [] => pure none
  | [row] => pure (some row)
  | _ => raise .multipleResultsFound

/-! ## Queries -/

namespace Database

variable (db : Database)

/-- `SubscriptionRepository.get_by_id`. -/
def subscription? (id : Uuid) : Option Subscription :=
  (db.columns.find? id).bind db.joinSubscription

/-- The rows of `get_by_any_token_hash`. -/
def subscriptionsByAnyTokenHash (tokenHash : String) : List Subscription :=
  (db.columns.rows.filter fun row =>
    row.tokenHash = tokenHash ∨ row.prevTokenHash = some tokenHash).filterMap db.joinSubscription

/-- `SubscriptionDeviceRepository.list_key_ids_for_subscription`. -/
def keyIdsForSubscription (subscription : Uuid) : List Uuid :=
  ((db.deviceKeys.rows.filter fun binding =>
    (db.devices.find? binding.subscriptionDeviceId).any fun device =>
      device.subscriptionId = subscription).map SubscriptionDeviceKey.vpnKeyId).dedup

/-- `VpnKeyRepository.list_by_ids`. -/
def keysByIds (ids : List Uuid) : List VpnKey :=
  db.keys.rows.filter fun key => key.id ∈ ids

/-- `UserPlacementRepository.list_active_ids_for_key`. -/
def activePlacementIds (key : Uuid) (desired : PlacementDesiredState) : List Uuid :=
  (db.placements.rows.filter fun placement =>
    placement.keyId = key ∧ placement.isActive ∧ placement.desiredState = desired).map
      UserPlacement.id

/-- `UserPlacementRepository.list_transport_rows_by_placement_ids`. -/
def transportRows (ids : List Uuid) : List (UserPlacement × VpnKey) :=
  (db.placements.rows.filter fun placement => placement.id ∈ ids ∧ placement.isActive).filterMap
    fun placement => ((db.keys.find? placement.keyId).filter VpnKey.isActive).map (placement, ·)

/-- `NodeAgentPlacementTransport._load_entries_for_backends`, for one backend. -/
def entriesForBackend (backend : Uuid) : List Uuid :=
  (db.entryAssignments.filter fun row => row.backendNodeId = backend ∧ row.enabled).map
    EntryBackendAssignment.entryNodeId

def trafficLimit (subscription : Subscription) : ℤ :=
  (subscription.planId.bind db.planTraffic.find?).elim 0 PlanTraffic.trafficLimitBytes

end Database

def getSubscription (id : Uuid) : Service (Option Subscription) := select (·.subscription? id)

variable (tokenHash : String)

/-- `SubscriptionRepository.get_by_any_token_hash`. -/
def getByAnyTokenHash : Service (Option Subscription) := do
  let rows ← select (·.subscriptionsByAnyTokenHash tokenHash)
  scalarOneOrNone rows

/-! ## Commands for the node agents -/

/-- `NodeAgentPlacementTransport._build_command_payload`. -/
def buildCommandPayload (placement : UserPlacement) (key : VpnKey) (nodeId : Uuid) :
    PlacementCommandPayload where
  placementId := placement.id
  keyId := placement.keyId
  nodeId := nodeId
  backendNodeId := placement.backendNodeId
  opVersion := placement.opVersion
  desiredState := placement.desiredState
  transport := key.transport
  clientId := key.clientId
  isRevoked := key.isRevoked
  validUntil := key.validUntil
  updatedAt := placement.updatedAt
  entryRoutingOverrideBackendTag := key.entryRoutingOverrideBackendTag

/-- The command for the backend of a placement, and one for each entry node before it. -/
def placementCommands (db : Database) (row : UserPlacement × VpnKey) : List NodeTransportOutbox :=
  { messageId := ⟨row.1.id, row.1.opVersion, none⟩
    nodeId := row.1.backendNodeId
    payload := buildCommandPayload row.1 row.2 row.1.backendNodeId } ::
  (db.entriesForBackend row.1.backendNodeId).map fun entry =>
    { messageId := ⟨row.1.id, row.1.opVersion, some entry⟩
      nodeId := entry
      payload := buildCommandPayload row.1 row.2 entry }

/-- `NodeAgentPlacementTransport.enqueue_for_placement_ids`. -/
def enqueueForPlacementIds (ids : List Uuid) : Service Unit := do
  let rows ← select (·.transportRows ids)
  if rows = [] then pure ()
  else do
    let items ← select fun db => rows.flatMap (placementCommands db)
    execute (.enqueueMany items)

/-- `NodeAgentPlacementTransport.enqueue_for_key_state`. -/
def enqueueForKeyState (key : Uuid) (desired : PlacementDesiredState) : Service Unit := do
  let ids ← select (·.activePlacementIds key desired)
  enqueueForPlacementIds ids

/-- `SubscriptionService._set_placement_desired_state`. -/
def setPlacementDesiredState (key : Uuid) (desired : PlacementDesiredState) (reason : String) :
    Service Unit := do
  let now ← datetimeNow
  execute (.setDesiredState key desired reason now)
  enqueueForKeyState key desired

/-! ## The payload cache -/

/-- `SubscriptionService._invalidate_payload_cache_by_token_hash`. -/
def invalidatePayloadCacheByTokenHash : Service Unit := do
  let keys ← redis (.smembers (.payloadCacheIndex tokenHash))
  let keysToDelete := keys.filter RedisKey.isPayloadCacheKey
  if keysToDelete ≠ [] then redis (.delete keysToDelete)
  redis (.delete [.payloadCacheIndex tokenHash])

/-- What `_read_payload_cache` finds. -/
inductive CacheRead
  | hit (payload etag : String)
  | miss
  | corrupt
  deriving DecidableEq, Repr

/-- `SubscriptionService._read_payload_cache`. -/
def readPayloadCache (key : RedisKey) : Service CacheRead := do
  match ← redis (.get key) with
  | none => pure .miss
  | some (.payload etag payload) => if etag = "" then pure .corrupt else pure (.hit payload etag)
  | some .lock => pure .corrupt

/-- `SubscriptionService._write_payload_cache`. -/
def writePayloadCache (key : RedisKey) (payload etag : String)
    (ttlSec : ℤ) : Service Unit :=
  if ttlSec ≤ 0 then pure ()
  else do
    redis (.setex key (seconds ttlSec) (.payload etag payload))
    redis (.sadd (.payloadCacheIndex tokenHash) key)
    redis (.expire (.payloadCacheIndex tokenHash) (seconds (max (ttlSec * 4) (ttlSec + 60))))

def payloadBuildLockTtlSec : ℤ := 5

/-- `SubscriptionService._acquire_payload_build_lock`. -/
def acquirePayloadBuildLock (key : RedisKey) : Service Bool :=
  redis (.setNx key (seconds payloadBuildLockTtlSec) .lock)

/-- `SubscriptionService._release_payload_build_lock`. -/
def releasePayloadBuildLock (key : RedisKey) : Service Unit := redis (.delete [key])

def payloadBuildWaitAttempts : ℕ := 2

/-- `SubscriptionService._wait_for_cached_payload`. -/
def waitForCachedPayload (key : RedisKey) : ℕ → Service CacheRead
  | 0 => pure .miss
  | attempts + 1 => do
      match ← readPayloadCache key with
      | .hit payload etag => pure (.hit payload etag)
      | .corrupt => pure .corrupt
      | .miss => waitForCachedPayload key attempts

def rateLimitRequests : ℕ := 300

def rateLimitWindowSec : ℤ := 3600

/-- `SubscriptionService._enforce_rate_limit`. -/
def enforceRateLimit : Service Unit := do
  let current ← redis (.incr (.rateLimit tokenHash))
  if current = 1 then redis (.expire (.rateLimit tokenHash) (seconds rateLimitWindowSec))
  if rateLimitRequests < current then raise .rateLimited

/-! ## Tokens -/

variable (cfg : Settings)

/-- `SubscriptionService.rotate_token`. -/
def rotateToken (subscriptionId : Uuid) (graceSeconds : ℤ) :
    Service SubscriptionRotateOut := do
  match ← getSubscription subscriptionId with
  | none => raise .notFound
  | some sub => do
      let newRaw ← generateToken
      let newHash := cfg.library.sha256 newRaw
      let now ← datetimeNow
      let data : SubscriptionInternalRotate :=
        { tokenHash := newHash
          prevTokenHash := sub.tokenHash
          prevTokenExpiresAt := now + seconds graceSeconds }
      execute (.rotate subscriptionId data)
      match ← getSubscription subscriptionId with
      | none => raise .notFound
      | some _ => do
          -- the update has refreshed the instance, so this is the new hash as well
          let sub := { sub with tokenHash := newHash }
          redis (.delete [.rateLimit sub.tokenHash])
          redis (.delete [.rateLimit newHash])
          invalidatePayloadCacheByTokenHash sub.tokenHash
          invalidatePayloadCacheByTokenHash newHash
          pure { token := newRaw, subscriptionUrl := cfg.publicBaseUrl ++ newRaw }

/-! ## Closing a subscription -/

/-- Revoke a loaded key. The session writes the row only if it changes. -/
def revokeKey (key : VpnKey) : Service Unit :=
  if key.isRevoked then pure () else execute (.setRevoked key.id true)

/-- The loop of `deactivate`. -/
def deactivateKeys (loaded : List VpnKey) : List Uuid → Service ℕ
  | [] => pure 0
  | keyId :: rest =>
    match loaded.find? fun key => key.id = keyId with
    | none => deactivateKeys loaded rest
    | some key => do
        revokeKey key
        setPlacementDesiredState keyId .inactive "subscription_deactivate"
        let processed ← deactivateKeys loaded rest
        pure (processed + 1)

/-- `SubscriptionService.deactivate`. -/
def deactivate (subscriptionId : Uuid) : Service ℕ := do
  match ← getSubscription subscriptionId with
  | none => raise .notFound
  | some subscription => do
      execute (.billing (.updateSubscription subscription.id { isActive := some false }))
      invalidatePayloadCacheByTokenHash subscription.tokenHash
      let keyIds ← select (·.keyIdsForSubscription subscription.id)
      let loaded ← select (·.keysByIds keyIds)
      deactivateKeys loaded keyIds

/-! ## Serving a configuration -/

variable (subscription : Subscription)

/-- `SubscriptionService._build_user_info`. -/
def buildUserInfo : Service SubscriptionUserInfo := do
  let limit ← select (·.trafficLimit subscription)
  pure
    { download := subscription.usedTrafficBytes
      total := limit
      expire := subscription.expiresAt.elim 0 fun expiresAt => expiresAt.tdiv 1000000 }

/-- `SubscriptionService._is_subscription_closed`, at a time. -/
def Subscription.isClosed (now : Time) : Bool :=
  !subscription.isActive || subscription.expiresAt.any (· ≤ now)

/-- `SubscriptionService._validate_subscription`. -/
def validateSubscription : Service Unit := do
  let now ← datetimeNow
  if ¬ subscription.isActive then raise .inactive
  else if subscription.expiresAt.any (· ≤ now) then raise .expired
  else pure ()

/-- What a build renders. -/
structure Rendered where
  payload : String
  etag : String
  deriving DecidableEq, Repr

/-- The answer from a cached payload. -/
def serveCached (request : PayloadRequest) (tokenHash payload etag : String) :
    Service PayloadOut := do
  let userInfo ← do
    match ← getByAnyTokenHash tokenHash with
    | none => pure none
    | some sub => do
        let info ← buildUserInfo sub
        pure (some info)
  if request.ifNoneMatch = some etag then
    pure { payload := "", etag := etag, notModified := true, userInfo := userInfo }
  else pure { payload := payload, etag := etag, notModified := false, userInfo := userInfo }

variable (build : Subscription → Service Rendered)

/-- The part of `build_payload` after the cache and the rate limit, without the release of the
lock. -/
def buildFresh
    (request : PayloadRequest) (cacheKey : RedisKey) (ttlSec : ℤ) : Service PayloadOut := do
  let tokenHash := cfg.library.sha256 request.rawToken
  match ← getByAnyTokenHash tokenHash with
  | none => raise .notFound
  | some subscription => do
      let now ← datetimeNow
      if subscription.isClosed now then do
        let userInfo ← buildUserInfo subscription
        pure { payload := "", etag := "", notModified := false, userInfo := some userInfo }
      else do
        validateSubscription subscription
        let rendered ← build subscription
        if 0 < ttlSec then
          writePayloadCache tokenHash cacheKey rendered.payload rendered.etag ttlSec
        let userInfo ← buildUserInfo subscription
        if rendered.etag ≠ "" ∧ request.ifNoneMatch = some rendered.etag then
          pure
            { payload := "", etag := rendered.etag, notModified := true, userInfo := some userInfo }
        else
          pure
            { payload := rendered.payload
              etag := rendered.etag
              notModified := false
              userInfo := some userInfo }

/-- The part of `build_payload` after the cache. -/
def buildLimited
    (request : PayloadRequest) (cacheKey lockKey : RedisKey) (ttlSec : ℤ) (lockAcquired : Bool) :
    Service PayloadOut := do
  enforceRateLimit (cfg.library.sha256 request.rawToken)
  if lockAcquired then
    (buildFresh cfg build request cacheKey ttlSec).andFinally (releasePayloadBuildLock lockKey)
  else buildFresh cfg build request cacheKey ttlSec

/-- `SubscriptionService.build_payload`. -/
def buildPayload
    (request : PayloadRequest) : Service PayloadOut := do
  let tokenHash := cfg.library.sha256 request.rawToken
  let ttlSec := max 0 cfg.responseCacheTtlSec
  let hwid := cfg.library.hwidMarker request.hwid
  let cacheKey := RedisKey.payloadCache tokenHash hwid request.extraEtagSignature
  let lockKey := RedisKey.payloadBuildLock tokenHash hwid request.extraEtagSignature
  if 0 < ttlSec then do
    match ← readPayloadCache cacheKey with
    | .hit payload etag => serveCached request tokenHash payload etag
    | _ => do
        let lockAcquired ← acquirePayloadBuildLock lockKey
        if lockAcquired then buildLimited cfg build request cacheKey lockKey ttlSec true
        else do
          match ← waitForCachedPayload cacheKey payloadBuildWaitAttempts with
          | .hit payload etag => serveCached request tokenHash payload etag
          | _ => buildLimited cfg build request cacheKey lockKey ttlSec false
  else buildLimited cfg build request cacheKey lockKey ttlSec false

end VpnControl.Vpn
