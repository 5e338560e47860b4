/-
# The data of subscriptions, devices and keys

The tables behind VPN access: subscription tokens, the devices of a subscription, the keys bound
to a device, the placements of a key on backend nodes, and the outbox of commands for the node
agents. Enumerations of the source are inductive types. A subscription row is kept in two
parts. The columns that billing reads are in the tables of billing, the others are here.
-/

import VpnControl.Billing.Statements
import VpnControl.Redis.Store

namespace VpnControl.Vpn

open Txn
open Billing (Uuid Time)

inductive VpnTransport
  | ws | xhttp | tcp | reality
  deriving DecidableEq, Repr

inductive NodeRole
  | backend | entry | whitelistEntry
  deriving DecidableEq, Repr

/-- How often the traffic counters of a plan start again. -/
inductive ResetStrategy
  | noReset | day | week | month
  deriving DecidableEq, Repr

inductive PlacementDesiredState
  | active | inactive
  deriving DecidableEq, Repr

inductive PlacementAppliedState
  | pending | applied | error
  deriving DecidableEq, Repr

/-! ## Rows -/

/-- The columns of a subscription that billing does not read. -/
structure SubscriptionColumns where
  id : Uuid
  tokenHash : String
  prevTokenHash : Option String
  prevTokenExpiresAt : Option Time
  profileKey : Option String := none
  preferredRegion : Option String := none
  usedTrafficBytes : ℤ
  lifetimeUsedTrafficBytes : ℤ := 0
  lastTrafficResetAt : Option Time := none
  deriving DecidableEq, Repr

/-- A whole subscription row. -/
structure Subscription extends Billing.Subscription where
  tokenHash : String
  prevTokenHash : Option String
  prevTokenExpiresAt : Option Time
  profileKey : Option String
  preferredRegion : Option String
  usedTrafficBytes : ℤ
  lifetimeUsedTrafficBytes : ℤ
  lastTrafficResetAt : Option Time
  deriving DecidableEq, Repr

/-- The columns of a plan about traffic. -/
structure PlanTraffic where
  id : Uuid
  trafficLimitBytes : ℤ
  resetStrategy : ResetStrategy := .noReset
  deriving DecidableEq, Repr

structure SubscriptionDevice where
  id : Uuid
  subscriptionId : Uuid
  hwidHash : String
  isActive : Bool := true
  deriving DecidableEq, Repr

structure SubscriptionDeviceKey where
  id : Uuid
  subscriptionDeviceId : Uuid
  vpnKeyId : Uuid
  transport : VpnTransport
  isPrimary : Bool
  isActive : Bool := true
  deriving DecidableEq, Repr

structure VpnKey where
  id : Uuid
  transport : VpnTransport
  clientId : String
  validUntil : Time
  trafficLimitMb : ℤ := 0
  usedTrafficBytes : ℤ := 0
  isRevoked : Bool
  isActive : Bool := true
  subscriptionId : Option Uuid
  entryRoutingOverrideBackendTag : Option String := none
  deriving DecidableEq, Repr

structure UserPlacement where
  id : Uuid
  keyId : Uuid
  backendNodeId : Uuid
  desiredState : PlacementDesiredState
  appliedState : PlacementAppliedState
  opVersion : ℕ
  appliedVersion : ℕ := 0
  lastMigrationReason : Option String
  updatedAt : Time
  isActive : Bool
  deriving DecidableEq, Repr

/-- The row of `node_agent_state` of a node. -/
structure NodeAgentState where
  isHealthy : Bool
  lastSeenAt : Option Time
  deriving DecidableEq, Repr

/-- A node with the state of its agent. -/
structure VpnNode where
  id : Uuid
  role : NodeRole := .backend
  isActive : Bool := true
  isEnabled : Bool := true
  isDraining : Bool := false
  isVirtual : Bool := false
  agentState : Option NodeAgentState := none
  deriving DecidableEq, Repr

/-- The columns of a route that decide which nodes carry traffic. -/
structure Route where
  id : Uuid
  nodeId : Uuid
  entryNodeId : Option Uuid
  deriving DecidableEq, Repr

structure EntryBackendAssignment where
  entryNodeId : Uuid
  backendNodeId : Uuid
  weight : ℤ := 100
  enabled : Bool
  rank : ℤ := 0
  isActive : Bool := true
  deriving DecidableEq, Repr

/-- What a node agent is told about a placement. -/
structure PlacementCommandPayload where
  placementId : Uuid
  keyId : Uuid
  nodeId : Uuid
  backendNodeId : Uuid
  opVersion : ℕ
  desiredState : PlacementDesiredState
  transport : VpnTransport
  clientId : String
  isRevoked : Bool
  validUntil : Time
  updatedAt : Time
  entryRoutingOverrideBackendTag : Option String
  deriving DecidableEq, Repr

/-- The text `placement-command:<placement>:<version>`, followed by `:<node>` when the command
goes to an entry node. -/
structure MessageId where
  placementId : Uuid
  opVersion : ℕ
  entryNodeId : Option Uuid
  deriving DecidableEq, Repr

/-- A row of `node_transport_outbox`. -/
structure NodeTransportOutbox where
  messageId : MessageId
  nodeId : Uuid
  payload : PlacementCommandPayload
  deriving DecidableEq, Repr

/-- A row of `nats_processed_msg_log`. -/
structure NatsProcessedMsgLog where
  subject : String
  msgId : String
  deriving DecidableEq, Repr

/-- A row of `traffic_usage`. -/
structure TrafficUsage where
  keyId : Uuid
  deltaBytes : ℤ
  deriving DecidableEq, Repr

instance : Row SubscriptionColumns Uuid := ⟨SubscriptionColumns.id⟩
instance : Row PlanTraffic Uuid := ⟨PlanTraffic.id⟩
instance : Row SubscriptionDevice Uuid := ⟨SubscriptionDevice.id⟩
instance : Row SubscriptionDeviceKey Uuid := ⟨SubscriptionDeviceKey.id⟩
instance : Row VpnKey Uuid := ⟨VpnKey.id⟩
instance : Row UserPlacement Uuid := ⟨UserPlacement.id⟩
instance : Row VpnNode Uuid := ⟨VpnNode.id⟩
instance : Row Route Uuid := ⟨Route.id⟩

/-- The unique constraint of the log. -/
instance : Row NatsProcessedMsgLog NatsProcessedMsgLog := ⟨id⟩

/-- The unique index of the outbox. -/
instance : Row NodeTransportOutbox MessageId := ⟨NodeTransportOutbox.messageId⟩

structure Database where
  billing : Billing.Database
  columns : Table SubscriptionColumns
  planTraffic : Table PlanTraffic
  devices : Table SubscriptionDevice
  deviceKeys : Table SubscriptionDeviceKey
  keys : Table VpnKey
  placements : Table UserPlacement
  nodes : Table VpnNode
  routes : Table Route
  entryAssignments : List EntryBackendAssignment
  outbox : Table NodeTransportOutbox
  messages : Table NatsProcessedMsgLog
  trafficUsage : List TrafficUsage

namespace Database

def empty : Database where
  billing := Billing.Database.empty
  columns := .empty
  planTraffic := .empty
  devices := .empty
  deviceKeys := .empty
  keys := .empty
  placements := .empty
  nodes := .empty
  routes := .empty
  entryAssignments := []
  outbox := .empty
  messages := .empty
  trafficUsage := []

/-- The whole row of which the other columns are given. -/
def joinSubscription (db : Database) (columns : SubscriptionColumns) : Option Subscription :=
  (db.billing.subscriptions.find? columns.id).map fun row =>
    { row with
      tokenHash := columns.tokenHash
      prevTokenHash := columns.prevTokenHash
      prevTokenExpiresAt := columns.prevTokenExpiresAt
      profileKey := columns.profileKey
      preferredRegion := columns.preferredRegion
      usedTrafficBytes := columns.usedTrafficBytes
      lifetimeUsedTrafficBytes := columns.lifetimeUsedTrafficBytes
      lastTrafficResetAt := columns.lastTrafficResetAt }

end Database

/-! ## Redis -/

/-- What stands for a hardware id in a key: the texts `none` and `empty`, or a hash. -/
inductive HwidMarker
  | none
  | empty
  | hash (digest : String)
  deriving DecidableEq, Repr

/-- The keys of `redis_key.py`. A suffix is what `build_payload` appends to the key of a
payload or of its lock. -/
inductive RedisKey
  /-- `sub:rl:<token hash>`. -/
  | rateLimit (tokenHash : String)
  /-- `sub:cfg:<token hash>:<hwid><suffix>`. -/
  | payloadCache (tokenHash : String) (hwid : HwidMarker) (suffix : String)
  /-- `sub:cfg:index:<token hash>`. -/
  | payloadCacheIndex (tokenHash : String)
  /-- `sub:cfg:lock:<token hash>:<hwid><suffix>`. -/
  | payloadBuildLock (tokenHash : String) (hwid : HwidMarker) (suffix : String)
  deriving DecidableEq, Repr

/-- `redis_key.is_payload_cache_key`: the key starts with `sub:cfg:`. -/
def RedisKey.isPayloadCacheKey : RedisKey → Bool
  | rateLimit _ => false
  | payloadCache .. => true
  | payloadCacheIndex _ => true
  | payloadBuildLock .. => true

/-- What is stored under a key: the JSON of a payload, or the mark of a lock. -/
inductive Blob
  | payload (etag payload : String)
  | lock
  deriving DecidableEq, Repr

abbrev RedisCommand := Redis.Command RedisKey Blob

/-! ## Requests and answers -/

/-- The libraries that a service calls. -/
structure Library where
  /-- `hashlib.sha256(text.encode()).hexdigest()`. -/
  sha256 : String → String
  /-- `str.strip`. -/
  strip : String → String

/-- The settings that are read. -/
structure Settings where
  publicBaseUrl : String
  responseCacheTtlSec : ℤ := 15
  library : Library

/-- `redis_key._hwid_marker`. -/
def Library.hwidMarker (library : Library) : Option String → HwidMarker
  | none => .none
  | some hwid =>
    let normalized := library.strip hwid
    if normalized = "" then .empty else .hash (library.sha256 normalized)

structure SubscriptionUserInfo where
  upload : ℤ := 0
  download : ℤ := 0
  total : ℤ := 0
  expire : ℤ := 0
  deriving DecidableEq, Repr

structure SubscriptionRotateOut where
  token : String
  subscriptionUrl : String
  deriving DecidableEq, Repr

/-- The arguments of `build_payload` that decide what is cached and returned. -/
structure PayloadRequest where
  rawToken : String
  hwid : Option String := none
  ifNoneMatch : Option String := none
  extraEtagSignature : String := ""
  deriving DecidableEq, Repr

/-- What `build_payload` returns. -/
structure PayloadOut where
  payload : String
  etag : String
  notModified : Bool
  userInfo : Option SubscriptionUserInfo
  deriving DecidableEq, Repr

/-- The exceptions. -/
inductive SubscriptionError
  | notFound
  | rateLimited
  | inactive
  | expired
  | build (message : String)
  | buildUnavailable (message : String)
  | hwidRequired
  | deviceLimitReached
  /-- `HTTPException(404, "Device not found")`. -/
  | deviceNotFound
  /-- `scalar_one_or_none` met several rows. -/
  | multipleResultsFound
  | integrityError
  | runtimeError (message : String)
  /-- An exception of billing. -/
  | billing (error : Billing.BillingError)
  deriving DecidableEq, Repr

end VpnControl.Vpn
