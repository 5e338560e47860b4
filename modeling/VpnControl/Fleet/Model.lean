/-
# The rows of the fleet

Nodes with the state of their agents, the routes over them, and the assignments of backends to
entries, with the columns that their operation reads and writes: drain flags, heartbeat counters,
addresses, weights, cooldowns. The accounts and keys of the users see less of these tables.
-/

import VpnControl.Billing.Model

namespace VpnControl.Fleet

open Txn
open Billing (Uuid Time)

/-! ## Nodes -/

/-- The role of a node. An administrator may set the column to any text. -/
inductive NodeRole
  | backend
  | entry
  | whitelistEntry
  | other (name : String)
  deriving DecidableEq, Repr

/-- `ENTRY_ROLES`. -/
def NodeRole.isEntry : NodeRole → Bool
  | entry | whitelistEntry => true
  | backend | other _ => false

inductive DrainSource
  | admin
  | autoHeal
  deriving DecidableEq, Repr

def drainReasonUnhealthyHeartbeat : String := "unhealthy_heartbeat"

def drainReasonEntryAutoDrain : String := "entry_auto_drain"

/-- What heartbeats keep under `details["heartbeat"]`. -/
structure NodeHeartbeatMeta where
  consecutiveUnhealthy : ℕ := 0
  consecutiveHealthy : ℕ := 0
  drainReason : Option String := none
  drainedAt : Option Time := none
  deriving DecidableEq, Repr

structure NodeAgentState where
  isHealthy : Bool := true
  lastSeenAt : Option Time := none
  heartbeat : NodeHeartbeatMeta := {}
  deriving DecidableEq, Repr

structure VpnNode where
  id : Uuid
  name : String := ""
  role : NodeRole := .backend
  region : String := ""
  zone : Option String := none
  publicDomain : String := ""
  realityIp : Option String := none
  internalWgIp : String := ""
  isActive : Bool := true
  isEnabled : Bool := true
  isDraining : Bool := false
  isVirtual : Bool := false
  drainSource : Option DrainSource := none
  agentState : Option NodeAgentState := none
  deriving DecidableEq, Repr

instance : Row VpnNode Uuid := ⟨VpnNode.id⟩

/-! ## Routes -/

structure TransportProfile where
  id : Uuid
  name : String := ""
  network : String := "tcp"
  security : String := "reality"
  isActive : Bool := true
  deriving DecidableEq, Repr

instance : Row TransportProfile Uuid := ⟨TransportProfile.id⟩

inductive RouteHealthStatus
  | healthy
  | suspected
  | degraded
  | blocked
  | warmingUp
  deriving DecidableEq, Repr

structure Route where
  id : Uuid
  name : String := ""
  nodeId : Uuid
  entryNodeId : Option Uuid := none
  transportProfileId : Uuid
  healthStatus : RouteHealthStatus := .healthy
  baseWeight : ℤ := 50
  effectiveWeight : ℤ := 50
  cooldownUntil : Option Time := none
  warmupStage : Option ℕ := none
  warmupStartedAt : Option Time := none
  isActive : Bool := true
  deriving DecidableEq, Repr

instance : Row Route Uuid := ⟨Route.id⟩

/-! ## Assignments -/

structure EntryBackendAssignment where
  entryNodeId : Uuid
  backendNodeId : Uuid
  weight : ℤ := 100
  enabled : Bool := true
  rank : ℤ := 0
  isActive : Bool := true
  createdAt : Time
  updatedAt : Time
  deriving DecidableEq, Repr

/-- An entry and a backend have one assignment. -/
instance : Row EntryBackendAssignment (Uuid × Uuid) :=
  ⟨fun assignment => (assignment.entryNodeId, assignment.backendNodeId)⟩

/-! ## Relay pools -/

structure RelayBackendOut where
  id : Uuid
  address : String
  port : ℕ
  weight : ℤ
  enabled : Bool
  rank : ℤ
  deriving DecidableEq, Repr

structure RelayPoolOut where
  entryId : Uuid
  generation : ℤ
  ttlSeconds : ℕ
  backends : List RelayBackendOut
  deriving DecidableEq, Repr

/-- A `pool_changed` event in the outbox of an entry node. -/
structure PoolChanged where
  nodeId : Uuid
  pool : RelayPoolOut
  deriving DecidableEq, Repr

/-! ## The database -/

structure Database where
  nodes : Table VpnNode
  assignments : Table EntryBackendAssignment
  routes : Table Route
  profiles : Table TransportProfile
  /-- The `pool_changed` events of the outbox, oldest first. -/
  poolEvents : List PoolChanged
  /-- `uuid4()` gives this value next. -/
  nextUuid : Uuid

/-- Why a transaction is rolled back. -/
inductive FleetError
  | nodeNotFound
  | backendRole
  | entryNotFound
  | entryRole
  | backendNotFound
  | zoneMismatch
  | profileNotFound
  | routeNotFound
  | routeExists
  | routeNameExists
  | weightTooLarge
  | cooldownActive
  | rejected
  /-- A query that expects at most one row has found several. -/
  | multipleResults
  | uniqueViolation
  | notNullViolation
  | checkViolation
  deriving DecidableEq, Repr

/-- What a transaction leaves, if it commits. -/
abbrev Outcome := Except FleetError Database

end VpnControl.Fleet
