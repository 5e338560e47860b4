/-
# Relay pools and assignments

The relay of an entry node asks for its pool: the backends that are assigned to the entry, with
their addresses and whether they take traffic. Whenever an assignment changes, and whenever a
backend is drained or comes back, an event with the pool goes to the outbox of each entry
concerned, in the same transaction. The generation of a pool is the time of the last change of an
assignment that is still active, in whole seconds.
-/

import Mathlib.Data.List.Sort
import VpnControl.Billing.Providers
import VpnControl.Fleet.Model

namespace VpnControl.Fleet

open Txn
open Billing (Uuid Time strip)

def relayPoolTtlSec : ℕ := 300

/-- What the service is configured with: the port of the relays, the zone of a node and the name
of an automatic route. -/
structure EntrySettings where
  realityPort : ℕ := 443
  effectiveZone : Option String → String → String
  canonicalRouteName : String → String → String → String

def plainSettings : EntrySettings where
  effectiveZone _ region := region
  canonicalRouteName entry backend profile := entry ++ "→" ++ backend ++ "·" ++ profile

/-- `_resolve_backend_address`. -/
def resolveBackendAddress (backend : VpnNode) : Option String :=
  let candidate := strip (if backend.realityIp.getD "" ≠ "" then backend.realityIp.getD ""
    else backend.internalWgIp)
  if candidate = "" then none else some candidate

/-- `_generation`. -/
def generation (assignments : List EntryBackendAssignment) : ℤ :=
  ((assignments.map (·.updatedAt)).max?).elim 0 fun latest => latest.tdiv 1000000

namespace Database

variable (settings : EntrySettings) (db : Database)

variable (entry : Uuid)

/-- `list_by_entry`. -/
def listByEntry : List EntryBackendAssignment :=
  (db.assignments.rows.filter fun a => a.entryNodeId = entry ∧ a.isActive).insertionSort
    fun first second => first.createdAt ≤ second.createdAt

/-- The item of an assignment in the pool. -/
def relayBackend (a : EntryBackendAssignment) : Option RelayBackendOut :=
  (db.nodes.find? a.backendNodeId).bind fun backend =>
    if ¬ backend.isActive then none
    else (resolveBackendAddress backend).map fun address => {
      id := backend.id
      address
      port := settings.realityPort
      weight := a.weight
      enabled := a.enabled ∧ backend.isEnabled ∧ ¬ backend.isDraining
      rank := a.rank }

/-- The items of a pool, primary tier first. -/
def relayBackends : List RelayBackendOut :=
  ((db.listByEntry entry).filterMap (db.relayBackend settings)).insertionSort fun first second =>
    first.rank < second.rank ∨ first.rank = second.rank ∧ first.id ≤ second.id

/-- `_require_entry`. -/
def requireEntry : Except FleetError VpnNode :=
  match db.nodes.find? entry with
  | none => .error .entryNotFound
  | some node =>
    if ¬ node.isActive then .error .entryNotFound
    else if ¬ node.role.isEntry then .error .entryRole
    else .ok node

/-- `_require_backend`. -/
def requireBackend (backend : Uuid) : Except FleetError VpnNode :=
  match db.nodes.find? backend with
  | none => .error .backendNotFound
  | some node =>
    if ¬ node.isActive then .error .backendNotFound
    else if node.role ≠ .backend then .error .backendRole
    else .ok node

/-- `get_relay_pool`. -/
def getRelayPool : Except FleetError RelayPoolOut := do
  let _ ← db.requireEntry entry
  pure {
    entryId := entry
    generation := generation (db.listByEntry entry)
    ttlSeconds := relayPoolTtlSec
    backends := db.relayBackends settings entry }

/-- `_enqueue_pool_snapshot`. -/
def enqueuePoolSnapshot : Outcome := do
  let pool ← db.getRelayPool settings entry
  pure { db with poolEvents := db.poolEvents ++ [⟨entry, pool⟩] }

/-- `list_entry_ids_for_backend`. -/
def entryIdsForBackend (backend : Uuid) : List Uuid :=
  ((db.assignments.rows.filter fun a => a.backendNodeId = backend ∧ a.isActive).map
    (·.entryNodeId)).dedup

end Database

end VpnControl.Fleet
