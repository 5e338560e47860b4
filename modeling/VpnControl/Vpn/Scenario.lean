/-
# A subscription with one key

The running subscription of the small deployment of billing, with one device, one key and one
placement. The runs that show a general statement at work, or show that it needs its
condition, are replayed on it.
-/

import VpnControl.Billing.Scenario
import VpnControl.Vpn.Service

namespace VpnControl.Vpn.Scenario

open Txn

open Billing.Scenario (running pendingOrder database withOrder)

def completedOrder : Billing.PaymentOrder :=
  { pendingOrder with status := .completed, subscriptionId := some running.id }

def deviceKey (revoked : Bool) : VpnKey where
  id := 30
  transport := .reality
  clientId := "client"
  validUntil := 1000
  isRevoked := revoked
  subscriptionId := some Billing.Scenario.running.id

def placement (desired : PlacementDesiredState) : UserPlacement where
  id := 40
  keyId := 30
  backendNodeId := 50
  desiredState := desired
  appliedState := .pending
  opVersion := 1
  lastMigrationReason := none
  updatedAt := 0
  isActive := true

/-- Access through one key, given or cut. -/
def access (cut : Bool) : Database :=
  let desired := if cut then .inactive else .active
  { Database.empty with
    billing :=
      { withOrder (database 500) completedOrder with
        subscriptions := Table.empty.insert running }
    columns := Table.empty.insert
      { id := running.id
        tokenHash := "hash"
        prevTokenHash := none
        prevTokenExpiresAt := none
        usedTrafficBytes := 0 }
    devices := Table.empty.insert { id := 20, subscriptionId := running.id, hwidHash := "device" }
    deviceKeys := Table.empty.insert
      { id := 21
        subscriptionDeviceId := 20
        vpnKeyId := 30
        transport := .reality
        isPrimary := true }
    keys := Table.empty.insert (deviceKey cut)
    placements := Table.empty.insert (placement desired)
    nodes := Table.empty.insert { id := 50 }
    outbox :=
      if cut then Table.empty.insert
        { messageId := ⟨40, 1, none⟩
          nodeId := 50
          payload := buildCommandPayload (placement desired) (deviceKey cut) 50 }
      else Table.empty }

/-- A request at time zero. -/
def point (db : Database) : beside.Point where
  session :=
    { billing := Billing.Scenario.session 100
      redis := fun
        | .get _ => none
        | .setex .. => ()
        | .setNx .. => true
        | .delete _ => ()
        | .incr _ => 1
        | .expire .. => ()
        | .sadd .. => ()
        | .smembers _ => []
      token := fun drawn => s!"token{drawn}"
      drawn := 0 }
  db := db
  store := { redis := .empty, now := 0 }

end VpnControl.Vpn.Scenario
