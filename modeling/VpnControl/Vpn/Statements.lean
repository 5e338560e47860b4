/-
# Statements of the subscription service

The subscription service works on the tables of billing and on its own, so its statements
include those of billing. To them come plain queries over all tables, the writes to the tables
behind VPN access, the commands to Redis and the draw of a new token.

In a transaction among others Redis may answer anything: the session brings its replies. What
Redis really answers is the business of the shared store, in `beside`.
-/

import VpnControl.Txn.Shared
import VpnControl.Vpn.Model

namespace VpnControl.Vpn

open Txn
open Billing (Uuid Time)
open Database

/-! ## Writes -/

/-- The columns that `rotate_token` sets. -/
structure SubscriptionInternalRotate where
  tokenHash : String
  prevTokenHash : String
  prevTokenExpiresAt : Time
  deriving DecidableEq, Repr

def SubscriptionInternalRotate.set (data : SubscriptionInternalRotate)
    (row : SubscriptionColumns) : SubscriptionColumns :=
  { row with
    tokenHash := data.tokenHash
    prevTokenHash := some data.prevTokenHash
    prevTokenExpiresAt := some data.prevTokenExpiresAt }

/-- One change of the tables. -/
inductive Write
  | billing (w : Billing.Write)
  | rotate (subscription : Uuid) (data : SubscriptionInternalRotate)
  /-- The traffic counters of a subscription. -/
  | setTraffic (subscription : Uuid) (used lifetime : ℤ)
  /-- The counters of a subscription that a traffic reset sets. -/
  | resetTraffic (subscription : Uuid) (now : Time)
  /-- `UPDATE subscription SET is_active = false WHERE id IN (…)`. -/
  | deactivateSubscriptions (ids : List Uuid)
  | insertKey (row : VpnKey)
  | setRevoked (key : Uuid) (revoked : Bool)
  /-- `UPDATE vpn_key SET is_revoked = … WHERE id IN (…)`. -/
  | setRevokedMany (keys : List Uuid) (revoked : Bool)
  /-- The `UPDATE` of `bulk_reset_traffic_by_subscription`. -/
  | resetKeys (keys : List Uuid)
  | setValidUntil (key : Uuid) (validUntil : Time)
  | setKeyTraffic (key : Uuid) (used : ℤ)
  | insertDevice (row : SubscriptionDevice)
  | setDeviceActive (device : Uuid) (active : Bool)
  /-- `UPDATE subscription_device SET is_active = false WHERE id IN (…)`. -/
  | deactivateDevices (ids : List Uuid)
  | insertDeviceKey (row : SubscriptionDeviceKey)
  /-- The `UPDATE` of `set_desired_state_for_key`. -/
  | setDesiredState (key : Uuid) (desired : PlacementDesiredState) (reason : String) (now : Time)
  /-- The `UPDATE` of `bulk_set_desired_state_for_keys`. -/
  | setDesiredStateMany (keys : List Uuid) (desired : PlacementDesiredState) (reason : String)
      (now : Time)
  /-- `INSERT … ON CONFLICT (key_id, backend_node_id) DO UPDATE`. -/
  | upsertPlacement (row : UserPlacement)
  /-- `INSERT … ON CONFLICT (message_id) DO NOTHING`. -/
  | enqueueMany (items : List NodeTransportOutbox)
  | insertMessage (row : NatsProcessedMsgLog)
  | insertTrafficUsage (rows : List TrafficUsage)
  deriving DecidableEq, Repr

/-- The rows that statements lock. The placements of a key are locked together. -/
inductive RowKey
  | billing (key : Billing.RowKey)
  | key (id : Uuid)
  | device (id : Uuid)
  | placements (key : Uuid)
  | message (row : NatsProcessedMsgLog)
  deriving DecidableEq, Repr

def RowKey.subscription (id : Uuid) : RowKey := .billing (.subscription id)

def Write.touches : Write → List RowKey
  | billing w => w.touches.map .billing
  | rotate subscription _ => [.subscription subscription]
  | setTraffic subscription _ _ => [.subscription subscription]
  | resetTraffic subscription _ => [.subscription subscription]
  | deactivateSubscriptions ids => ids.map .subscription
  | insertKey row => [.key row.id]
  | setRevoked key _ => [.key key]
  | setRevokedMany keys _ => keys.map .key
  | resetKeys keys => keys.map .key
  | setValidUntil key _ => [.key key]
  | setKeyTraffic key _ => [.key key]
  | insertDevice row => [.device row.id]
  | setDeviceActive device _ => [.device device]
  | deactivateDevices ids => ids.map .device
  | insertDeviceKey _ => []
  | setDesiredState key .. => [.placements key]
  | setDesiredStateMany keys .. => keys.map .placements
  | upsertPlacement row => [.placements row.keyId]
  | enqueueMany _ => []
  | insertMessage row => [.message row]
  | insertTrafficUsage _ => []

def VpnKey.setRevoked (revoked : Bool) (key : VpnKey) : VpnKey := { key with isRevoked := revoked }

/-- What `bulk_reset_traffic_by_subscription` writes into a key. -/
def VpnKey.reset (key : VpnKey) : VpnKey := { key with usedTrafficBytes := 0, isRevoked := false }

def VpnKey.setValidUntil (validUntil : Time) (key : VpnKey) : VpnKey :=
  { key with validUntil := validUntil }

def VpnKey.setTraffic (used : ℤ) (key : VpnKey) : VpnKey := { key with usedTrafficBytes := used }

def SubscriptionDevice.setActive (active : Bool) (device : SubscriptionDevice) :
    SubscriptionDevice :=
  { device with isActive := active }

def SubscriptionColumns.setTraffic (used lifetime : ℤ) (row : SubscriptionColumns) :
    SubscriptionColumns :=
  { row with usedTrafficBytes := used, lifetimeUsedTrafficBytes := lifetime }

def SubscriptionColumns.resetTraffic (now : Time) (row : SubscriptionColumns) :
    SubscriptionColumns :=
  { row with usedTrafficBytes := 0, lastTrafficResetAt := some now }

/-- What `set_desired_state_for_key` writes into a placement. -/
def UserPlacement.redirect (desired : PlacementDesiredState) (reason : String) (now : Time)
    (placement : UserPlacement) : UserPlacement :=
  { placement with
    desiredState := desired
    appliedState := .pending
    opVersion := placement.opVersion + 1
    lastMigrationReason := some reason
    updatedAt := now }

theorem UserPlacement.key_redirect (reason : String) (now : Time) (placement : UserPlacement) :
    Row.key (placement.redirect desired reason now) = Row.key placement := rfl

/-- The row that an upsert inserts for a key and a backend. -/
def UserPlacement.pending (id key backend : Uuid) (desired : PlacementDesiredState)
    (reason : Option String) (now : Time) : UserPlacement where
  id := id
  keyId := key
  backendNodeId := backend
  desiredState := desired
  appliedState := .pending
  opVersion := 1
  lastMigrationReason := reason
  updatedAt := now
  isActive := true

/-- What the conflict clause of an upsert writes into the row that is there. -/
def UserPlacement.setPending (new old : UserPlacement) : UserPlacement :=
  { old with
    desiredState := new.desiredState
    appliedState := .pending
    opVersion := old.opVersion + 1
    lastMigrationReason := new.lastMigrationReason
    isActive := true
    updatedAt := new.updatedAt }

/-- The unique constraint of `user_placement`. -/
def UserPlacement.SameHome (first second : UserPlacement) : Prop :=
  first.keyId = second.keyId ∧ first.backendNodeId = second.backendNodeId

instance (first second : UserPlacement) : Decidable (first.SameHome second) :=
  inferInstanceAs (Decidable (_ ∧ _))

namespace Database

/-- The placements that `set_desired_state_for_key` updates. -/
def redirects (db : Database) (key : Uuid) (desired : PlacementDesiredState)
    (placement : UserPlacement) : Bool :=
  placement.keyId = key ∧ placement.isActive ∧
    (db.nodes.find? placement.backendNodeId).any (fun node => node.role = .backend) ∧
    (placement.desiredState ≠ desired ∨ placement.appliedState ≠ .pending)

/-- The placements that `bulk_set_desired_state_for_keys` updates. -/
def redirectsMany (keys : List Uuid) (desired : PlacementDesiredState)
    (placement : UserPlacement) : Bool :=
  placement.keyId ∈ keys ∧ placement.isActive ∧
    (placement.desiredState ≠ desired ∨ placement.appliedState ≠ .pending)

def upsertSetPending (db : Database) (row : UserPlacement) : Database :=
  { db with
    placements :=
      if db.placements.rows.any fun old => row.SameHome old then
        db.placements.modifyWhere (fun old => row.SameHome old) row.setPending fun _ => rfl
      else db.placements.insert row }

/-- Carry out one write. -/
def apply (db : Database) : Write → Database
  | .billing w => { db with billing := db.billing.apply w }
  | .rotate subscription data =>
    { db with columns := db.columns.modify subscription data.set fun _ => rfl }
  | .setTraffic subscription used lifetime =>
    { db with
      columns := db.columns.modify subscription (.setTraffic used lifetime) fun _ => rfl }
  | .resetTraffic subscription now =>
    { db with columns := db.columns.modify subscription (.resetTraffic now) fun _ => rfl }
  | .deactivateSubscriptions ids =>
    { db with
      billing := ids.foldl (fun billing id =>
        billing.apply (.updateSubscription id { isActive := some false })) db.billing }
  | .insertKey row => { db with keys := db.keys.insert row }
  | .setRevoked key revoked =>
    { db with keys := db.keys.modify key (VpnKey.setRevoked revoked) fun _ => rfl }
  | .setRevokedMany keys revoked =>
    { db with
      keys := db.keys.modifyWhere (·.id ∈ keys) (VpnKey.setRevoked revoked) fun _ => rfl }
  | .resetKeys keys =>
    { db with keys := db.keys.modifyWhere (·.id ∈ keys) VpnKey.reset fun _ => rfl }
  | .setValidUntil key validUntil =>
    { db with keys := db.keys.modify key (VpnKey.setValidUntil validUntil) fun _ => rfl }
  | .setKeyTraffic key used =>
    { db with keys := db.keys.modify key (VpnKey.setTraffic used) fun _ => rfl }
  | .insertDevice row => { db with devices := db.devices.insert row }
  | .setDeviceActive device active =>
    { db with
      devices := db.devices.modify device (SubscriptionDevice.setActive active) fun _ => rfl }
  | .deactivateDevices ids =>
    { db with
      devices := db.devices.modifyWhere (·.id ∈ ids) (SubscriptionDevice.setActive false)
        fun _ => rfl }
  | .insertDeviceKey row => { db with deviceKeys := db.deviceKeys.insert row }
  | .setDesiredState key desired reason now =>
    { db with
      placements := db.placements.modifyWhere (db.redirects key desired)
        (UserPlacement.redirect desired reason now)
        (UserPlacement.key_redirect reason now) }
  | .setDesiredStateMany keys desired reason now =>
    { db with
      placements := db.placements.modifyWhere (redirectsMany keys desired)
        (UserPlacement.redirect desired reason now)
        (UserPlacement.key_redirect reason now) }
  | .upsertPlacement row => db.upsertSetPending row
  | .enqueueMany items => { db with outbox := items.foldl Table.insert db.outbox }
  | .insertMessage row => { db with messages := db.messages.insert row }
  | .insertTrafficUsage rows => { db with trafficUsage := db.trafficUsage ++ rows }

/-- The row under a key is the same in both databases. Of placements nothing is said. -/
def SameRow : RowKey → Database → Database → Prop
  | .billing key, first, second =>
    Billing.Database.SameRow key first.billing second.billing ∧
      ∀ id, key = .subscription id → first.columns.find? id = second.columns.find? id
  | .key id, first, second => first.keys.find? id = second.keys.find? id
  | .device id, first, second => first.devices.find? id = second.devices.find? id
  | .placements _, _, _ => True
  | .message row, first, second => first.messages.find? row = second.messages.find? row

theorem sameRow_refl (key : RowKey) (db : Database) : SameRow key db db := by
  cases key with
  | billing key => exact ⟨Billing.Database.sameRow_refl key db.billing, fun _ _ => rfl⟩
  | placements => trivial
  | _ => rfl

theorem sameRow_trans
    (h : SameRow key first second) (h' : SameRow key second third) : SameRow key first third := by
  cases key with
  | billing =>
    exact ⟨Billing.Database.sameRow_trans h.1 h'.1, fun id hid => (h.2 id hid).trans (h'.2 id hid)⟩
  | placements => trivial
  | _ => exact Eq.trans h h'

/-- Rows that agree before a list of subscriptions is closed agree afterwards. -/
theorem sameRow_deactivate {ids : List Uuid} (h : Billing.Database.SameRow key first second) :
    Billing.Database.SameRow key
      (ids.foldl (fun db id => db.apply (.updateSubscription id { isActive := some false })) first)
      (ids.foldl (fun db id => db.apply (.updateSubscription id { isActive := some false }))
        second) := by
  induction ids generalizing first second with
  | nil => exact h
  | cons _ _ ih => exact ih (Billing.Database.apply_congr _ h)

theorem sameRow_deactivate_of_notMem {ids : List Uuid}
    (db : Billing.Database) (h : ∀ id ∈ ids, key ≠ .subscription id) :
    Billing.Database.SameRow key db
      (ids.foldl (fun db id => db.apply (.updateSubscription id { isActive := some false })) db) := by
  induction ids generalizing db with
  | nil => exact Billing.Database.sameRow_refl key db
  | cons id _ ih =>
    have hfirst : Billing.Database.SameRow key db
        (db.apply (.updateSubscription id { isActive := some false })) :=
      Billing.Database.apply_frame db (by simpa [Billing.Write.touches] using h id (by simp))
    exact Billing.Database.sameRow_trans hfirst (ih _ fun other hother => h other (by simp [hother]))

/-- A write leaves the rows it does not touch alone. -/
theorem apply_frame {write : Write} (db : Database) (h : key ∉ write.touches) :
    SameRow key db (db.apply write) := by
  have hrefl := sameRow_refl key db
  cases write with
  | billing =>
    cases key with
    | billing key =>
      refine ⟨Billing.Database.apply_frame db.billing fun hkey => h ?_, fun _ _ => rfl⟩
      exact List.mem_map.mpr ⟨key, hkey, rfl⟩
    | _ => exact hrefl
  | deactivateSubscriptions =>
    cases key with
    | billing =>
      refine ⟨sameRow_deactivate_of_notMem db.billing ?_, fun _ _ => rfl⟩
      rintro id hid rfl
      exact h (List.mem_map.mpr ⟨id, hid, rfl⟩)
    | _ => exact hrefl
  | rotate | setTraffic | resetTraffic =>
    cases key with
    | billing =>
      refine ⟨hrefl.1, fun id hid => ?_⟩
      simp only [Write.touches, RowKey.subscription, hid, List.mem_singleton, RowKey.billing.injEq,
        Billing.RowKey.subscription.injEq] at h
      simp only [apply]
      exact (Table.find?_modify_of_ne _ _ h).symm
    | _ => exact hrefl
  | _ =>
    -- the rows that a statement changes are named in what it touches
    cases key <;> first
    | exact hrefl
    | simp [Write.touches] at h
      simp only [SameRow, apply]
      first
      | exact (Table.find?_modify_of_ne _ _ h).symm
      | exact (Table.find?_modifyWhere_of_notMem _ _ h).symm
      | exact (Table.find?_insert_of_ne h).symm

theorem apply_congr (write : Write)
    (h : SameRow key first second) : SameRow key (first.apply write) (second.apply write) := by
  cases write with
  | billing w =>
    cases key with
    | billing => exact ⟨Billing.Database.apply_congr w h.1, h.2⟩
    | _ => exact h
  | deactivateSubscriptions ids =>
    cases key with
    | billing => exact ⟨sameRow_deactivate h.1, h.2⟩
    | _ => exact h
  | rotate | setTraffic | resetTraffic =>
    cases key with
    | billing =>
      refine ⟨h.1, fun id hid => ?_⟩
      simp only [apply]
      exact Table.find?_modify_congr _ _ (h.2 id hid)
    | _ => exact h
  | _ =>
    cases key <;> simp only [SameRow, apply] at h ⊢ <;> first
    | exact h
    | exact Table.find?_modify_congr _ _ h
    | exact Table.find?_modifyWhere_congr _ _ h
    | exact Table.find?_insert_congr h

/-! ### The table a write changes -/

/-- The tables that are written. -/
inductive Part
  | billing | columns | keys | devices | deviceKeys | placements | outbox | messages | trafficUsage
  deriving DecidableEq, Repr

/-- The table that a write changes. -/
def Part.of : Write → Part
  | .billing _ | .deactivateSubscriptions _ => billing
  | .rotate .. | .setTraffic .. | .resetTraffic .. => columns
  | .insertKey _ | .setRevoked .. | .setRevokedMany .. | .resetKeys _ | .setValidUntil .. |
    .setKeyTraffic .. => keys
  | .insertDevice _ | .setDeviceActive .. | .deactivateDevices _ => devices
  | .insertDeviceKey _ => deviceKeys
  | .setDesiredState .. | .setDesiredStateMany .. | .upsertPlacement _ => placements
  | .enqueueMany _ => outbox
  | .insertMessage _ => messages
  | .insertTrafficUsage _ => trafficUsage

/-- A table is the same in both databases. -/
def Part.Same : Part → Database → Database → Prop
  | billing, first, second => first.billing = second.billing
  | columns, first, second => first.columns = second.columns
  | keys, first, second => first.keys = second.keys
  | devices, first, second => first.devices = second.devices
  | deviceKeys, first, second => first.deviceKeys = second.deviceKeys
  | placements, first, second => first.placements = second.placements
  | outbox, first, second => first.outbox = second.outbox
  | messages, first, second => first.messages = second.messages
  | trafficUsage, first, second => first.trafficUsage = second.trafficUsage

theorem Part.Same.trans {part : Part}
    (h : part.Same first second) (h' : part.Same second third) : part.Same first third := by
  cases part <;> exact Eq.trans h h'

/-- A write changes one table. -/
theorem same_apply (h : Part.of w ≠ part) : part.Same (db.apply w) db := by
  cases w <;> cases part <;> first | rfl | exact absurd rfl h

theorem same_foldl (part : Part) {ws : List Write}
    (h : ∀ w ∈ ws, Part.of w ≠ part) : part.Same (ws.foldl apply db) db :=
  List.foldlRecOn (motive := (part.Same · db)) ws _ (by cases part <;> rfl)
    fun _ hsame w hw => (same_apply (h w hw)).trans hsame

theorem planTraffic_apply (db : Database) : (db.apply w).planTraffic = db.planTraffic := by
  cases w <;> rfl

theorem planTraffic_foldl (db : Database) (ws : List Write) :
    (ws.foldl apply db).planTraffic = db.planTraffic :=
  List.foldlRecOn (motive := fun later : Database => later.planTraffic = _) ws _ rfl
    fun later hsame _ _ => (planTraffic_apply later).trans hsame

end Database

/-! ## Sessions and statements -/

/-- The session of a request and the world it runs in. -/
structure Session where
  billing : Billing.Session
  /-- What Redis answers when its contents are not looked at. -/
  redis : (command : RedisCommand) → command.Reply
  /-- The tokens that `SubscriptionUtils.generate` draws. -/
  token : ℕ → String
  drawn : ℕ

/-- What the service asks of its session. -/
inductive Stmt : Type 1
  | billing (op : Billing.Stmt)
  | query (α : Type) (select : Database → α)
  | write (w : Write)
  /-- `SELECT id FROM subscription … FOR UPDATE`. -/
  | lockSubscription (id : Uuid)
  /-- An `INSERT` under a unique key waits for a concurrent one of the same key. The reply says
  whether the key is free. -/
  | lockMessage (row : NatsProcessedMsgLog)
  | redis (command : RedisCommand)
  /-- `SubscriptionUtils.generate()`. -/
  | generateToken

namespace Stmt

abbrev Reply : Stmt → Type
  | billing op => op.Reply
  | query α _ => α
  | write _ => Unit
  | lockSubscription _ => Unit
  | lockMessage _ => Bool
  | redis command => command.Reply
  | generateToken => String

def writes : Stmt → List Write
  | billing op => op.writes.map .billing
  | write w => [w]
  | _ => []

def locks : Stmt → Database → List RowKey
  | billing op, db => (op.locks db.billing).map .billing
  | write w, _ => w.touches
  | lockSubscription id, db =>
    if (db.billing.subscriptions.find? id).isSome then [.subscription id] else []
  | lockMessage row, _ => [.message row]
  | _, _ => []

def answer : (op : Stmt) → Database → Session → op.Reply × Session
  | billing op, db, s =>
    let answered := op.answer db.billing s.billing
    (answered.1, { s with billing := answered.2 })
  | query _ select, db, s => (select db, s)
  | write _, _, s => ((), s)
  | lockSubscription _, _, s => ((), s)
  | lockMessage row, db, s => ((db.messages.find? row).isNone, s)
  | redis command, _, s => (s.redis command, s)
  | generateToken, _, s => (s.token s.drawn, { s with drawn := s.drawn + 1 })

end Stmt

/-- The tables of the subscription service as an engine. -/
abbrev engine : Engine where
  Op := Stmt
  Reply := Stmt.Reply
  State := Database
  Session := Session
  Key := RowKey
  Write := Write
  decEqKey := inferInstance
  apply := Database.apply
  answer := Stmt.answer
  writes := Stmt.writes
  locks := Stmt.locks
  touches := Write.touches
  SameRow := Database.SameRow
  sameRow_refl := sameRow_refl
  sameRow_trans := sameRow_trans
  apply_frame := apply_frame
  apply_congr := apply_congr
  touches_locked := by
    intro op write key db hwrite hkey
    cases op with
    | billing =>
      obtain ⟨w, hw, rfl⟩ := List.mem_map.mp hwrite
      obtain ⟨row, hrow, rfl⟩ := List.mem_map.mp hkey
      exact List.mem_map.mpr ⟨row, Billing.engine.touches_locked db.billing hw hrow, rfl⟩
    | write =>
      obtain rfl := List.mem_singleton.mp hwrite
      exact hkey
    | _ => cases hwrite

/-- A method of the service. -/
abbrev Service (α : Type) := Program engine.toSignature SubscriptionError α

/-- A method of billing. -/
def ofBilling {α : Type} (p : Billing.Service α) : Service α :=
  p.embed .billing (fun _ reply => reply) .billing

/-! ## Redis beside the database -/

/-- The contents of Redis and the time. -/
structure Cache where
  redis : Redis.Store RedisKey Blob
  now : Time

/-- Redis answers its commands, and time goes on. -/
abbrev beside : Shared engine where
  Store := Cache
  serve
    | .redis command, cache =>
      let served := cache.redis.serve cache.now command
      some (served.1, { cache with redis := served.2 })
    | _, _ => none
  Drift first second := second.redis = first.redis ∧ first.now ≤ second.now

end VpnControl.Vpn
