/-
# Prolonging a subscription

Four methods in three services move the end of a subscription: `extend_subscription`, the day that
support grants, a renewal from the balance and the extension of a free plan. A key has an end of
its own, and a job revokes the keys that have passed it. Only the renewal moves the ends of the
keys, because it calls `activate`. After the other three the keys reach as far as they did before.
-/

import VpnControl.Vpn.Renewal
import VpnControl.Vpn.RevokedDevices

namespace VpnControl.Vpn

open Txn Shared List Option Database
open Billing (Uuid Time days Plan PaymentOrder)

/-- `SubscriptionService.extend_subscription`. -/
def extendSubscription (subscriptionId : Uuid) (dayCount : ℤ) : Service (Option Subscription) := do
  match ← getSubscription subscriptionId with
  | none => raise .notFound
  | some subscription => do
      let now ← datetimeNow
      let base := (subscription.expiresAt.filter (now < ·)).getD now
      execute (.billing (.updateSubscription subscriptionId
        { expiresAt := some (base + days dayCount), isActive := some true }))
      let updated ← getSubscription subscriptionId
      if subscription.tokenHash ≠ "" then invalidatePayloadCacheByTokenHash subscription.tokenHash
      pure updated

/-! ## The property -/

namespace Database

variable {db db' : Database} {subscription : Uuid} {key : VpnKey}

/-- The key is bound to an active device of the subscription. -/
def DeviceKey (db : Database) (subscription : Uuid) (key : VpnKey) : Prop :=
  ∃ binding ∈ db.deviceKeys.rows, binding.isActive ∧
    (∃ device ∈ db.devices.find? binding.subscriptionDeviceId,
      device.subscriptionId = subscription ∧ device.isActive) ∧
    db.keys.find? binding.vpnKeyId = some key

/-- The keys of the active devices last until `expiresAt` and are not revoked, up to those that
were revoked individually. -/
def Reaches (db : Database) (subscription : Uuid) (expiresAt : Time) (individually : Uuid → Prop) :
    Prop :=
  ∀ key, db.DeviceKey subscription key →
    (key.isRevoked → individually key.id) ∧ expiresAt ≤ key.validUntil

/-- The subscription is active until `expiresAt`. -/
def RunsUntil (db : Database) (subscription : Uuid) (expiresAt : Time) : Prop :=
  ∃ row ∈ db.billing.subscriptions.find? subscription, row.isActive ∧ row.expiresAt = some expiresAt

theorem OnlyBilling.reaches (h : db.OnlyBilling db') :
    db'.Reaches subscription expiresAt individually ↔
      db.Reaches subscription expiresAt individually := by
  rw [h]
  rfl

end Database

/-! ## The keys after a renewal -/

/-- The key lasts until `expiresAt` and is not revoked. -/
def VpnKey.LastsUntil (expiresAt : Time) (key : VpnKey) : Prop :=
  ¬ key.isRevoked ∧ expiresAt ≤ key.validUntil

/-- The keys on the list are restored, up to those that are left. -/
structure Restoring (base : Access) (expiresAt : Time) (keyIds left : List Uuid) (a : Access) :
    Prop where
  devices : a.devices = base.devices
  deviceKeys : a.deviceKeys = base.deviceKeys
  keys : ∀ id ∈ keyIds, ∀ key, a.keys.find? id = some key →
    key.LastsUntil expiresAt ∨ id ∈ left ∧ base.keys.find? id = some key

section Restoring

variable {base : Access} {expiresAt : Time} {keyIds left : List Uuid}

/-- The key in hand is not revoked any more, and its end is the one that was loaded. -/
structure Reviving (base : Access) (expiresAt : Time) (keyIds left : List Uuid) (loaded : VpnKey)
    (a : Access) : Prop where
  devices : a.devices = base.devices
  deviceKeys : a.deviceKeys = base.deviceKeys
  keys : ∀ id ∈ keyIds, ∀ key, a.keys.find? id = some key → key.LastsUntil expiresAt ∨
      (id = loaded.id ∧ ¬ key.isRevoked ∧ key.validUntil = loaded.validUntil) ∨
        id ≠ loaded.id ∧ id ∈ left ∧ base.keys.find? id = some key

theorem triple_unrevokeKey_restoring (hloaded : base.keys.find? loaded.id = some loaded) :
    Triple (At fun a _ => Restoring base expiresAt keyIds (loaded.id :: left) a)
      (unrevokeKey loaded)
      fun _ => At fun a _ => Reviving base expiresAt keyIds left loaded a := by
  unfold unrevokeKey
  split
  · refine .perform fun s hs => ⟨hs.devices, hs.deviceKeys, fun id hid key hkey => ?_⟩
    obtain ⟨old, hold, ⟨rfl, rfl⟩ | ⟨hne, rfl⟩⟩ :=
      Table.exists_of_find?_modify (VpnKey.setRevoked false) (fun _ => rfl) hkey
    · rcases hs.keys _ hid old hold with hlasts | ⟨-, hbase⟩
      · exact .inl ⟨Bool.false_ne_true, hlasts.2⟩
      · obtain rfl : old = loaded := mem_unique hbase hloaded
        exact .inr (.inl ⟨rfl, Bool.false_ne_true, rfl⟩)
    · rcases hs.keys id hid key hold with hlasts | ⟨hleft, hbase⟩
      · exact .inl hlasts
      · exact .inr (.inr ⟨hne, (mem_cons.mp hleft).resolve_left hne, hbase⟩)
  · rename_i hrevoked
    refine .pure fun s hs => ⟨hs.devices, hs.deviceKeys, fun id hid key hkey => ?_⟩
    rcases hs.keys id hid key hkey with hlasts | ⟨hleft, hbase⟩
    · exact .inl hlasts
    · by_cases hne : id = loaded.id
      · subst hne
        obtain rfl : key = loaded := mem_unique hbase hloaded
        exact .inr (.inl ⟨rfl, hrevoked, rfl⟩)
      · exact .inr (.inr ⟨hne, (mem_cons.mp hleft).resolve_left hne, hbase⟩)

variable {subscription : Subscription}

section

variable (hexpires : subscription.expiresAt = some expiresAt)

include hexpires

theorem triple_extendKey_reviving :
    Triple (At fun a _ => Reviving base expiresAt keyIds left loaded a)
      (extendKey subscription loaded)
      fun _ => At fun a _ => Restoring base expiresAt keyIds left a := by
  unfold extendKey
  rw [hexpires]
  dsimp only
  split
  · refine .perform fun s hs => ⟨hs.devices, hs.deviceKeys, fun id hid key hkey => ?_⟩
    obtain ⟨old, hold, ⟨rfl, rfl⟩ | ⟨hne, rfl⟩⟩ :=
      Table.exists_of_find?_modify (VpnKey.setValidUntil expiresAt) (fun _ => rfl) hkey
    · rcases hs.keys _ hid old hold with hlasts | ⟨-, hrevoked, -⟩ | ⟨hne, -⟩
      · exact .inl ⟨hlasts.1, le_refl _⟩
      · exact .inl ⟨hrevoked, le_refl _⟩
      · exact absurd rfl hne
    · rcases hs.keys id hid key hold with hlasts | ⟨hid', -⟩ | ⟨-, hleft, hbase⟩
      · exact .inl hlasts
      · exact absurd hid' hne
      · exact .inr ⟨hleft, hbase⟩
  · rename_i hlate
    refine .pure fun s hs => ⟨hs.devices, hs.deviceKeys, fun id hid key hkey => ?_⟩
    rcases hs.keys id hid key hkey with hlasts | ⟨-, hrevoked, huntil⟩ | ⟨-, hleft, hbase⟩
    · exact .inl hlasts
    · exact .inl ⟨hrevoked, huntil ▸ not_lt.mp hlate⟩
    · exact .inr ⟨hleft, hbase⟩

variable {cfg : Provisioning}

/-- The loop of `activate` restores every key on the list. -/
theorem triple_activateKeys_restoring
    (hloaded : ∀ id ∈ left, loaded.find? (fun key => key.id = id) = base.keys.find? id) :
    Triple (At fun a _ => Restoring base expiresAt keyIds left a)
      (activateKeys cfg subscription loaded left)
      fun _ => At fun a _ => Restoring base expiresAt keyIds [] a := by
  induction left with
  | nil => exact .pure fun s hs => hs
  | cons id _ ih =>
    have hrest := ih fun other hother => hloaded other (by simp [hother])
    have hfound := hloaded id (by simp)
    unfold activateKeys
    cases hkey : loaded.find? fun key => key.id = id with
    | none =>
      refine hrest.pre fun s hs => ⟨hs.devices, hs.deviceKeys, fun other hother key hother' => ?_⟩
      rw [hkey] at hfound
      rcases hs.keys other hother key hother' with hlasts | ⟨hleft, hbase⟩
      · exact .inl hlasts
      · rcases mem_cons.mp hleft with rfl | hleft
        · exact absurd (hfound.trans hbase) (by simp)
        · exact .inr ⟨hleft, hbase⟩
    | some key =>
      obtain rfl : key.id = id := by simpa using find?_some hkey
      refine .bind (triple_unrevokeKey_restoring (hkey ▸ hfound.symm)) fun _ => ?_
      refine .bind (triple_extendKey_reviving hexpires) fun _ => ?_
      refine Triple.bind (Triple.sparesAccess (sparesAccess_reinstatePlacements cfg _ _ _)
        fun _ _ _ _ h => h) fun _ => ?_
      exact .bind hrest fun _ => .pure fun s hs => hs

/-- After `activate` the keys of the devices of the subscription last as long as it does. -/
theorem triple_restoreKeys_lastsUntil :
    Triple (fun _ : beside.Point => True) (restoreKeys cfg subscription) fun _ s =>
      ∀ key, s.db.DeviceKey subscription.id key → key.LastsUntil expiresAt := by
  intro s _
  unfold restoreKeys
  obtain ⟨store, hrun⟩ := run_invalidate subscription.tokenHash (fun _ => do
    let keyIds ← select (·.keyIdsForSubscription subscription.id)
    let loaded ← select (·.keysByIds keyIds)
    activateKeys cfg subscription loaded keyIds) s
  rw [hrun, run_select, run_select]
  intro value done hdone key hkey
  generalize hids : s.db.keyIdsForSubscription subscription.id = ids at hdone
  have hloop : Triple (At fun a _ => Restoring s.db.access expiresAt ids ids a)
      (activateKeys cfg subscription (s.db.keysByIds ids) ids)
      fun _ => At fun a _ => Restoring s.db.access expiresAt ids [] a :=
    triple_activateKeys_restoring hexpires fun id hid => s.db.find?_keysByIds hid
  have hrestored : Restoring s.db.access expiresAt ids [] done.db.access :=
    hloop { s with store := store } ⟨rfl, rfl, fun id hid key hkey => .inr ⟨hid, hkey⟩⟩ value done
      hdone
  obtain ⟨binding, hbinding, -, ⟨device, hdevice, hsub, -⟩, hfound⟩ := hkey
  have hdeviceKeys : done.db.deviceKeys = s.db.deviceKeys := hrestored.deviceKeys
  have hdevices : done.db.devices = s.db.devices := hrestored.devices
  have hid : binding.vpnKeyId ∈ ids := by
    rw [hdeviceKeys] at hbinding
    rw [hdevices, mem_def] at hdevice
    rw [← hids]
    refine mem_dedup.mpr (mem_map.mpr ⟨binding, mem_filter.mpr ⟨hbinding, ?_⟩, rfl⟩)
    simp [hdevice, hsub]
  exact (hrestored.keys _ hid key hfound).resolve_right fun h => absurd h.1 not_mem_nil

end

end Restoring

/-! ## The four ways -/

/-- A way to prolong a subscription. -/
inductive Prolongation
  | extendSubscription (subscription : Uuid) (dayCount : ℤ)
  | grantDay (ticket : Uuid) (actorAdmin : Option Uuid)
  /-- A renewal from the balance. -/
  | autoPurchase (user : Uuid) (plan : Plan) (order : PaymentOrder) (strictBalance : Bool)
  /-- The extension of a free plan. -/
  | autoPurchaseFree (user : Uuid) (plan : Plan) (order : PaymentOrder)

namespace Prolongation

/-- The transaction of a call. -/
def program (cfg : Provisioning) : Prolongation → Service Unit
  | extendSubscription subscription dayCount => do
      let _ ← Vpn.extendSubscription subscription dayCount
  | grantDay ticket actorAdmin => withKeys cfg (Billing.grantDay ticket actorAdmin)
  | autoPurchase user plan order strictBalance => do
      let now ← datetimeNow
      withKeys cfg (Billing.autoPurchase user plan order now strictBalance)
  | autoPurchaseFree user plan order => do
      let now ← datetimeNow
      withKeys cfg (Billing.autoPurchaseFree user plan order now)

/-- The call prolongs the subscription until the given time. -/
inductive Prolongs (session : Session) (db : Database) : Prolongation → Uuid → Time → Prop
  | extend {sub : Subscription} {id : Uuid} (hsub : db.subscription? id = some sub)
      (dayCount : ℤ) :
      Prolongs session db (.extendSubscription id dayCount) id
        ((sub.expiresAt.filter (session.billing.now < ·)).getD session.billing.now + days dayCount)
  | grantDay {ticketId : Uuid} {ticket : Billing.SupportTicket} {sub : Billing.Subscription}
      {expiresAt : Time} (hticket : db.billing.tickets.find? ticketId = some ticket)
      (hsub : db.billing.latestSubscription ticket.userId = some sub)
      (hexpires : sub.expiresAt = some expiresAt) (actorAdmin : Option Uuid) :
      Prolongs session db (.grantDay ticketId actorAdmin) sub.id
        ((if session.billing.now < expiresAt then expiresAt else session.billing.now) + days 1)
  /-- The balance covers the price, and there is a subscription to extend. -/
  | renewal {user : Uuid} {holder : Billing.User} {plan : Plan} {order : PaymentOrder}
      {existing : Billing.Subscription} {planChanged : Bool}
      (hholder : (Billing.Stmt.loadUser user db.billing session.billing).1 = some holder)
      (hcovers : order.amountRub ≤ holder.balance)
      (htarget : db.billing.purchaseTarget user plan order = some (existing, planChanged))
      (strictBalance : Bool) :
      Prolongs session db (.autoPurchase user plan order strictBalance) existing.id
        (Billing.extendedExpiry existing planChanged order session.billing.now)
  | free {user : Uuid} {plan : Plan} {existing : Billing.Subscription}
      (hexisting : db.billing.activeSubscriptionForPlan user plan.id = some existing)
      (order : PaymentOrder) :
      Prolongs session db (.autoPurchaseFree user plan order) existing.id
        (existing.expiresAt.getD session.billing.now + days plan.durationDays)

/-- The call restores the keys. -/
def RestoresKeys : Prolongation → Prop
  | autoPurchase .. => True
  | _ => False

/-- The call opens the subscription, or the subscription is active. -/
def Opens (db : Database) (subscription : Uuid) : Prolongation → Prop
  | grantDay .. => ∃ row ∈ db.billing.subscriptions.find? subscription, row.isActive
  | _ => True

/-! ## What a call leaves -/

section

variable {cfg : Provisioning} {s done : beside.Point} {id : Uuid} {expiresAt : Time}

/-- The subscription has a new end, and the tables other than those of billing are as before. -/
structure Moved (s done : beside.Point) (id : Uuid) (expiresAt : Time) (isActive : Prop) :
    Prop where
  tables : s.db.OnlyBilling done.db
  row : ∃ row ∈ done.db.billing.subscriptions.find? id,
    (row.isActive ↔ isActive) ∧ row.expiresAt = some expiresAt

theorem Moved.runsUntil_iff (h : Moved s done id expiresAt isActive) :
    done.db.RunsUntil id expiresAt ↔ isActive := by
  obtain ⟨row, hrow, hactive, hexpires⟩ := h.row
  constructor
  · rintro ⟨other, hother, hon, -⟩
    obtain rfl : row = other := mem_unique hrow hother
    exact hactive.mp hon
  · exact fun hon => ⟨row, hrow, hactive.mpr hon, hexpires⟩

/-- An update of the end, among other columns. -/
theorem moved_updateSubscription (hrow : s.db.billing.subscriptions.find? id = some row)
    (patch : Billing.SubscriptionInternalUpdate) (hexpires : patch.expiresAt = some expiresAt)
    (htables : s.db.OnlyBilling done.db) (hsubs : done.db.billing.subscriptions =
      s.db.billing.subscriptions.modify id patch.set fun _ => rfl) :
    Moved s done id expiresAt (patch.isActive.getD row.isActive) := by
  have hself : (s.db.billing.subscriptions.modify id patch.set fun _ => rfl).find? id =
      some (patch.set row) :=
    (Table.find?_modify_self _ _).trans (congrArg (Option.map _) hrow)
  refine ⟨htables, patch.set row, hsubs ▸ hself, .rfl, ?_⟩
  simp [Billing.SubscriptionInternalUpdate.set, hexpires]

theorem moved_extendSubscription (hsub : s.db.subscription? id = some sub)
    (hrun : run (Vpn.extendSubscription id dayCount) s = (.ok value, done)) :
    Moved s done id ((sub.expiresAt.filter (s.session.billing.now < ·)).getD s.session.billing.now +
      days dayCount) True := by
  unfold Vpn.extendSubscription at hrun
  simp only [getSubscription, run_select, hsub, run_datetimeNow, run_execute] at hrun
  have hdb : done.db = s.db.apply (.billing (.updateSubscription id
      { expiresAt := some ((sub.expiresAt.filter (s.session.billing.now < ·)).getD
          s.session.billing.now + days dayCount)
        isActive := some true })) := by
    split at hrun
    · obtain ⟨store, hinvalidate⟩ := run_invalidate (β := Option Subscription) sub.tokenHash
        (fun _ => pure _) _
      rw [hinvalidate] at hrun
      cases hrun
      rfl
    · cases hrun
      rfl
  have hmoved := moved_updateSubscription (find?_of_subscription? hsub)
    { expiresAt := some ((sub.expiresAt.filter (s.session.billing.now < ·)).getD
        s.session.billing.now + days dayCount)
      isActive := some true } rfl (by rw [hdb]; rfl) (by rw [hdb]; rfl)
  simpa using hmoved

theorem moved_grantDay (hticket : s.db.billing.tickets.find? ticketId = some ticket)
    (hsub : s.db.billing.latestSubscription ticket.userId = some sub)
    (hexpires : sub.expiresAt = some expiresAt)
    (hrun : run (withKeys cfg (Billing.grantDay ticketId actorAdmin)) s = (.ok value, done)) :
    Moved s done sub.id ((if s.session.billing.now < expiresAt then expiresAt
      else s.session.billing.now) + days 1) sub.isActive := by
  unfold Billing.grantDay at hrun
  simp only [run_withKeys_select, hticket, hsub, hexpires] at hrun
  refine moved_updateSubscription (Billing.find?_of_latestSubscription hsub).2
    { expiresAt := some ((if s.session.billing.now < expiresAt then expiresAt
        else s.session.billing.now) + days 1) } rfl ?_ ?_
  · cases hrun
    rfl
  · cases hrun
    rfl

theorem moved_autoPurchaseFree
    (hexisting : s.db.billing.activeSubscriptionForPlan user plan.id = some existing)
    (hrun : run (withKeys cfg (Billing.autoPurchaseFree user plan order s.session.billing.now)) s =
      (.ok value, done)) :
    Moved s done existing.id (existing.expiresAt.getD s.session.billing.now +
      days plan.durationDays) True := by
  unfold Billing.autoPurchaseFree at hrun
  simp only [run_withKeys_select, hexisting] at hrun
  have hmoved : Moved s done existing.id _ _ :=
    moved_updateSubscription (Billing.find?_of_activeSubscriptionForPlan hexisting).2
      { expiresAt := some (existing.expiresAt.getD s.session.billing.now + days plan.durationDays)
        isActive := some true } rfl (by cases hrun; rfl) (by cases hrun; rfl)
  simpa using hmoved

/-- A renewal opens the subscription and takes its keys along. -/
theorem renewed_of_run
    (hholder : (Billing.Stmt.loadUser user s.db.billing s.session.billing).1 = some holder)
    (hcovers : order.amountRub ≤ holder.balance)
    (htarget : s.db.billing.purchaseTarget user plan order = some (existing, planChanged))
    (hrun : run (withKeys cfg
      (Billing.autoPurchase user plan order s.session.billing.now strictBalance)) s =
        (.ok value, done)) :
    done.db.RunsUntil existing.id
        (Billing.extendedExpiry existing planChanged order s.session.billing.now) ∧
      ∀ key, done.db.DeviceKey existing.id key → key.LastsUntil
        (Billing.extendedExpiry existing planChanged order s.session.billing.now) := by
  have hpurchased := triple_autoPurchase s rfl value done hrun
  cases hpurchased with
  | unpaid hpoor => exact absurd hcovers (not_le.mpr (hpoor holder hholder))
  | created hnone => exact absurd (htarget.symm.trans hnone) nofun
  | @extended other changed hother mid htables hnext hself _ row hrow restored hkeys =>
    obtain ⟨rfl, rfl⟩ : existing = other ∧ planChanged = changed :=
      Prod.mk.inj (mem_unique htarget hother)
    have hexpires : (extendedRow existing planChanged plan order s.session.billing.now).expiresAt =
        some (Billing.extendedExpiry existing planChanged order s.session.billing.now) := by
      simp [extendedRow, Billing.SubscriptionInternalUpdate.set]
    have hbilling : done.db.billing = mid.db.billing := by
      refine Triple.frame (A := fun t : beside.Point => t.db.billing = mid.db.billing)
        Writes.grants_restoreKeys (fun op hop t ht => ?_) mid rfl restored done hkeys
      cases op with
      | redis => exact ht
      | _ => exact (Write.Grants.foldl hop t.db).1.trans ht
    have hrowEq : row.toSubscription =
        extendedRow existing planChanged plan order s.session.billing.now :=
      some.inj ((find?_of_subscription? hrow).symm.trans hself)
    refine ⟨⟨_, hbilling ▸ hself, rfl, hexpires⟩, ?_⟩
    have hrowExpires : row.expiresAt = _ := (congrArg Billing.Subscription.expiresAt hrowEq).trans
      hexpires
    have hrowId : row.id = existing.id := id_of_subscription? hrow
    exact hrowId ▸ triple_restoreKeys_lastsUntil hrowExpires mid trivial restored done hkeys

end

end Prolongation

open Prolongation in
/-- After a call that prolongs a subscription, the subscription is active until its new end and the
keys of its active devices reach that end, exactly where the call opens the subscription or it is
active, and the call restores the keys or they reach the new end already. -/
theorem prolonging_extends_access_iff {cfg : Provisioning} {call : Prolongation} {session : Session}
    {db db' : Database} {cache cache' : Cache} {subscription : Uuid} {expiresAt : Time}
    (hprolongs : Prolongs session db call subscription expiresAt)
    (hrun : Shared.request (M := beside) (call.program cfg) ⟨session, db, cache⟩ =
      (.ok (), db', cache')) (individually : Uuid → Prop) :
    db'.RunsUntil subscription expiresAt ∧ db'.Reaches subscription expiresAt individually ↔
      call.Opens db subscription ∧
        (call.RestoresKeys ∨ db.Reaches subscription expiresAt individually) := by
  obtain ⟨done, hdone, rfl, -⟩ := exists_of_request hrun
  have hmoved : ∀ {isActive : Prop},
      Moved ⟨session, db, cache⟩ done subscription expiresAt isActive →
      (done.db.RunsUntil subscription expiresAt ∧
          done.db.Reaches subscription expiresAt individually ↔
        isActive ∧ (False ∨ db.Reaches subscription expiresAt individually)) := by
    intro isActive h
    rw [h.runsUntil_iff, h.tables.reaches, false_or]
  cases hprolongs with
  | extend hsub =>
    obtain ⟨value, mid, hmid, hrest⟩ := exists_of_run_bind hdone
    cases hrest
    exact hmoved (moved_extendSubscription hsub hmid)
  | @grantDay ticketId ticket sub expires hticket hsub hexpires actorAdmin =>
    have hrow := (Billing.find?_of_latestSubscription hsub).2
    have hopens : (grantDay ticketId actorAdmin).Opens db sub.id ↔ sub.isActive := by
      refine ⟨fun ⟨row, hfound, hactive⟩ => ?_, fun hactive => ⟨sub, hrow, hactive⟩⟩
      rwa [Option.mem_unique hrow hfound]
    rw [hopens]
    exact hmoved (moved_grantDay hticket hsub hexpires hdone)
  | renewal hholder hcovers htarget =>
    obtain ⟨hruns, hkeys⟩ := renewed_of_run hholder hcovers htarget hdone
    refine iff_of_true ⟨hruns, fun key hkey => ?_⟩ ⟨trivial, .inl trivial⟩
    exact ⟨fun hrevoked => absurd hrevoked (hkeys key hkey).1, (hkeys key hkey).2⟩
  | free hexisting => exact hmoved (moved_autoPurchaseFree hexisting hdone)

/-! ## A key that ends before its subscription -/

namespace Scenario

/-- Thirty days more for the running subscription. -/
def prolonged : Except SubscriptionError Unit × Database × Cache :=
  Shared.request (M := beside) ((Prolongation.extendSubscription 3 30).program world.provisioning)
    (point (access false))

def renewalOrder : PaymentOrder :=
  { Billing.Scenario.pendingOrder with
    orderType := .subscriptionRenewal
    subscriptionId := some 3 }

/-- A renewal of the running subscription. -/
def renewal : Prolongation := .autoPurchase 1 Billing.Scenario.plan renewalOrder true

def renewed : Except SubscriptionError Unit × Database × Cache :=
  Shared.request (M := beside) (renewal.program world.provisioning) (point (access false))

end Scenario

open Scenario in
/-- After `extend_subscription` the subscription runs for thirty days more, and the key of its
device ends when it would have ended before. -/
theorem extend_subscription_leaves_key :
    Prolongation.Prolongs (point (access false)).session (access false) (.extendSubscription 3 30) 3
        (1000 + days 30) ∧
      prolonged.1 = .ok () ∧ prolonged.2.1.RunsUntil 3 (1000 + days 30) ∧
        ∃ key ∈ prolonged.2.1.keys.rows, prolonged.2.1.DeviceKey 3 key ∧
          key.validUntil < 1000 + days 30 := by
  refine ⟨?_, by decide +kernel, ?_, ?_⟩
  · obtain ⟨sub, hsub, hexpires⟩ : ∃ sub, (access false).subscription? 3 = some sub ∧
        sub.expiresAt = some 1000 := ⟨_, rfl, rfl⟩
    have hprolongs : Prolongation.Prolongs (point (access false)).session (access false) _ 3 _ :=
      .extend hsub 30
    rwa [hexpires] at hprolongs
  · unfold Database.RunsUntil
    decide +kernel
  · unfold Database.DeviceKey
    decide +kernel

open Scenario in
/-- After a renewal the key ends with the subscription. -/
theorem prolonging_extends_access_iff_renewed :
    Prolongation.Prolongs (point (access false)).session (access false) renewal 3
        (Billing.extendedExpiry Billing.Scenario.running false renewalOrder 0) ∧
      renewed.2.1.RunsUntil 3
        (Billing.extendedExpiry Billing.Scenario.running false renewalOrder 0) ∧
        renewed.2.1.Reaches 3
          (Billing.extendedExpiry Billing.Scenario.running false renewalOrder 0) fun _ => False := by
  have hholder : (Billing.Stmt.loadUser 1 (access false).billing
      (point (access false)).session.billing).1 = some { id := 1, balance := 500 } := rfl
  have htarget : (access false).billing.purchaseTarget 1 Billing.Scenario.plan renewalOrder =
      some (Billing.Scenario.running, false) := by decide +kernel
  have hprolongs : Prolongation.Prolongs (point (access false)).session (access false) renewal 3
      (Billing.extendedExpiry Billing.Scenario.running false renewalOrder 0) :=
    .renewal hholder (by decide) htarget true
  have hok : renewed.1 = .ok () := by decide +kernel
  have hcommits : ∀ result : Except SubscriptionError Unit × Database × Cache,
      result.1 = .ok () → result = (.ok (), result.2.1, result.2.2) := by
    rintro ⟨_, _, _⟩ rfl
    rfl
  have hrun : Shared.request (M := beside) (renewal.program world.provisioning)
      ⟨(point (access false)).session, access false, (point (access false)).store⟩ =
        (.ok (), renewed.2.1, renewed.2.2) := hcommits renewed hok
  exact ⟨hprolongs, (prolonging_extends_access_iff hprolongs hrun fun _ => False).mpr
    ⟨trivial, .inl trivial⟩⟩

end VpnControl.Vpn
