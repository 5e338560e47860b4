/-
# A revoked device stays without access

A key that is bound to a device that is switched off is revoked. Registering, fetching, revoking
and restoring a device keep this, and so do closing a subscription and the expiration job. Two
operations do not look at the devices: `activate` un-revokes every bound key of a subscription,
and the reset job every active key of one. They keep it exactly where no device that is off has
a bound key.
-/

import VpnControl.Vpn.Granting
import VpnControl.Vpn.PayloadCache
import VpnControl.Vpn.Scenario

namespace VpnControl.Vpn

open Txn Shared Write Triple
open Billing (Uuid Time)
open Table

/-! ## The property -/

namespace Access

variable {a a' : Access} {n : Uuid} {spared : SubscriptionDeviceKey → Prop}

/-- The keys of the devices that are off are revoked, up to those of spared bindings. -/
def CutExcept (a : Access) (spared : SubscriptionDeviceKey → Prop) : Prop :=
  ∀ binding ∈ a.deviceKeys.rows, ∀ device,
    a.devices.find? binding.subscriptionDeviceId = some device → device.isActive = false →
      ∀ key, a.keys.find? binding.vpnKeyId = some key → key.isRevoked ∨ spared binding

/-- The keys of the devices that are off are revoked. -/
def Cut (a : Access) : Prop := a.CutExcept fun _ => False

theorem CutExcept.mono (h : a.CutExcept spared)
    (hspared : ∀ binding ∈ a.deviceKeys.rows, spared binding →
      (∀ key, a.keys.find? binding.vpnKeyId = some key → key.isRevoked) ∨ spared' binding) :
    a.CutExcept spared' := by
  intro binding hbinding device hdevice hoff key hkey
  rcases h binding hbinding device hdevice hoff key hkey with hrevoked | hbound
  · exact .inl hrevoked
  · exact (hspared binding hbinding hbound).imp_left fun hall => hall key hkey

/-- No key comes to life. -/
theorem CutExcept.revoking (h : a.CutExcept spared) {keys : Table VpnKey}
    (hkeys : ∀ id key, keys.find? id = some key →
      ∃ old, a.keys.find? id = some old ∧ (old.isRevoked → key.isRevoked)) :
    CutExcept { a with keys := keys } spared := by
  intro binding hbinding device hdevice hoff key hkey
  obtain ⟨old, hold, hrevoked⟩ := hkeys _ key hkey
  exact (h binding hbinding device hdevice hoff old hold).imp_left hrevoked

theorem CutExcept.switching (h : a.CutExcept spared) {devices : Table SubscriptionDevice}
    (hdevices : ∀ binding ∈ a.deviceKeys.rows, ∀ device,
      devices.find? binding.subscriptionDeviceId = some device → device.isActive = false →
        a.devices.find? binding.subscriptionDeviceId = some device ∨ spared binding) :
    CutExcept { a with devices := devices } spared := by
  intro binding hbinding device hdevice hoff key hkey
  rcases hdevices binding hbinding device hdevice hoff with hold | hspared
  · exact h binding hbinding device hold hoff key hkey
  · exact .inr hspared

/-- The steps that give access keep the property where they are strict. -/
theorem invariant_cut (subscription : Uuid) :
    Invariant True subscription fun a n => a.Sound n ∧ a.Cut where
  sound h := h.1
  step := by
    intro a n a' m h hstep
    refine ⟨hstep.sound h.1, ?_⟩
    cases hstep with
    | draw => exact h.2
    | unrevoke _ _ hactive =>
      intro binding hbinding device hdevice hoff key hkey
      obtain ⟨old, hold, ⟨hid, -⟩ | ⟨-, rfl⟩⟩ :=
        exists_of_find?_modify (VpnKey.setRevoked false) (fun _ => rfl) hkey
      · have hon := hactive trivial binding hbinding hid device hdevice
        rw [hoff] at hon
        cases hon
      · exact h.2 binding hbinding device hdevice hoff key hold
    | extend _ validUntil =>
      refine h.2.revoking fun j key hkey => ?_
      obtain ⟨old, hold, ⟨-, rfl⟩ | ⟨-, rfl⟩⟩ :=
        exists_of_find?_modify (VpnKey.setValidUntil validUntil) (fun _ => rfl) hkey
      · exact ⟨old, hold, fun hrevoked => hrevoked⟩
      · exact ⟨key, hold, fun hrevoked => hrevoked⟩
    | switchOn =>
      refine h.2.switching fun binding hbinding device hdevice hoff => .inl ?_
      obtain ⟨old, hold, ⟨-, rfl⟩ | ⟨-, rfl⟩⟩ :=
        exists_of_find?_modify (SubscriptionDevice.setActive true) (fun _ => rfl) hdevice
      · cases hoff
      · exact hold
    | addKey _ _ hnew =>
      intro binding hbinding device hdevice hoff key hkey
      rcases find?_insert_eq_some hkey with hold | ⟨hrow, -⟩
      · exact h.2 binding hbinding device hdevice hoff key hold
      · exact absurd hrow (h.1.unbound hnew binding hbinding)
    | addDevice _ _ hnew =>
      refine h.2.switching fun binding hbinding device hdevice hoff => .inl ?_
      rcases find?_insert_eq_some hdevice with hold | ⟨hrow, -⟩
      · exact hold
      · obtain ⟨found, -, hfound, -⟩ := h.1.owner binding hbinding
        rw [hrow] at hfound
        exact absurd (hnew.symm.trans hfound) nofun
    | bind _ _ hdevice hon =>
      intro binding hbinding device hfound hoff key hkeyfound
      rcases mem_rows_insert hbinding with hold | rfl
      · exact h.2 binding hold device hfound hoff key hkeyfound
      · have hsame := Option.mem_unique hdevice hfound
        rw [← hsame, hon trivial] at hoff
        cases hoff

end Access

/-! ## Methods that take access away -/

/-- The tables are sound, and the keys of the devices that are off are revoked, up to those of
spared bindings. -/
def Guarded (spared : SubscriptionDeviceKey → Prop) (a : Access) (n : Uuid) : Prop :=
  a.Sound n ∧ a.CutExcept spared

section

variable {spared : SubscriptionDeviceKey → Prop} {a : Access} {n : Uuid} {P : Access → Prop}

theorem Guarded.later (h : Guarded spared a n) (hle : n ≤ m) : Guarded spared a m :=
  ⟨h.1.later hle, h.2⟩

theorem Guarded.revoke (h : Guarded spared a n) (id : Uuid) :
    Guarded spared { a with keys := a.keys.modify id (VpnKey.setRevoked true) fun _ => rfl } n := by
  refine ⟨h.1.alike (a.alike_modifyKey id fun _ => ⟨rfl, rfl⟩), h.2.revoking fun j key hkey => ?_⟩
  obtain ⟨old, hold, ⟨-, rfl⟩ | ⟨-, rfl⟩⟩ :=
    exists_of_find?_modify (VpnKey.setRevoked true) (fun _ => rfl) hkey
  · exact ⟨old, hold, fun _ => rfl⟩
  · exact ⟨key, hold, fun hrevoked => hrevoked⟩

/-- The write revokes a key, or is about other tables. -/
inductive Write.Revokes : Write → Prop
  | key (id : Uuid) : Revokes (.setRevoked id true)
  | spares {w : Write} (h : w.SparesAccess) : Revokes w

theorem triple_revoking {p : Service α} (hp : Writes Revokes p) :
    Triple (At (Guarded spared)) p fun _ => At (Guarded spared) := by
  refine ofWrites (I := fun db => Guarded spared db.access) hp
    (fun _ _ _ hle h => h.later hle) fun w hw db n h => ?_
  cases hw with
  | key id => exact h.revoke id
  | spares hspares => rwa [hspares.access]

theorem revokes_revokeKey : Writes Revokes (revokeKey key) := by
  unfold revokeKey
  split
  · exact .pure ()
  · exact .execute (.key key.id)

theorem revokes_deactivateKeys : Writes Revokes (deactivateKeys loaded keyIds) := by
  induction keyIds with
  | nil => exact .pure 0
  | cons _ _ ih =>
    unfold deactivateKeys
    split
    · exact ih
    · exact .bind revokes_revokeKey fun _ =>
        .bind ((sparesAccess_setPlacementDesiredState ..).mono fun _ => .spares) fun _ =>
          .bind ih fun _ => .pure _

/-- Closing a subscription. -/
theorem triple_deactivate :
    Triple (At (Guarded spared)) (deactivate subscription) fun _ => At (Guarded spared) := by
  refine triple_revoking (.bind (.select _) fun found => ?_)
  cases found with
  | none => exact .raise _
  | some =>
    refine .bind (.execute (.spares ⟨nofun, nofun, nofun⟩)) fun _ => ?_
    refine .bind (.invalidatePayloadCacheByTokenHash _) fun _ => .bind (.select _) fun keyIds => ?_
    exact .bind (.select _) fun loaded => revokes_deactivateKeys

/-- No binding is spared. -/
abbrev Shut : Access → Uuid → Prop := Guarded fun _ => False

/-- A device is switched off; its keys are left to be revoked. -/
theorem Guarded.switchOff (h : Shut a n) (id : Uuid) :
    Guarded (fun binding => binding.subscriptionDeviceId = id)
      { a with devices := a.devices.modify id (SubscriptionDevice.setActive false) fun _ => rfl }
      n := by
  refine ⟨h.1.alike (a.alike_modifyDevice id false), ?_⟩
  have hcut : a.CutExcept fun binding => binding.subscriptionDeviceId = id :=
    h.2.mono fun _ _ hfalse => hfalse.elim
  refine hcut.switching fun binding hbinding device hdevice hoff => ?_
  obtain ⟨old, hold, ⟨hid, -⟩ | ⟨-, rfl⟩⟩ :=
    exists_of_find?_modify (SubscriptionDevice.setActive false) (fun _ => rfl) hdevice
  · exact .inr hid
  · exact .inl hold

/-- Of the keys of devices that are off, those on the list are left to be revoked. A key on the
list that was revoked when it was loaded still is. -/
def Revoking (left : List ResolvedDeviceKey) (a : Access) (n : Uuid) : Prop :=
  Guarded (fun binding => ∃ resolved ∈ left, resolved.key.id = binding.vpnKeyId) a n ∧
    ∀ resolved ∈ left, resolved.key.isRevoked →
      ∀ key, a.keys.find? resolved.key.id = some key → key.isRevoked

/-- One turn of the loop of `revoke_device`. -/
theorem triple_revokeResolved (resolved : ResolvedDeviceKey) (rest : List ResolvedDeviceKey) :
    Triple (At (Revoking (resolved :: rest))) (do
        revokeKey resolved.key
        setPlacementDesiredState resolved.key.id .inactive "subscription_device_revoke")
      fun _ => At (Revoking rest) := by
  refine .bind (B := fun _ => At (Revoking rest)) ?_ fun _ => ?_
  · -- the key of this turn is revoked now, or was when it was loaded
    have hdone : ∀ {a : Access} {n : Uuid},
        Guarded (fun binding => ∃ left ∈ resolved :: rest, left.key.id = binding.vpnKeyId) a n →
        (∀ key, a.keys.find? resolved.key.id = some key → key.isRevoked) →
        Guarded (fun binding => ∃ left ∈ rest, left.key.id = binding.vpnKeyId) a n := by
      rintro a n ⟨hsound, hcut⟩ hrevoked
      refine ⟨hsound, hcut.mono ?_⟩
      rintro binding hbinding ⟨left, hleft, hid⟩
      rcases List.mem_cons.mp hleft with rfl | hrest
      · exact .inl (hid ▸ hrevoked)
      · exact .inr ⟨left, hrest, hid⟩
    unfold revokeKey
    split
    · rename_i hrevoked
      refine .pure fun s hs => ⟨hdone hs.1 (hs.2 resolved (by simp) hrevoked), ?_⟩
      exact fun left hleft => hs.2 left (by simp [hleft])
    · refine .perform fun s hs => ⟨hdone (hs.1.revoke resolved.key.id) ?_, ?_⟩
      · intro key hkey
        obtain ⟨old, -, ⟨-, rfl⟩ | ⟨hne, -⟩⟩ :=
          exists_of_find?_modify (VpnKey.setRevoked true) (fun _ => rfl) hkey
        · rfl
        · exact absurd rfl hne
      · intro left hleft hrevoked key hkey
        obtain ⟨old, hold, ⟨-, rfl⟩ | ⟨-, rfl⟩⟩ :=
          exists_of_find?_modify (VpnKey.setRevoked true) (fun _ => rfl) hkey
        · rfl
        · exact hs.2 left (by simp [hleft]) hrevoked key hold
  · exact sparesAccess (sparesAccess_setPlacementDesiredState _ _ _)
      fun _ _ _ hle h => ⟨h.1.later hle, h.2⟩

theorem triple_revokeDevice : Triple (At Shut) (revokeDevice subscriptionId deviceId)
      fun _ => At Shut := by
  refine Triple.read fun found => ?_
  cases found with
  | none => exact .raise
  | some subscription =>
    refine Triple.read fun found => ?_
    cases found with
    | none => exact .raise
    | some device =>
      have hrest : Triple (At (Guarded fun binding => binding.subscriptionDeviceId = device.id)) (do
            let bundle ← loadDeviceBundle device
            bundle.keys.forM fun resolved => do
              revokeKey resolved.key
              setPlacementDesiredState resolved.key.id .inactive "subscription_device_revoke"
            invalidatePayloadCacheByTokenHash subscription.tokenHash
            pure (bundle.keys.any fun resolved => !resolved.key.isRevoked))
          fun _ => At Shut := by
        refine Triple.loadDeviceBundle fun bundle => ?_
        have hloop := Triple.forM (I := fun left => At (Revoking left)) triple_revokeResolved
          bundle.keys
        refine .bind (B := fun _ => At Shut) (hloop.conseq ?_ ?_) fun _ => ?_
        · rintro s ⟨⟨hsound, hcut⟩, hbundle⟩
          refine ⟨⟨hsound, hcut.mono fun binding hbinding hdevice => .inr ?_⟩, ?_⟩
          · exact hbundle.complete _ hsound binding hbinding hdevice
          · intro left hleft hrevoked key hkey
            rw [hbundle.row left hleft, Option.some.injEq] at hkey
            exact hkey ▸ hrevoked
        · rintro - s ⟨⟨hsound, hcut⟩, -⟩
          exact ⟨hsound, hcut.mono (by simp)⟩
        · refine .bind (triple_revoking (.invalidatePayloadCacheByTokenHash _)) fun _ => ?_
          exact .pure fun s hs => hs
      dsimp only
      split
      · exact Triple.execute _ (fun s hs => hs.switchOff device.id) hrest
      · refine hrest.pre fun s hs => ⟨hs.1, hs.2.mono fun _ _ hfalse => hfalse.elim⟩

/-! ## The jobs -/

theorem sparesAccess_withdrawPlacements : Writes SparesAccess (withdrawPlacements keys now) := by
  unfold withdrawPlacements
  split
  · exact .pure _
  · refine .bind (.select _) fun affected => .bind (.execute ⟨nofun, nofun, nofun⟩) fun _ => ?_
    dsimp only
    split
    · exact .bind (.enqueueForPlacementIds sparesAccess_enqueueMany _) fun _ => .pure _
    · exact .pure _

/-- A further fact holds as well. -/
abbrev ShutAnd (P : Access → Prop) (a : Access) (n : Uuid) : Prop := Shut a n ∧ P a

theorem triple_shutAnd {p : Service α} (hp : Writes SparesAccess p) :
    Triple (At (ShutAnd P)) p fun _ => At (ShutAnd P) :=
  sparesAccess hp fun _ _ _ hle h => ⟨h.1.later hle, h.2⟩

def AllRevoked (subscriptions : List Uuid) (a : Access) : Prop :=
  ∀ id key, a.keys.find? id = some key → ∀ subscription ∈ key.subscriptionId,
    subscription ∈ subscriptions → key.isRevoked

theorem triple_bulkRevokeBySubscriptionIds :
    Triple (At Shut) (bulkRevokeBySubscriptionIds subscriptions)
      fun _ => At (ShutAnd (AllRevoked subscriptions)) := by
  refine Triple.select fun keys => ?_
  -- a key of the subscriptions that is not revoked is selected
  have hlive : ∀ {s : beside.Point}, At Shut s →
      ∀ {id : Uuid} {key : VpnKey}, s.db.keys.find? id = some key →
      ∀ subscription ∈ key.subscriptionId, subscription ∈ subscriptions →
        key.isRevoked ∨ id ∈ s.db.liveKeyIdsOf subscriptions := by
    intro s hs id key hkey subscription hsub hmem
    by_cases hrevoked : key.isRevoked
    · exact .inl hrevoked
    · refine .inr (List.mem_map.mpr ⟨key, List.mem_filter.mpr ⟨mem_of_find? hkey, ?_⟩,
        key_of_find? hkey⟩)
      have hactive := hs.1.keyActive id key hkey
      rw [Option.mem_def] at hsub
      simp [hsub, hmem, hactive, hrevoked]
  split
  · rename_i hnone
    refine .pure fun s hs => ⟨hs.1, fun id key hkey subscription hsub hmem => ?_⟩
    rcases hlive hs.1 hkey subscription hsub hmem with hrevoked | hid
    · exact hrevoked
    · rw [hs.2, hnone] at hid
      cases hid
  · refine Triple.execute (At (ShutAnd (AllRevoked subscriptions))) ?_ (.pure fun s hs => hs)
    rintro s ⟨hs, hkeys⟩
    refine ⟨⟨hs.1.alike ⟨?_, fun _ => rfl, rfl⟩, hs.2.revoking fun id key hkey => ?_⟩, ?_⟩
    · exact map_find?_modifyWhere (VpnKey.setRevoked true) (fun _ => rfl) fun _ => rfl
    · obtain ⟨old, hold, ⟨-, rfl⟩ | ⟨-, rfl⟩⟩ := exists_of_find?_modifyMany
        (VpnKey.setRevoked true) (fun _ => rfl) hkey
      · exact ⟨old, hold, fun _ => rfl⟩
      · exact ⟨key, hold, fun hrevoked => hrevoked⟩
    · intro id key hkey subscription hsub hmem
      obtain ⟨old, hold, ⟨-, rfl⟩ | ⟨hnot, rfl⟩⟩ := exists_of_find?_modifyMany
        (VpnKey.setRevoked true) (fun _ => rfl) hkey
      · rfl
      · exact (hlive hs hold subscription hsub hmem).resolve_right (hkeys ▸ hnot)

/-- The devices of closed subscriptions are switched off after their keys. -/
theorem triple_bulkDeactivateDevices : Triple (At (ShutAnd (AllRevoked subscriptions)))
      (bulkDeactivateDevices subscriptions) fun _ => At Shut := by
  refine Triple.select fun devices => Triple.perform fun s hs => ?_
  obtain ⟨⟨⟨hsound, hcut⟩, hrevoked⟩, rfl⟩ := hs
  refine ⟨hsound.alike ⟨fun _ => rfl, ?_, rfl⟩, ?_⟩
  · exact map_find?_modifyWhere (SubscriptionDevice.setActive false) (fun _ => rfl) fun _ => rfl
  · intro binding hbinding device hdevice hoff key hkey
    obtain ⟨old, hold, ⟨hmem, -⟩ | ⟨-, rfl⟩⟩ := exists_of_find?_modifyMany
      (SubscriptionDevice.setActive false) (fun _ => rfl) hdevice
    · -- the device was selected, so its keys belong to a closed subscription
      obtain ⟨row, hrow, hid⟩ := List.mem_map.mp hmem
      obtain ⟨hrow, hactive⟩ := List.mem_filter.mp hrow
      have hfound : s.db.devices.find? row.id = some row := Table.find?_of_mem hrow
      have hsame : row = old := Option.mem_unique hfound (hid ▸ hold)
      obtain ⟨device', key', hdevice', hkey', howner⟩ := hsound.owner binding hbinding
      have hdev : device' = old := Option.mem_unique hdevice' hold
      have hkeyEq : key' = key := Option.mem_unique hkey' hkey
      subst hdev hkeyEq hsame
      have hmemsub := (of_decide_eq_true hactive).1
      exact .inl (hrevoked _ _ hkey' _ howner hmemsub)
    · exact hcut binding hbinding device hold hoff key hkey

/-- The expiration job. -/
theorem triple_expirationTick : Triple (At Shut) (expirationTick batchSize) fun _ => At Shut := by
  refine Triple.datetimeNow fun now => Triple.read fun expired => ?_
  split
  · exact .pure fun s hs => hs
  · refine .bind triple_bulkRevokeBySubscriptionIds fun keys => ?_
    refine .bind (triple_shutAnd sparesAccess_withdrawPlacements) fun affected => ?_
    refine .bind (triple_shutAnd (.execute ⟨nofun, nofun, nofun⟩)) fun _ => ?_
    refine .bind triple_bulkDeactivateDevices fun _ => ?_
    refine bind (sparesAccess writes_invalidateBySubscriptionIds
      fun _ _ _ hle h => h.later hle) fun _ => ?_
    exact .pure fun s hs => hs

/-- A traffic reset, where no device of the subscription that is off has a bound key. -/
theorem triple_resetSubscription
    (hP : ∀ a keys, P a → P { a with keys := keys }) (hon : ∀ a, P a → a.AllOn subscription.id) :
    Triple (At (ShutAnd P)) (resetSubscription now subscription) fun _ => At (ShutAnd P) := by
  refine Triple.read fun unrevoked => Triple.select fun keys => ?_
  refine Triple.execute (At (ShutAnd P)) ?_ ?_
  · rintro s ⟨⟨⟨hsound, hcut⟩, hp⟩, rfl⟩
    refine ⟨⟨hsound.alike ⟨?_, fun _ => rfl, rfl⟩, ?_⟩, hP _ _ hp⟩
    · exact map_find?_modifyWhere VpnKey.reset (fun _ => rfl) fun _ => rfl
    · intro binding hbinding device hdevice hoff key hkey
      obtain ⟨old, hold, ⟨hmem, -⟩ | ⟨-, rfl⟩⟩ := exists_of_find?_modifyMany
        VpnKey.reset (fun _ => rfl) hkey
      · -- a reset key belongs to the subscription, and so does the device it is bound to
        obtain ⟨row, hrow, hid⟩ := List.mem_map.mp hmem
        obtain ⟨hrow, hsub⟩ := List.mem_filter.mp hrow
        have hfound : s.db.keys.find? row.id = some row := Table.find?_of_mem hrow
        obtain ⟨device', key', hdevice', hkey', howner⟩ := hsound.owner binding hbinding
        have hdev : device' = device := Option.mem_unique hdevice' hdevice
        have hkeyEq : row = key' := Option.mem_unique hfound (hid ▸ hkey')
        subst hdev hkeyEq
        have hkeysub := (of_decide_eq_true hsub).1
        rw [howner, Option.some.injEq] at hkeysub
        have hactive := hon _ hp binding hbinding device' hdevice hkeysub
        rw [hoff] at hactive
        cases hactive
      · exact hcut binding hbinding device hdevice hoff key hold
  · refine .bind (triple_shutAnd (.execute ⟨nofun, nofun, nofun⟩)) fun _ => ?_
    refine .forM_keeps fun key _ => triple_shutAnd ?_
    exact .bind (.execute ⟨nofun, nofun, nofun⟩) fun _ =>
      .enqueueForKeyState sparesAccess_enqueueMany key .active

/-- The reset job, where no device that is off has a key of a subscription to be reset. -/
theorem triple_resetTick : Triple (fun s => At Shut s ∧
        ∀ subscription ∈ s.db.needingTrafficReset strategy
          (resetCutoff strategy s.session.billing.now), s.db.access.AllOn subscription.id)
      (resetTick resetCutoff strategy) fun _ => At Shut := by
  rintro s ⟨hs, hon⟩ value done hrun
  let due := s.db.needingTrafficReset strategy (resetCutoff strategy s.session.billing.now)
  have hloop := forM_keeps (f := resetSubscription s.session.billing.now)
    (A := At (ShutAnd fun a => ∀ subscription ∈ due, a.AllOn subscription.id))
    fun subscription hmem =>
    triple_resetSubscription (fun _ _ h => h) fun _ h => h subscription hmem
  exact (hloop s ⟨hs, hon⟩ value done hrun).1

end

/-! ## Runs -/

/-- The settings of a deployment, and how it renders a configuration. -/
structure Deployment where
  settings : Settings
  provisioning : Provisioning
  render : Subscription → ResolvedDeviceBundle → Service Rendered
  /-- The start of the current period of a strategy. -/
  resetCutoff : ResetStrategy → Time → Time

/-- The calls that switch devices and keys. -/
inductive AccessCall
  | buildPayload (fetch : PayloadRequest)
  | revokeDevice (subscription device : Uuid)
  | restoreDevice (subscription device : Uuid)
  | deactivate (subscription : Uuid)
  | activate (subscription : Uuid)
  | expirationTick (batchSize : ℕ)
  | resetTick (strategy : ResetStrategy)

namespace AccessCall

variable (world : Deployment)

/-- The transaction of a call. -/
def program : AccessCall → Service Unit
  | buildPayload fetch => do
      let _ ← Vpn.buildPayload world.settings
        (buildBundle world.provisioning world.render fetch.hwid) fetch
  | revokeDevice subscription device => do let _ ← Vpn.revokeDevice subscription device
  | restoreDevice subscription device => do
      let _ ← Vpn.restoreDevice world.provisioning subscription device
  | deactivate subscription => do let _ ← Vpn.deactivate subscription
  | activate subscription => do let _ ← Vpn.activate world.provisioning subscription
  | expirationTick batchSize => do let _ ← Vpn.expirationTick batchSize
  | resetTick strategy => Vpn.resetTick world.resetCutoff strategy

/-- The tables and Redis after a call that runs alone. -/
def run (call : AccessCall) (session : Session) (db : Database)
    (cache : Cache) : Database × Cache :=
  (Shared.request (M := beside) (call.program world) ⟨session, db, cache⟩).2

/-- No device that is off has a key that the call un-revokes without looking at the device. -/
def KeepsOff (db : Database) (now : Time) : AccessCall → Prop
  | activate subscription => db.access.AllOn subscription
  | resetTick strategy =>
    ∀ subscription ∈ db.needingTrafficReset strategy (world.resetCutoff strategy now),
      db.access.AllOn subscription.id
  | _ => True

end AccessCall

/-- The identifiers that a session draws are new. -/
def Database.FreshFor (db : Database) (session : Session) : Prop :=
  (∀ key ∈ db.keys.rows, key.id < session.billing.nextUuid) ∧
    ∀ device ∈ db.devices.rows, device.id < session.billing.nextUuid

/-- What the calls make of the empty database. The tables that they do not switch, and Redis, may
change in between. -/
inductive Reached (world : Deployment) (ok : Database → Time → AccessCall → Prop) :
    Database → Cache → Prop
  | empty (cache : Cache) : Reached world ok .empty cache
  | call {db : Database} {cache : Cache} (h : Reached world ok db cache) (session : Session)
      (hfresh : db.FreshFor session) (call : AccessCall)
      (hok : ok db session.billing.now call) :
      Reached world ok (call.run world session db cache).1 (call.run world session db cache).2
  | elsewhere {db db' : Database} {cache cache' : Cache} (h : Reached world ok db cache)
      (haccess : db'.access = db.access) : Reached world ok db' cache'

/-- A call that runs alone keeps the keys of devices that are off revoked. -/
theorem triple_accessCall
    (hrender : ∀ subscription bundle, Writes SparesAccess (world.render subscription bundle))
    {call : AccessCall} :
    Triple (fun s => At Shut s ∧ call.KeepsOff world s.db s.session.billing.now)
      (call.program world) fun _ => At Shut := by
  have hinv := Access.invariant_cut
  cases call with
  | buildPayload fetch =>
    have hquiet : AboutTables (At Shut) := by
      rintro s s' hs hdb hsession
      unfold At at hs ⊢
      rwa [hdb, hsession]
    refine .ignore (.pre (triple_buildPayload hquiet hquiet (fun _ hs => hs) fun sub => ?_)
      fun _ hs => hs.1)
    exact (triple_buildBundle hrender (hinv sub.id)).pre fun _ hs => hs.1
  | revokeDevice subscription device => exact .ignore (triple_revokeDevice.pre fun _ hs => hs.1)
  | restoreDevice subscription device =>
    exact .ignore ((triple_restoreDevice (hinv subscription)).pre fun _ hs => hs.1)
  | deactivate subscription => exact .ignore (triple_deactivate.pre fun _ hs => hs.1)
  | activate subscription =>
    exact .ignore ((triple_activate (hinv subscription)).pre fun _ hs => ⟨hs.1, fun _ => hs.2⟩)
  | expirationTick batchSize => exact .ignore (triple_expirationTick.pre fun _ hs => hs.1)
  | resetTick strategy => exact triple_resetTick

theorem Access.Sound.refresh {a : Access} (h : a.Sound n) (hkeys : ∀ key ∈ a.keys.rows, key.id < m)
    (hdevices : ∀ device ∈ a.devices.rows, device.id < m) :
    a.Sound m :=
  { h with
    keyFresh := by
      intro id key hkey
      obtain rfl : key.id = id := key_of_find? hkey
      exact hkeys key (mem_of_find? hkey)
    deviceFresh := by
      intro id device hdevice
      obtain rfl : device.id = id := key_of_find? hdevice
      exact hdevices device (mem_of_find? hdevice) }

theorem guarded_of_reached {world : Deployment}
    (hrender : ∀ subscription bundle, Writes SparesAccess (world.render subscription bundle))
    (h : Reached world (AccessCall.KeepsOff world) db cache) :
    ∃ n, Shut db.access n := by
  induction h with
  | empty => refine ⟨0, ⟨nofun, nofun, nofun, nofun, nofun, nofun, nofun⟩, nofun⟩
  | @call db cache h session hfresh call hok ih =>
    obtain ⟨n, hsound, hcut⟩ := ih
    have hstart : At Shut (⟨session, db, cache⟩ : beside.Point) :=
      ⟨hsound.refresh hfresh.1 hfresh.2, hcut⟩
    rcases (triple_accessCall hrender).request ⟨hstart, hok⟩ with
      ⟨value, done, hrun, hdone⟩ | ⟨error, store, hrun⟩
    · exact ⟨_, by rw [AccessCall.run, hrun]; exact hdone⟩
    · exact ⟨_, by rw [AccessCall.run, hrun]; exact hstart⟩
  | elsewhere _ haccess => rwa [haccess]

/-- In every run in which `activate` and the reset job only meet subscriptions whose bound keys
hang on active devices, a key that is bound to a device that is off is revoked. -/
theorem revoked_devices_stay_cut {world : Deployment}
    (hrender : ∀ subscription bundle, Writes Write.SparesAccess (world.render subscription bundle))
    {db : Database} {cache : Cache} (h : Reached world (AccessCall.KeepsOff world) db cache) :
    ∀ binding ∈ db.deviceKeys.rows, ∀ device,
      db.devices.find? binding.subscriptionDeviceId = some device → ¬ device.isActive →
        ∀ key, db.keys.find? binding.vpnKeyId = some key → key.isRevoked := by
  intro binding hbinding device hdevice hoff key hkey
  obtain ⟨n, -, hcut⟩ := guarded_of_reached hrender h
  exact (hcut binding hbinding device hdevice (by simpa using hoff) key hkey).resolve_right id

/-! ## A device that comes back through its subscription -/

namespace Scenario

/-- A deployment without nodes whose configurations are one text. -/
def world : Deployment where
  settings := { publicBaseUrl := "", library := { sha256 := id, strip := id } }
  provisioning :=
    { smartRouteMaxCount := 1
      maxDevicesDefault := 5
      inferTransport := fun _ => none
      selectNodes := fun _ _ => []
      library := { sha256 := id, strip := id } }
  render _ _ := pure { payload := "config", etag := "etag" }
  resetCutoff _ now := now

/-- The running subscription without a device. -/
def unregistered : Database :=
  { access false with
    devices := .empty
    deviceKeys := .empty
    keys := .empty
    placements := .empty }

/-- The session of a request that draws its identifiers from `uuid` on. -/
def session (uuid : Uuid) : Session :=
  { (point unregistered).session with billing := Billing.Scenario.session uuid }

/-- A device fetches its configuration. -/
def fetched : Database × Cache :=
  AccessCall.run world (.buildPayload { rawToken := "hash", hwid := some "device" }) (session 100)
    unregistered (point unregistered).store

def revoked : Database × Cache :=
  AccessCall.run world (.revokeDevice 3 102) (session 200) fetched.1 fetched.2

/-- The subscription is opened again. -/
def reopened : Database × Cache :=
  AccessCall.run world (.activate 3) (session 300) revoked.1 revoked.2

theorem reached_revoked (hok : ∀ db now call, (∀ subscription, call ≠ .activate subscription) →
      (∀ strategy, call ≠ .resetTick strategy) → ok db now call) :
    Reached world ok revoked.1 revoked.2 := by
  have hstart : Reached world ok unregistered (point unregistered).store :=
    .elsewhere (.empty (point unregistered).store) rfl
  have hfetched : Reached world ok fetched.1 fetched.2 :=
    .call hstart (session 100) ⟨nofun, nofun⟩ _ (hok _ _ _ nofun nofun)
  have hfresh : fetched.1.FreshFor (session 200) := by
    unfold Database.FreshFor
    decide +kernel
  exact .call hfetched (session 200) hfresh _ (hok _ _ _ nofun nofun)

end Scenario

open Scenario in
/-- A device registers and is revoked, then `activate` is called: its keys are live again. -/
theorem revoked_device_revived : Reached world (fun _ _ _ => True) reopened.1 reopened.2 ∧
      ∃ binding ∈ reopened.1.deviceKeys.rows,
        ∃ device ∈ reopened.1.devices.find? binding.subscriptionDeviceId, ¬ device.isActive ∧
          ∃ key ∈ reopened.1.keys.find? binding.vpnKeyId, ¬ key.isRevoked := by
  have hfresh : revoked.1.FreshFor (session 300) := by
    unfold Database.FreshFor
    decide +kernel
  have hrevoked : Reached world (fun _ _ _ => True) revoked.1 revoked.2 :=
    reached_revoked fun _ _ _ _ _ => trivial
  exact ⟨.call hrevoked (session 300) hfresh _ trivial, by decide +kernel⟩

open Scenario in
/-- Before that call its keys are revoked. -/
theorem revoked_devices_stay_cut_registered : (∃ binding ∈ revoked.1.deviceKeys.rows,
      ∃ device ∈ revoked.1.devices.find? binding.subscriptionDeviceId, ¬ device.isActive) ∧
    ∀ binding ∈ revoked.1.deviceKeys.rows, ∀ device,
      revoked.1.devices.find? binding.subscriptionDeviceId = some device → ¬ device.isActive →
        ∀ key, revoked.1.keys.find? binding.vpnKeyId = some key → key.isRevoked := by
  refine ⟨by decide +kernel, revoked_devices_stay_cut (fun _ _ => .pure _) (reached_revoked ?_)⟩
  intro db now call hactivate hreset
  cases call with
  | activate subscription => exact absurd rfl (hactivate subscription)
  | resetTick strategy => exact absurd rfl (hreset strategy)
  | _ => trivial

end VpnControl.Vpn
