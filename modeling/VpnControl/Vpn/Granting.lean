/-
# Methods that give access

Registering, fetching and restoring a device, and opening a subscription, keep every property of
the tables that the steps of access keep. There is one triple for each method of the service.
-/

import VpnControl.Vpn.Access

namespace VpnControl.Vpn

open Txn Shared List Write
open Billing (Uuid Time)
open Database Table

variable {binding : SubscriptionDeviceKey} {β : Type} {A : beside.Point → Prop}
  {B : β → beside.Point → Prop}

/-! ## Methods that leave the tables alone -/

variable {cfg : Provisioning} {key : Uuid}

section Placements

variable {W : Write → Prop}

theorem Writes.addReplicas (h : ∀ id node now, W (.upsertPlacement
      (.pending id key node .active (some "subscription_replica") now))) (nodes : List Uuid)
    (placed : List UserPlacement) : Writes W (Vpn.addReplicas key nodes placed) := by
  induction nodes generalizing placed with
  | nil => exact .pure _
  | cons _ _ ih =>
    unfold Vpn.addReplicas
    split
    · exact ih placed
    · refine .bind .uuid4 fun id => .bind .datetimeNow fun now => .bind (.execute (h _ _ _)) fun _ => ?_
      refine .bind (.select _) fun found => ?_
      cases found with
      | none => exact .raise _
      | some => exact .bind (ih _) fun _ => .pure _

section

variable (hqueue : ∀ items, W (.enqueueMany items))
    (h : ∀ id node now, W (.upsertPlacement (.pending id key node .active (some "subscription_replica") now)))

include hqueue h

theorem Writes.ensureBackendPlacementsForKey (region : Option String)
    (replicas : ℤ) : Writes W (Vpn.ensureBackendPlacementsForKey cfg key region replicas) := by
  refine .bind (.select _) fun placements => .bind (.select _) fun candidates => ?_
  split
  · exact .raise _
  · refine .bind (.addReplicas h _ _) fun replicas => ?_
    obtain ⟨placed, new⟩ := replicas
    have hchoose : ∀ targets synced, Writes W (choosePlacement targets synced placed) := by
      intro targets synced
      unfold choosePlacement
      split
      · exact .raise _
      · exact .pure _
    dsimp only
    split
    · exact .bind (.enqueueForPlacementIds hqueue _) fun _ => hchoose _ _
    · exact hchoose _ _

theorem Writes.reinstatePlacements (hstate : ∀ now, W (.setDesiredState key .active reason now)) :
    Writes W (Vpn.reinstatePlacements cfg subscription key reason) := by
  refine .tryCatch ?_ fun error => ?_
  · exact .bind (.ensureBackendPlacementsForKey hqueue h _ _) fun _ => .pure ()
  · split
    · exact .setPlacementDesiredState hqueue hstate
    · exact .setPlacementDesiredState hqueue hstate
    · exact .raise _

end

end Placements

theorem sparesAccess_enqueueMany (items : List NodeTransportOutbox) :
    (enqueueMany items).SparesAccess := ⟨nofun, nofun, nofun⟩

theorem sparesAccess_setDesiredState (desired : PlacementDesiredState)
    (reason : String) (now : Time) :
    (setDesiredState key desired reason now).SparesAccess := ⟨nofun, nofun, nofun⟩

theorem sparesAccess_reinstatePlacements (cfg : Provisioning) (subscription : Subscription)
    (key : Uuid) (reason : String) :
    Writes SparesAccess (reinstatePlacements cfg subscription key reason) :=
  .reinstatePlacements sparesAccess_enqueueMany (fun _ _ _ => ⟨nofun, nofun, nofun⟩)
    (sparesAccess_setDesiredState .active reason)

theorem sparesAccess_setPlacementDesiredState (key : Uuid) (desired : PlacementDesiredState)
    (reason : String) :
    Writes SparesAccess (setPlacementDesiredState key desired reason) :=
  .setPlacementDesiredState sparesAccess_enqueueMany (sparesAccess_setDesiredState desired reason)

/-! ## What the methods write -/

/-- The write is about devices, their keys or the placements of the keys. -/
def Write.Grants (w : Write) : Prop :=
  Database.Part.of w ∈ [.keys, .devices, .deviceKeys, .placements, .outbox]

variable {now : Time} {transport : VpnTransport} {hwidHash : String}
  {f : ResolvedDeviceBundle → Service β} {device : SubscriptionDevice}

namespace Writes

variable {subscription : Subscription}

attribute [local simp] Write.Grants Database.Part.of

theorem grants_reinstatePlacements :
    Writes Grants (Vpn.reinstatePlacements cfg subscription key reason) :=
  .reinstatePlacements (fun _ => by simp) (fun _ _ _ => by simp) fun _ => by simp

variable {W : Write → Prop}

theorem forM {α : Type} {xs : List α} {f : α → Service PUnit} (h : ∀ x, Writes W (f x)) :
    Writes W (xs.forM f) :=
  Program.Every.forM fun x _ => h x

theorem loadDeviceBundle (device : SubscriptionDevice) : Writes W (Vpn.loadDeviceBundle device) :=
  .bind (.select _) fun _ => .bind (.select _) fun _ => .pure _

theorem scalarOneOrNone (rows : List α) : Writes W (Vpn.scalarOneOrNone rows) := by
  unfold Vpn.scalarOneOrNone
  split
  · exact .pure _
  · exact .pure _
  · exact .raise _

theorem checkDeviceLimit (cfg : Provisioning) (subscription : Subscription) :
    Writes W (Vpn.checkDeviceLimit cfg subscription) := by
  refine .bind (.select _) fun limit => .bind (.select _) fun current => ?_
  split
  · exact .raise _
  · exact .pure ()

theorem lockSubscriptionForDeviceAllocation (subscription : Uuid) :
    Writes W (Vpn.lockSubscriptionForDeviceAllocation subscription) :=
  ⟨fun _ hw => absurd hw not_mem_nil, fun _ => trivial⟩

theorem grants_createVpnKeyForTransport :
    Writes Grants (Vpn.createVpnKeyForTransport subscription transport validUntil) := by
  refine .bind (.select _) fun limit => .bind .uuid4 fun id => .bind .uuid4 fun clientId => ?_
  exact .bind (.execute (by simp)) fun _ => .pure _

theorem grants_ensureDeviceKeyBundle :
    Writes Grants (Vpn.ensureDeviceKeyBundle cfg subscription device now) := by
  refine .bind (.loadDeviceBundle device) fun bundle => ?_
  split
  · exact .pure bundle
  · refine .bind (.lockSubscriptionForDeviceAllocation _) fun _ => ?_
    refine .bind (.loadDeviceBundle device) fun bundle => .bind (.forM ?_) fun _ =>
      .loadDeviceBundle device
    rintro ⟨transport, index⟩
    dsimp only
    unfold addMissingKey
    split
    · exact .pure ()
    · refine .bind .grants_createVpnKeyForTransport fun key => .bind (.select _) fun taken => ?_
      split
      · exact .pure ()
      · exact .bind .uuid4 fun id => .execute (by simp)

theorem grants_unrevokeKey {key : VpnKey} : Writes Grants (Vpn.unrevokeKey key) := by
  unfold Vpn.unrevokeKey
  split
  · exact .execute (by simp)
  · exact .pure ()

theorem grants_refetchDevice : Writes Grants (Vpn.refetchDevice cfg subscription revoked now) := by
  refine .bind (.checkDeviceLimit cfg subscription) fun _ => ?_
  refine .bind (.execute (by simp)) fun _ => ?_
  refine .bind (.loadDeviceBundle revoked) fun bundle => .bind (.forM fun resolved => ?_) fun _ =>
    .grants_ensureDeviceKeyBundle
  exact .bind .grants_unrevokeKey fun _ =>
    .setPlacementDesiredState (fun _ => by simp) fun _ => by simp

theorem grants_registerDevice :
    Writes Grants (Vpn.registerDevice cfg subscription hwidHash now) := by
  refine .bind (.checkDeviceLimit cfg subscription) fun _ => ?_
  split
  · exact .raise _
  · refine .bind .grants_createVpnKeyForTransport fun key => .bind (.select _) fun taken => ?_
    split
    · refine .bind (.bind (.select _) fun rows => .scalarOneOrNone rows) fun found => ?_
      split
      · exact .raise _
      · exact .grants_ensureDeviceKeyBundle
    · refine .bind .uuid4 fun id => ?_
      refine .bind (.execute (by simp)) fun _ => ?_
      refine .bind .uuid4 fun bindingId => ?_
      refine .bind (.execute (by simp)) fun _ => ?_
      exact .grants_ensureDeviceKeyBundle

theorem grants_allocateDevice :
    Writes Grants (Vpn.allocateDevice cfg subscription hwidHash now) := by
  refine .bind (.bind (.select _) fun rows => .scalarOneOrNone rows) fun found => ?_
  split
  · exact .grants_ensureDeviceKeyBundle
  · refine .bind (.bind (.select _) fun rows => .scalarOneOrNone rows) fun found => ?_
    split
    · exact .grants_registerDevice
    · split
      · exact .grants_registerDevice
      · exact .grants_refetchDevice

/-- Fetching a configuration. -/
theorem grants_resolveDeviceBundleForRequest :
    Writes Grants (Vpn.resolveDeviceBundleForRequest cfg subscription hwid now) := by
  unfold Vpn.resolveDeviceBundleForRequest
  split
  · exact .raise _
  · dsimp only
    split
    · exact .raise _
    · refine .bind (.bind (.select _) fun rows => .scalarOneOrNone rows) fun found => ?_
      split
      · exact .grants_ensureDeviceKeyBundle
      · exact .bind (.lockSubscriptionForDeviceAllocation _) fun _ => .grants_allocateDevice

theorem grants_restoreDevice : Writes Grants (Vpn.restoreDevice cfg subscriptionId deviceId) := by
  refine .bind (.select _) fun found => ?_
  split
  · exact .raise _
  · refine .bind (.select _) fun found => ?_
    split
    · exact .raise _
    · refine .bind ?_ fun _ => .bind (.loadDeviceBundle _) fun bundle => ?_
      · unfold reclaimSlot
        split
        · exact .pure ()
        · exact .bind (.checkDeviceLimit _ _) fun _ => .execute (by simp)
      · refine .bind (.forM fun resolved => ?_) fun _ =>
          .bind (.invalidatePayloadCacheByTokenHash _) fun _ => .pure _
        exact .bind .grants_unrevokeKey fun _ => .grants_reinstatePlacements

theorem grants_activateKeys : Writes Grants (Vpn.activateKeys cfg subscription loaded keyIds) := by
  induction keyIds with
  | nil => exact .pure 0
  | cons _ _ ih =>
    unfold Vpn.activateKeys
    split
    · exact ih
    · refine .bind .grants_unrevokeKey fun _ => .bind ?_ fun _ => ?_
      · unfold extendKey
        split
        · exact .pure ()
        · split
          · exact .execute (by simp)
          · exact .pure ()
      · exact .bind .grants_reinstatePlacements fun _ => .bind ih fun _ => .pure _

/-- Giving the devices of a subscription their keys back. -/
theorem grants_restoreKeys : Writes Grants (Vpn.restoreKeys cfg subscription) :=
  .bind (.invalidatePayloadCacheByTokenHash _) fun _ => .bind (.select _) fun _ =>
    .bind (.select _) fun _ => .grants_activateKeys

end Writes

/-- The methods leave the tables of billing and the other columns of the subscriptions alone. -/
theorem Write.Grants.foldl {ws : List Write} (h : ∀ w ∈ ws, w.Grants) (db : Database) :
    (ws.foldl Database.apply db).billing = db.billing ∧
      (ws.foldl Database.apply db).columns = db.columns :=
  ⟨same_foldl .billing fun w hw heq => by simpa [Grants, heq] using h w hw,
    same_foldl .columns fun w hw heq => by simpa [Grants, heq] using h w hw⟩

/-! ## The bundle of a device -/

theorem mem_resolveKeys (h : resolved ∈ resolveKeys loaded bindings seen) :
    resolved.key ∈ loaded ∧ ∃ binding ∈ bindings, binding.vpnKeyId = resolved.key.id := by
  induction bindings generalizing seen with
  | nil => simp [resolveKeys] at h
  | cons binding _ ih =>
    unfold resolveKeys at h
    split at h
    · obtain ⟨hloaded, other, hother, hid⟩ := ih h
      exact ⟨hloaded, other, by simp [hother], hid⟩
    · rename_i key hfound
      split at h
      · obtain ⟨hloaded, other, hother, hid⟩ := ih h
        exact ⟨hloaded, other, by simp [hother], hid⟩
      · rcases mem_cons.mp h with rfl | hrest
        · refine ⟨mem_of_find?_eq_some hfound, binding, by simp, ?_⟩
          exact (by simpa using find?_some hfound : key.id = binding.vpnKeyId).symm
        · obtain ⟨hloaded, other, hother, hid⟩ := ih hrest
          exact ⟨hloaded, other, by simp [hother], hid⟩

/-- The first binding of a transport that was not seen, and whose key is there, is resolved. -/
theorem exists_mem_resolveKeys (hmem : binding ∈ bindings)
    (hloaded : ∃ key ∈ loaded, key.id = binding.vpnKeyId) (hseen : binding.transport ∉ seen)
    (hsame : ∀ other ∈ bindings, other.transport = binding.transport →
      other.vpnKeyId = binding.vpnKeyId) :
    ∃ resolved ∈ resolveKeys loaded bindings seen, resolved.key.id = binding.vpnKeyId := by
  induction bindings generalizing seen with
  | nil => simp at hmem
  | cons first rest ih =>
    unfold resolveKeys
    by_cases htransport : first.transport = binding.transport
    · have hid := hsame first (by simp) htransport
      obtain ⟨key, hkey, hkeyid⟩ := hloaded
      cases hfound : loaded.find? fun key => key.id = first.vpnKeyId with
      | none =>
        have hnot := find?_eq_none.mp hfound key hkey
        simp [hkeyid, hid] at hnot
      | some found =>
        have hfoundid : found.id = first.vpnKeyId := by simpa using find?_some hfound
        have hnew : first.transport ∉ seen := htransport ▸ hseen
        simp only [if_neg hnew]
        exact ⟨_, mem_cons_self, hfoundid.trans hid⟩
    · have hrest : binding ∈ rest := by
        rcases mem_cons.mp hmem with rfl | hrest
        · exact absurd rfl htransport
        · exact hrest
      have hsame' : ∀ other ∈ rest, other.transport = binding.transport →
          other.vpnKeyId = binding.vpnKeyId := fun other hother =>
        hsame other (by simp [hother])
      split
      · exact ih hrest hseen hsame'
      · split
        · exact ih hrest hseen hsame'
        · have hseen' : binding.transport ∉ first.transport :: seen := by
            simp [hseen, Ne.symm htransport]
          obtain ⟨resolved, hresolved, hid⟩ := ih hrest hseen' hsame'
          exact ⟨resolved, by simp [hresolved], hid⟩

theorem Database.mem_bindingsOfDevice {db : Database} {id : Uuid} :
    binding ∈ db.bindingsOfDevice id ↔ binding ∈ db.deviceKeys.rows ∧
      binding.subscriptionDeviceId = id ∧ binding.isActive := by
  simp only [bindingsOfDevice, mem_append, mem_filter, decide_eq_true_eq]
  cases binding.isPrimary <;> simp

def Database.OneKeyPerTransport (db : Database) : Prop :=
  ∀ first ∈ db.deviceKeys.rows, ∀ second ∈ db.deviceKeys.rows,
    first.subscriptionDeviceId = second.subscriptionDeviceId →
      first.transport = second.transport → first.vpnKeyId = second.vpnKeyId

/-- The bundle that is loaded for a device. -/
def Database.bundleOf (db : Database) (device : SubscriptionDevice) : ResolvedDeviceBundle :=
  let bindings := db.bindingsOfDevice device.id
  { device := device
    keys := (resolveKeys (db.keysByIds (bindings.map SubscriptionDeviceKey.vpnKeyId).dedup) bindings
      []).insertionSort ResolvedDeviceKey.Precedes }

namespace Database

variable {db : Database} {device : SubscriptionDevice}

theorem of_mem_bundleOf (h : resolved ∈ (db.bundleOf device).keys) :
    db.keys.find? resolved.key.id = some resolved.key ∧
      ∃ binding ∈ db.deviceKeys.rows, binding.subscriptionDeviceId = device.id ∧
        binding.isActive ∧ binding.vpnKeyId = resolved.key.id := by
  obtain ⟨hloaded, binding, hbinding, hid⟩ :=
    mem_resolveKeys ((perm_insertionSort _ _).mem_iff.mp h)
  obtain ⟨hrow, hdevice, hactive⟩ := mem_bindingsOfDevice.mp hbinding
  exact ⟨Table.find?_of_mem (mem_filter.mp hloaded).1, binding, hrow, hdevice, hactive, hid⟩

theorem exists_mem_bundleOf (hsingle : db.OneKeyPerTransport) (hrow : binding ∈ db.deviceKeys.rows)
    (hdevice : binding.subscriptionDeviceId = device.id) (hactive : binding.isActive)
    (hkey : (db.keys.find? binding.vpnKeyId).isSome) :
    ∃ resolved ∈ (db.bundleOf device).keys, resolved.key.id = binding.vpnKeyId := by
  obtain ⟨key, hkey⟩ := Option.isSome_iff_exists.mp hkey
  have hid : key.id = binding.vpnKeyId := key_of_find? hkey
  have hmem : binding ∈ db.bindingsOfDevice device.id :=
    mem_bindingsOfDevice.mpr ⟨hrow, hdevice, hactive⟩
  have hloaded : key ∈ db.keysByIds ((db.bindingsOfDevice device.id).map
      SubscriptionDeviceKey.vpnKeyId).dedup := by
    refine mem_filter.mpr ⟨mem_of_find? hkey, decide_eq_true ?_⟩
    exact mem_dedup.mpr (mem_map.mpr ⟨binding, hmem, hid.symm⟩)
  have hsame : ∀ other ∈ db.bindingsOfDevice device.id, other.transport = binding.transport →
      other.vpnKeyId = binding.vpnKeyId := by
    intro other hother htransport
    obtain ⟨hotherRow, hotherDevice, -⟩ := mem_bindingsOfDevice.mp hother
    exact hsingle other hotherRow binding hrow (hotherDevice.trans hdevice.symm) htransport
  obtain ⟨resolved, hresolved, hresolvedid⟩ :=
    exists_mem_resolveKeys hmem ⟨key, hloaded, hid⟩ not_mem_nil hsame
  exact ⟨resolved, (perm_insertionSort _ _).mem_iff.mpr hresolved, hresolvedid⟩

end Database

/-- What a loaded bundle says about the tables. -/
structure Access.Bundles (a : Access) (device : SubscriptionDevice)
    (bundle : ResolvedDeviceBundle) : Prop where
  device_eq : bundle.device = device
  row : ∀ resolved ∈ bundle.keys, a.keys.find? resolved.key.id = some resolved.key
  bound : ∀ resolved ∈ bundle.keys, ∃ binding ∈ a.deviceKeys.rows,
    binding.subscriptionDeviceId = device.id ∧ binding.vpnKeyId = resolved.key.id
  /-- Every key of the device is in the bundle. -/
  complete : ∀ n, a.Sound n → ∀ binding ∈ a.deviceKeys.rows,
    binding.subscriptionDeviceId = device.id →
      ∃ resolved ∈ bundle.keys, resolved.key.id = binding.vpnKeyId

theorem Triple.loadDeviceBundle
    (h : ∀ bundle, Triple (At fun a n => I a n ∧ a.Bundles device bundle) (f bundle) B) :
    Triple (At I) (loadDeviceBundle device >>= f) B := by
  intro s hs
  refine h (s.db.bundleOf device) s
    ⟨hs, rfl, fun resolved hmem => (of_mem_bundleOf hmem).1, fun resolved hmem => ?_,
      fun n hsound binding hrow hdevice => ?_⟩
  · obtain ⟨-, binding, hrow, hdevice, -, hid⟩ := of_mem_bundleOf hmem
    exact ⟨binding, hrow, hdevice, hid⟩
  · obtain ⟨-, key, -, hkey, -⟩ := hsound.owner binding hrow
    have hsome : (s.db.keys.find? binding.vpnKeyId).isSome := Option.isSome_iff_exists.mpr ⟨key, hkey⟩
    exact exists_mem_bundleOf hsound.transport hrow hdevice
      (hsound.bindingActive binding hrow) hsome

/-! ## Keys for a device -/

section Granting

open Access

variable {strict : Prop} {subscription : Subscription} {I : Access → Uuid → Prop}
  (hI : Invariant strict subscription.id I) {F : Table SubscriptionDevice → Prop}

include hI

theorem Invariant.later (h : I a n) (hle : n ≤ m) : I a m := hI.step h (.draw hle)

omit hI in
/-- The device is there, and switched on. -/
def DeviceOn (strict : Prop) (subscription device : Uuid) (devices : Table SubscriptionDevice) :
    Prop :=
  ∃ row, devices.find? device = some row ∧ row.subscriptionId = subscription ∧
    (strict → row.isActive)

omit hI in
/-- The key is there, and not bound. -/
def Loose (subscription : Uuid) (key : VpnKey) (a : Access) : Prop :=
  a.keys.find? key.id = some key ∧ key.subscriptionId = some subscription ∧
    ∀ binding ∈ a.deviceKeys.rows, binding.vpnKeyId ≠ key.id

theorem triple_createVpnKeyForTransport (transport : VpnTransport) (validUntil : Time) :
    Triple (At fun a n => I a n ∧ F a.devices)
      (createVpnKeyForTransport subscription transport validUntil)
      fun key => At fun a n => I a n ∧ F a.devices ∧ Loose subscription.id key a := by
  refine Triple.read fun limit => Triple.uuid4 fun id => Triple.uuid4 fun clientId => ?_
  refine Triple.execute (At fun a n => I a n ∧ F a.devices ∧ Loose subscription.id
    { id := id, transport := transport, clientId := toString clientId, validUntil := validUntil
      trafficLimitMb := if 0 < limit then max 1 (limit / mib) else 0, isRevoked := false
      subscriptionId := some subscription.id } a) ?_ (.pure fun s hs => hs)
  rintro s ⟨hn, hid, hinv, hF⟩
  have hsound := hI.sound hinv
  have hnone : s.db.keys.find? id = none := hsound.keys_find?_next
  have hlt : id < s.session.billing.nextUuid :=
    lt_trans (Nat.lt_succ_self id) (hn ▸ hid ▸ Nat.lt_succ_self clientId)
  refine ⟨hI.step (Invariant.later hI hinv hlt.le) (.addKey _ hlt hnone rfl rfl), hF, ?_, rfl, ?_⟩
  · exact Table.find?_insert_self hnone
  · exact hsound.unbound hnone

variable {device : SubscriptionDevice} {P : Access → Prop} {cfg : Provisioning} {key : VpnKey}

theorem triple_bindKey :
    Triple (At fun a n => I a n ∧ DeviceOn strict subscription.id device.id a.devices ∧
        Loose subscription.id key a)
      (bindKey device key transport isPrimary)
      fun _ => At fun a n => I a n ∧ DeviceOn strict subscription.id device.id a.devices := by
  refine Triple.selectAccess (fun a => a.deviceKeys.rows.any fun binding =>
    binding.subscriptionDeviceId = device.id ∧ binding.transport = transport) (fun _ => rfl)
    fun taken => ?_
  split
  · exact .pure fun s hs => ⟨hs.1.1, hs.1.2.1⟩
  · rename_i hfree
    refine Triple.uuid4 fun id => Triple.perform fun s hs => ?_
    obtain ⟨hn, ⟨hinv, ⟨row, hrow, hsub, hon⟩, hkey, howned, hunbound⟩, rfl⟩ := hs
    have hle : id ≤ s.session.billing.nextUuid := hn ▸ Nat.le_succ id
    refine ⟨hI.step (Invariant.later hI hinv hle) (.bind _ rfl hrow hon hkey ?_ hunbound ?_),
      row, hrow, hsub, hon⟩
    · rw [howned, hsub]
    · intro binding hbinding hdevice htransport
      refine hfree (any_eq_true.mpr ⟨binding, hbinding, ?_⟩)
      simp [hdevice, htransport]

theorem triple_ensureDeviceKeyBundle (cfg : Provisioning) (now : Time) :
    Triple (At fun a n => I a n ∧ DeviceOn strict subscription.id device.id a.devices)
      (ensureDeviceKeyBundle cfg subscription device now) fun _ => At I := by
  refine Triple.loadDeviceBundle fun bundle => ?_
  split
  · exact .pure fun s hs => hs.1.1
  · refine .bind (.perform (B := fun _ => At fun a n => I a n ∧
      DeviceOn strict subscription.id device.id a.devices) fun s hs => hs.1) fun _ => ?_
    refine Triple.loadDeviceBundle fun bundle => ?_
    have hloop : Triple
        (At fun a n => I a n ∧ DeviceOn strict subscription.id bundle.device.id a.devices)
        ((cfg.bundleTransports subscription).zipIdx.forM fun entry =>
          addMissingKey subscription now bundle entry.1 entry.2)
        fun _ => At fun a n => I a n ∧
          DeviceOn strict subscription.id bundle.device.id a.devices := by
      refine .forM_keeps fun entry _ => ?_
      unfold addMissingKey
      split
      · exact .pure fun s hs => hs
      · exact .bind (triple_createVpnKeyForTransport hI entry.1 _) fun key => triple_bindKey hI
    refine .bind (hloop.conseq ?_ fun _ s hs => hs.1) fun _ =>
      Triple.loadDeviceBundle fun _ => .pure fun s hs => hs.1
    rintro s ⟨⟨hinv, hon⟩, hbundle⟩
    exact ⟨hinv, hbundle.device_eq ▸ hon⟩

/-! ## Un-revoking keys -/

omit hI in
def BoundTo (device : Uuid) (keys : List ResolvedDeviceKey)
    (deviceKeys : Table SubscriptionDeviceKey) : Prop :=
  ∀ resolved ∈ keys, ∃ binding ∈ deviceKeys.rows,
    binding.subscriptionDeviceId = device ∧ binding.vpnKeyId = resolved.key.id

/-- A key that belongs to the subscription, and hangs on active devices only, is un-revoked. -/
theorem triple_unrevokeKey (hP : ∀ a keys, P a → P { a with keys := keys })
    (howned : ∀ a n, I a n → P a → ∀ row, a.keys.find? key.id = some row →
      row.subscriptionId = some subscription.id)
    (hactive : ∀ a n, I a n → P a → strict → a.OnActive key.id) :
    Triple (At fun a n => I a n ∧ P a) (unrevokeKey key) fun _ => At fun a n => I a n ∧ P a := by
  unfold unrevokeKey
  split
  · refine .perform fun s hs => ⟨?_, hP _ _ hs.2⟩
    exact hI.step hs.1 (.unrevoke key.id (howned _ _ hs.1 hs.2) (hactive _ _ hs.1 hs.2))
  · exact .pure fun s hs => hs

/-- A method that leaves the tables alone. -/
theorem triple_sparing {p : Service α} (hp : Writes SparesAccess p) :
    Triple (At fun a n => I a n ∧ P a) p fun _ => At fun a n => I a n ∧ P a :=
  Triple.sparesAccess hp fun _ _ _ hle h => ⟨Invariant.later hI h.1 hle, h.2⟩

/-- The loops that give a device its keys back. -/
theorem triple_unrevokeBundle (device : Uuid) (keys : List ResolvedDeviceKey)
    {after : Uuid → Service Unit} (hafter : ∀ key, Writes SparesAccess (after key)) :
    Triple (At fun a n => I a n ∧ DeviceOn strict subscription.id device a.devices ∧
        BoundTo device keys a.deviceKeys)
      (keys.forM fun resolved => do
        unrevokeKey resolved.key
        after resolved.key.id)
      fun _ => At fun a n => I a n ∧ DeviceOn strict subscription.id device a.devices ∧
        BoundTo device keys a.deviceKeys := by
  refine .forM_keeps fun resolved hresolved => ?_
  refine .bind (triple_unrevokeKey hI (fun _ _ h => h) ?_ ?_) fun _ => triple_sparing hI (hafter _)
  · rintro a n hinv ⟨⟨row, hrow, hsub, -⟩, hbound⟩ key hkey
    obtain ⟨binding, hbinding, hdevice, hid⟩ := hbound resolved hresolved
    obtain ⟨device', key', hdevice', hkey', howner⟩ := (hI.sound hinv).owner binding hbinding
    rw [hdevice, hrow, Option.some.injEq] at hdevice'
    rw [hid, hkey, Option.some.injEq] at hkey'
    rw [hkey', howner, ← hdevice', hsub]
  · rintro a n hinv ⟨⟨row, hrow, -, hon⟩, hbound⟩ hstrict other hother hkey device' hdevice'
    obtain ⟨binding, hbinding, hdevice, hid⟩ := hbound resolved hresolved
    have hsame := (hI.sound hinv).single other hother binding hbinding (hkey.trans hid.symm)
    rw [hsame, hdevice, hrow, Option.some.injEq] at hdevice'
    exact hdevice' ▸ hon hstrict

/-! ## Registering a device -/

omit hI in
theorem triple_checkDeviceLimit : Triple A (checkDeviceLimit cfg subscription) fun _ => A := by
  refine Triple.read fun limit => Triple.read fun current => ?_
  split
  · exact .raise
  · exact .pure fun s hs => hs

/-- A device that takes its slot back is on afterwards. -/
theorem triple_switchOn (hsub : device.subscriptionId = subscription.id) :
    Triple (At fun a n => I a n ∧ a.devices.find? device.id = some device)
      (execute (.setDeviceActive device.id true))
      fun _ => At fun a n => I a n ∧ DeviceOn strict subscription.id device.id a.devices :=
  .perform fun _ hs => ⟨hI.step hs.1 (.switchOn device.id), device.setActive true,
    (Table.find?_modify_self (SubscriptionDevice.setActive true) fun _ => rfl).trans
      (congrArg (Option.map _) hs.2), hsub, fun _ => rfl⟩

theorem triple_refetchDevice (hsub : device.subscriptionId = subscription.id) :
    Triple (At fun a n => I a n ∧ a.devices.find? device.id = some device)
      (refetchDevice cfg subscription device now) fun _ => At I := by
  refine .bind triple_checkDeviceLimit fun _ => ?_
  refine .bind (triple_switchOn hI hsub) fun _ => ?_
  refine Triple.loadDeviceBundle fun bundle => ?_
  have hloop := triple_unrevokeBundle hI device.id bundle.keys fun key =>
    sparesAccess_setPlacementDesiredState key .active "device_refetch_restore"
  refine .bind (hloop.pre fun s hs => ⟨hs.1.1, hs.1.2, hs.2.bound⟩) fun _ => ?_
  exact (triple_ensureDeviceKeyBundle hI cfg now).pre fun s hs => ⟨hs.1, hs.2.1⟩

omit hI in
theorem triple_getActiveDevice (strict : Prop) :
    Triple (At I) (getActiveDevice subscription.id hwidHash) fun found => At fun a n => I a n ∧
      ∀ device ∈ found, DeviceOn strict subscription.id device.id a.devices := by
  refine Triple.select fun rows => Triple.post Triple.scalarOneOrNone fun found s hs => ?_
  obtain ⟨⟨hinv, rfl⟩, hmem⟩ := hs
  refine ⟨hinv, fun device hdevice => ⟨device, ?_⟩⟩
  have hrow := mem_filter.mp (hmem device hdevice)
  simp only [decide_eq_true_eq] at hrow
  exact ⟨Table.find?_of_mem hrow.1, hrow.2.1, fun _ => hrow.2.2.2⟩

omit hI in
theorem triple_getDevice :
    Triple (At I) (getDevice subscription.id hwidHash) fun found => At fun a n => I a n ∧
      ∀ device ∈ found, a.devices.find? device.id = some device ∧
        device.subscriptionId = subscription.id := by
  refine Triple.select fun rows => Triple.post Triple.scalarOneOrNone fun found s hs => ?_
  obtain ⟨⟨hinv, rfl⟩, hmem⟩ := hs
  refine ⟨hinv, fun device hdevice => ?_⟩
  have hrow := mem_filter.mp (hmem device hdevice)
  simp only [decide_eq_true_eq] at hrow
  exact ⟨Table.find?_of_mem hrow.1, hrow.2.1⟩

/-- The first key of a device that was just inserted. -/
theorem triple_bindPrimary (device : SubscriptionDevice) (hon : device.isActive)
    (hsub : device.subscriptionId = subscription.id) (key : VpnKey) (transport : VpnTransport) :
    Triple (At fun a n => I a n ∧ a.devices.find? device.id = some device ∧
        (∀ binding ∈ a.deviceKeys.rows, binding.subscriptionDeviceId ≠ device.id) ∧
        Loose subscription.id key a)
      (do
        let bindingId ← uuid4
        execute (.insertDeviceKey
          { id := bindingId, subscriptionDeviceId := device.id, vpnKeyId := key.id
            transport := transport, isPrimary := true }))
      fun _ => At fun a n => I a n ∧ DeviceOn strict subscription.id device.id a.devices := by
  refine Triple.uuid4 fun id => Triple.perform fun s hs => ?_
  obtain ⟨hn, hinv, hrow, hfresh, hkey, howned, hunbound⟩ := hs
  have hle : id ≤ s.session.billing.nextUuid := hn ▸ Nat.le_succ id
  refine ⟨hI.step (Invariant.later hI hinv hle) (.bind _ rfl hrow (fun _ => hon) hkey ?_ hunbound ?_),
    device, hrow, hsub, fun _ => hon⟩
  · rw [howned, hsub]
  · exact fun binding hbinding hdevice => absurd hdevice (hfresh binding hbinding)

theorem triple_registerDevice :
    Triple (At I) (registerDevice cfg subscription hwidHash now) fun _ => At I := by
  refine Triple.bind triple_checkDeviceLimit fun _ => ?_
  split
  · exact Triple.raise
  · rename_i primary rest _
    have hcreate := triple_createVpnKeyForTransport (F := fun _ => True) hI primary
      (keyValidUntil subscription now)
    refine Triple.bind (hcreate.pre fun s hs => ⟨hs, trivial⟩) fun key => Triple.read fun taken => ?_
    split
    · -- the unique constraint was hit: the device of a concurrent request is taken
      refine Triple.bind ((triple_getActiveDevice strict).pre fun s hs => hs.1) fun found => ?_
      cases found with
      | none => exact Triple.raise
      | some device =>
        exact (triple_ensureDeviceKeyBundle hI cfg now).pre fun s hs => ⟨hs.1, hs.2 device rfl⟩
    · refine Triple.uuid4 fun id => ?_
      let device : SubscriptionDevice :=
        { id := id, subscriptionId := subscription.id, hwidHash := hwidHash }
      refine Triple.execute (At fun a n => I a n ∧ a.devices.find? device.id = some device ∧
        (∀ binding ∈ a.deviceKeys.rows, binding.subscriptionDeviceId ≠ device.id) ∧
        Loose subscription.id key a) ?_ ?_
      · rintro s ⟨hn, hinv, -, hloose⟩
        have hsound := hI.sound hinv
        have hnone : s.db.devices.find? id = none := hsound.devices_find?_next
        have hlt : id < s.session.billing.nextUuid := hn ▸ Nat.lt_succ_self id
        refine ⟨hI.step (Invariant.later hI hinv hlt.le) (.addDevice device hlt hnone),
          Table.find?_insert_self hnone, ?_, hloose⟩
        rintro binding hbinding hdevice
        obtain ⟨found, -, hfound, -⟩ := hsound.owner binding hbinding
        rw [hdevice] at hfound
        exact absurd (hnone.symm.trans hfound) nofun
      · have hfirst := triple_bindPrimary hI device rfl rfl key primary
        have hrest := Triple.bind hfirst fun _ => triple_ensureDeviceKeyBundle hI cfg now
        simpa only [bind_assoc] using hrest

theorem triple_allocateDevice :
    Triple (At I) (allocateDevice cfg subscription hwidHash now) fun _ => At I := by
  refine .bind (triple_getActiveDevice strict) fun found => ?_
  cases found with
  | some device =>
    exact (triple_ensureDeviceKeyBundle hI cfg now).pre fun s hs => ⟨hs.1, hs.2 device rfl⟩
  | none =>
    refine .bind (triple_getDevice.pre fun s hs => hs.1) fun found => ?_
    cases found with
    | none => exact (triple_registerDevice hI).pre fun s hs => hs.1
    | some device =>
      dsimp only
      split
      · exact (triple_registerDevice hI).pre fun s hs => hs.1
      · intro s hs
        obtain ⟨hrow, hsub⟩ := hs.2 device rfl
        exact triple_refetchDevice hI hsub s ⟨hs.1, hrow⟩

/-- Fetching a configuration registers the device or finds it. -/
theorem triple_resolveDeviceBundleForRequest :
    Triple (At I) (resolveDeviceBundleForRequest cfg subscription hwid now) fun _ => At I := by
  unfold resolveDeviceBundleForRequest
  split
  · exact .raise
  · dsimp only
    split
    · exact .raise
    · refine .bind (triple_getActiveDevice strict) fun found => ?_
      cases found with
      | some device =>
        exact (triple_ensureDeviceKeyBundle hI cfg now).pre fun s hs => ⟨hs.1, hs.2 device rfl⟩
      | none =>
        refine .bind (.perform (B := fun _ => At I) fun s hs => hs.1) fun _ => ?_
        exact triple_allocateDevice hI

/-! ## Restoring a device -/

/-- The part of `restore_device` after the lookups. -/
theorem triple_restoreFound (hsub : device.subscriptionId = subscription.id) :
    Triple (At fun a n => I a n ∧ a.devices.find? device.id = some device) (do
        reclaimSlot cfg subscription device
        let bundle ← loadDeviceBundle device
        bundle.keys.forM fun resolved => do
          unrevokeKey resolved.key
          reinstatePlacements cfg subscription resolved.key.id "subscription_device_restore"
        invalidatePayloadCacheByTokenHash subscription.tokenHash
        pure (bundle.keys.any fun resolved => resolved.key.isRevoked))
      fun _ => At I := by
  refine Triple.bind (B := fun _ => At fun a n => I a n ∧
    DeviceOn strict subscription.id device.id a.devices) ?_ fun _ =>
      Triple.loadDeviceBundle fun bundle => ?_
  · unfold reclaimSlot
    split
    · rename_i hon
      exact .pure fun s hs => ⟨hs.1, device, hs.2, hsub, fun _ => hon⟩
    · exact .bind triple_checkDeviceLimit fun _ => triple_switchOn hI hsub
  have hloop := triple_unrevokeBundle hI device.id bundle.keys fun key =>
    sparesAccess_reinstatePlacements cfg subscription key "subscription_device_restore"
  refine .bind (hloop.pre fun s hs => ⟨hs.1.1, hs.1.2, hs.2.bound⟩) fun _ => ?_
  refine .bind (triple_sparing hI (.invalidatePayloadCacheByTokenHash _)) fun _ => ?_
  exact .pure fun s hs => hs.1

/-! ## Opening a subscription -/

/-- The keys belong to the subscription, and where it matters hang on active devices only. -/
theorem triple_activateKeys (cfg : Provisioning) (loaded : List VpnKey)
    (hP : ∀ a keys, P a → P { a with keys := keys }) (keyIds : List Uuid)
    (howned : ∀ id ∈ keyIds, ∀ a n, I a n → P a → ∀ row, a.keys.find? id = some row →
      row.subscriptionId = some subscription.id)
    (hactive : ∀ id ∈ keyIds, ∀ a n, I a n → P a → strict → a.OnActive id) :
    Triple (At fun a n => I a n ∧ P a) (activateKeys cfg subscription loaded keyIds)
      fun _ => At fun a n => I a n ∧ P a := by
  induction keyIds with
  | nil => exact .pure fun s hs => hs
  | cons id _ ih =>
    have hrest := ih (fun other hother => howned other (by simp [hother]))
      fun other hother => hactive other (by simp [hother])
    unfold activateKeys
    split
    · exact hrest
    · rename_i key hfound
      have hid : key.id = id := by simpa using find?_some hfound
      have howned' : ∀ a n, I a n → P a → ∀ row, a.keys.find? key.id = some row →
          row.subscriptionId = some subscription.id := hid ▸ howned id (by simp)
      refine .bind (triple_unrevokeKey hI hP howned' (hid ▸ hactive id (by simp))) fun _ => ?_
      refine .bind (B := fun _ => At fun a n => I a n ∧ P a) ?_ fun _ => ?_
      · unfold extendKey
        split
        · exact .pure fun s hs => hs
        · split
          · refine .perform fun s hs => ⟨?_, hP _ _ hs.2⟩
            exact hI.step hs.1 (.extend key.id _ (howned' _ _ hs.1 hs.2))
          · exact .pure fun s hs => hs
      · refine .bind (triple_sparing hI (sparesAccess_reinstatePlacements cfg _ _ _)) fun _ => ?_
        exact .bind hrest fun _ => .pure fun s hs => hs

omit hI in
/-- Every device of the subscription with a bound key is active. -/
def Access.AllOn (a : Access) (subscription : Uuid) : Prop :=
  ∀ binding ∈ a.deviceKeys.rows, ∀ device,
    a.devices.find? binding.subscriptionDeviceId = some device →
      device.subscriptionId = subscription → device.isActive

theorem triple_restoreKeys : Triple (At fun a n => I a n ∧ (strict → a.AllOn subscription.id))
      (restoreKeys cfg subscription) fun _ => At I := by
  refine .bind (triple_sparing hI (.invalidatePayloadCacheByTokenHash _)) fun _ => ?_
  refine Triple.select fun keyIds => Triple.read fun loaded => ?_
  have hkeys := triple_activateKeys hI cfg loaded (P := fun a =>
    (strict → a.AllOn subscription.id) ∧ ∀ id ∈ keyIds, ∃ binding ∈ a.deviceKeys.rows,
      binding.vpnKeyId = id ∧ ∃ device, a.devices.find? binding.subscriptionDeviceId = some device ∧
        device.subscriptionId = subscription.id) (fun _ _ h => h) keyIds ?_ ?_
  · refine hkeys.conseq ?_ fun _ s hs => hs.1
    rintro s ⟨⟨hinv, hon⟩, rfl⟩
    refine ⟨hinv, hon, fun id hid => ?_⟩
    obtain ⟨binding, hmem, rfl⟩ := mem_map.mp (mem_dedup.mp hid)
    obtain ⟨hrow, hany⟩ := mem_filter.mp hmem
    cases hdevice : s.db.devices.find? binding.subscriptionDeviceId with
    | none => simp [hdevice] at hany
    | some device => exact ⟨binding, hrow, rfl, device, hdevice, by simpa [hdevice] using hany⟩
  · rintro id hid a n hinv ⟨-, hbound⟩ row hrow
    obtain ⟨binding, hbinding, rfl, device, hdevice, hsub⟩ := hbound id hid
    obtain ⟨device', key, hdevice', hkey, howner⟩ := (hI.sound hinv).owner binding hbinding
    rw [hdevice, Option.some.injEq] at hdevice'
    rw [hrow, Option.some.injEq] at hkey
    rw [hkey, howner, ← hdevice', hsub]
  · rintro id hid a n hinv ⟨hon, hbound⟩ hstrict other hother hkey device' hdevice'
    obtain ⟨binding, hbinding, rfl, device, hdevice, hsub⟩ := hbound id hid
    have hsame := (hI.sound hinv).single other hother binding hbinding hkey
    rw [hsame, hdevice, Option.some.injEq] at hdevice'
    exact hdevice' ▸ hon hstrict binding hbinding device hdevice hsub

end Granting

section Methods

open Access

variable {strict : Prop} {I : Access → Uuid → Prop}

/-- Opening a subscription. -/
theorem triple_activate {id : Uuid} (hI : Invariant strict id I) :
    Triple (At fun a n => I a n ∧ (strict → a.AllOn id)) (activate cfg id) fun _ => At I := by
  refine Triple.select fun found => ?_
  cases found with
  | none => exact .raise
  | some subscription =>
    intro s hs
    obtain rfl : subscription.id = id := id_of_subscription? hs.2
    have hopen := triple_sparing hI (P := fun a => strict → a.AllOn subscription.id)
      (.execute (w := .billing (.updateSubscription subscription.id { isActive := some true }))
        ⟨nofun, nofun, nofun⟩)
    exact Triple.bind hopen (fun _ => triple_restoreKeys hI) s hs.1

theorem triple_restoreDevice (hI : Invariant strict subscriptionId I) :
    Triple (At I) (restoreDevice cfg subscriptionId deviceId) fun _ => At I := by
  refine Triple.select fun found => ?_
  cases found with
  | none => exact .raise
  | some subscription =>
    refine Triple.select fun found => ?_
    cases found with
    | none => exact .raise
    | some device =>
      rintro s ⟨⟨hinv, hsub⟩, hdevice⟩
      obtain rfl : subscription.id = subscriptionId := id_of_subscription? hsub
      obtain ⟨hrow, howner⟩ := Option.filter_eq_some_iff.mp hdevice
      obtain rfl : device.id = deviceId := key_of_find? hrow
      exact triple_restoreFound hI (of_decide_eq_true howner) s ⟨hinv, hrow⟩

/-- Fetching a configuration. -/
theorem triple_buildBundle
    (hrender : ∀ subscription bundle, Writes SparesAccess (render subscription bundle))
    (hI : Invariant strict subscription.id I) :
    Triple (At I) (buildBundle cfg render hwid subscription) fun _ => At I := by
  refine Triple.datetimeNow fun now => ?_
  refine Triple.bind (triple_resolveDeviceBundleForRequest hI) fun bundle => ?_
  exact Triple.sparesAccess (hrender subscription bundle) fun _ _ _ hle h => Invariant.later hI h hle

end Methods

end VpnControl.Vpn
