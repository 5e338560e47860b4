/-
# Who has access

Three tables decide who has access: the devices, the keys, and the bindings of keys to devices.
`Access` is these tables. `Access.Sound` collects what the service keeps true of them: a bound
key belongs to the subscription of its device, a key is bound to one device, a device has one
key for each transport.

Registering, fetching and restoring a device, and opening a subscription, change the tables in
seven ways, the cases of `Access.Step`. Each method gets one triple, that it keeps whatever the
steps keep; what the methods do to access is then a question about the steps.
-/

import VpnControl.Billing.Fulfilment
import VpnControl.Txn.Triple
import VpnControl.Vpn.Evaluation
import VpnControl.Vpn.Reconcilers

namespace VpnControl.Vpn

open Txn Shared Option
open Billing (Uuid Time)
open Table Database

/-- The tables that decide who has access. -/
structure Access where
  keys : Table VpnKey
  devices : Table SubscriptionDevice
  deviceKeys : Table SubscriptionDeviceKey

def Database.access (db : Database) : Access := ⟨db.keys, db.devices, db.deviceKeys⟩

namespace Access

variable {a a' : Access} {n m : Uuid}

/-- What the service keeps true of the tables, with the next identifier to be drawn. -/
structure Sound (a : Access) (n : Uuid) : Prop where
  bindingActive : ∀ binding ∈ a.deviceKeys.rows, binding.isActive
  keyActive : ∀ id key, a.keys.find? id = some key → key.isActive
  /-- A bound key belongs to the subscription of the device. -/
  owner : ∀ binding ∈ a.deviceKeys.rows, ∃ device key,
    a.devices.find? binding.subscriptionDeviceId = some device ∧
      a.keys.find? binding.vpnKeyId = some key ∧ key.subscriptionId = some device.subscriptionId
  /-- A key is bound to one device. -/
  single : ∀ first ∈ a.deviceKeys.rows, ∀ second ∈ a.deviceKeys.rows,
    first.vpnKeyId = second.vpnKeyId → first.subscriptionDeviceId = second.subscriptionDeviceId
  /-- A device has one key for each transport. -/
  transport : ∀ first ∈ a.deviceKeys.rows, ∀ second ∈ a.deviceKeys.rows,
    first.subscriptionDeviceId = second.subscriptionDeviceId →
      first.transport = second.transport → first.vpnKeyId = second.vpnKeyId
  keyFresh : ∀ id key, a.keys.find? id = some key → id < n
  deviceFresh : ∀ id device, a.devices.find? id = some device → id < n

/-! ## Changes in place -/

/-- The tables have the same rows, up to columns that `Sound` does not speak about. -/
structure Alike (a a' : Access) : Prop where
  keys : ∀ id, (a'.keys.find? id).map (fun key => (key.isActive, key.subscriptionId)) =
    (a.keys.find? id).map fun key => (key.isActive, key.subscriptionId)
  devices : ∀ id, (a'.devices.find? id).map SubscriptionDevice.subscriptionId =
    (a.devices.find? id).map SubscriptionDevice.subscriptionId
  deviceKeys : a'.deviceKeys = a.deviceKeys

namespace Alike

theorem refl (a : Access) : Alike a a := ⟨fun _ => rfl, fun _ => rfl, rfl⟩

theorem symm (h : Alike a a') : Alike a' a :=
  ⟨fun id => (h.keys id).symm, fun id => (h.devices id).symm, h.deviceKeys.symm⟩

theorem key (h : Alike a a') {id : Uuid} (hkey : a'.keys.find? id = some key') :
    ∃ key, a.keys.find? id = some key ∧ key.isActive = key'.isActive ∧
      key.subscriptionId = key'.subscriptionId := by
  have hsame := h.keys id
  rw [hkey, map_some] at hsame
  obtain ⟨key, hfound, heq⟩ := map_eq_some_iff.mp hsame.symm
  simp only [Prod.mk.injEq] at heq
  exact ⟨key, hfound, heq⟩

theorem device (h : Alike a a') {id : Uuid} (hdevice : a'.devices.find? id = some device') :
    ∃ device, a.devices.find? id = some device ∧
      device.subscriptionId = device'.subscriptionId := by
  have hsame := h.devices id
  rw [hdevice, map_some] at hsame
  exact map_eq_some_iff.mp hsame.symm

end Alike

theorem Sound.alike (h : a.Sound n) (halike : Alike a a') : a'.Sound n where
  bindingActive := halike.deviceKeys ▸ h.bindingActive
  keyActive id key hkey := by
    obtain ⟨old, hold, hactive, -⟩ := halike.key hkey
    exact hactive ▸ h.keyActive id old hold
  owner binding hbinding := by
    obtain ⟨device, key, hdevice, hkey, howner⟩ := h.owner binding (halike.deviceKeys ▸ hbinding)
    obtain ⟨device', hdevice', hsub⟩ := halike.symm.device hdevice
    obtain ⟨key', hkey', -, hkeysub⟩ := halike.symm.key hkey
    exact ⟨device', key', hdevice', hkey', by rw [hkeysub, howner, hsub]⟩
  single := halike.deviceKeys ▸ h.single
  transport := halike.deviceKeys ▸ h.transport
  keyFresh id key hkey := by
    obtain ⟨old, hold, -⟩ := halike.key hkey
    exact h.keyFresh id old hold
  deviceFresh id device hdevice := by
    obtain ⟨old, hold, -⟩ := halike.device hdevice
    exact h.deviceFresh id old hold

theorem Sound.later (h : a.Sound n) (hle : n ≤ m) : a.Sound m :=
  { h with
    keyFresh := fun id key hkey => lt_of_lt_of_le (h.keyFresh id key hkey) hle
    deviceFresh := fun id device hdevice => lt_of_lt_of_le (h.deviceFresh id device hdevice) hle }

theorem Sound.keys_find?_next (h : a.Sound n) : a.keys.find? n = none := by
  cases hfound : a.keys.find? n with
  | none => rfl
  | some key => exact absurd (h.keyFresh n key hfound) (lt_irrefl n)

theorem Sound.devices_find?_next (h : a.Sound n) : a.devices.find? n = none := by
  cases hfound : a.devices.find? n with
  | none => rfl
  | some device => exact absurd (h.deviceFresh n device hfound) (lt_irrefl n)

/-- A key that is not there is not bound. -/
theorem Sound.unbound (h : a.Sound n) {id : Uuid} (hnone : a.keys.find? id = none) :
    ∀ binding ∈ a.deviceKeys.rows, binding.vpnKeyId ≠ id := by
  rintro binding hbinding rfl
  obtain ⟨-, key, -, hkey, -⟩ := h.owner binding hbinding
  rw [hnone] at hkey
  cases hkey

/-! ## Steps -/

/-- Every device that the key is bound to is active. -/
def OnActive (a : Access) (key : Uuid) : Prop :=
  ∀ binding ∈ a.deviceKeys.rows, binding.vpnKeyId = key →
    ∀ device, a.devices.find? binding.subscriptionDeviceId = some device → device.isActive

variable (strict : Prop) (subscription : Uuid) (a : Access) (n : Uuid) in
/-- One change by a method that gives access to devices of a subscription. Where `strict` holds,
no key of an inactive device comes to life. -/
inductive Step : Access → Uuid → Prop
  | draw {m : Uuid} (hle : n ≤ m) : Step a m
  | unrevoke (id : Uuid)
      (howned : ∀ key, a.keys.find? id = some key → key.subscriptionId = some subscription)
      (hactive : strict → a.OnActive id) :
      Step
        { a with keys := a.keys.modify id (VpnKey.setRevoked false) fun _ => rfl } n
  | extend (id : Uuid) (validUntil : Time)
      (howned : ∀ key, a.keys.find? id = some key → key.subscriptionId = some subscription) :
      Step
        { a with keys := a.keys.modify id (VpnKey.setValidUntil validUntil) fun _ => rfl } n
  | switchOn (id : Uuid) : Step
        { a with devices := a.devices.modify id (SubscriptionDevice.setActive true) fun _ => rfl } n
  | addKey (row : VpnKey) (hid : row.id < n) (hnew : a.keys.find? row.id = none)
      (hactive : row.isActive) (howned : row.subscriptionId = some subscription) :
      Step { a with keys := a.keys.insert row } n
  | addDevice (row : SubscriptionDevice) (hid : row.id < n) (hnew : a.devices.find? row.id = none) :
      Step { a with devices := a.devices.insert row } n
  | bind (row : SubscriptionDeviceKey) (hactive : row.isActive) {device : SubscriptionDevice}
      (hdevice : a.devices.find? row.subscriptionDeviceId = some device)
      (hon : strict → device.isActive) {key : VpnKey} (hkey : a.keys.find? row.vpnKeyId = some key)
      (howner : key.subscriptionId = some device.subscriptionId)
      (hunbound : ∀ binding ∈ a.deviceKeys.rows, binding.vpnKeyId ≠ row.vpnKeyId)
      (hfree : ∀ binding ∈ a.deviceKeys.rows,
        binding.subscriptionDeviceId = row.subscriptionDeviceId →
          binding.transport ≠ row.transport) :
      Step { a with deviceKeys := a.deviceKeys.insert row } n

theorem alike_modifyKey (id : Uuid)
    {hf : ∀ key, Row.key (f key) = Row.key key}
    (hkeep : ∀ key, (f key).isActive = key.isActive ∧ (f key).subscriptionId = key.subscriptionId) :
    Alike a { a with keys := a.keys.modify id f hf } where
  keys := map_find?_modify f hf fun key => by rw [(hkeep key).1, (hkeep key).2]
  devices _ := rfl
  deviceKeys := rfl

theorem alike_modifyDevice (id : Uuid) (active : Bool) : Alike a { a with
      devices := a.devices.modify id (SubscriptionDevice.setActive active) fun _ => rfl } where
  keys _ := rfl
  devices := map_find?_modify (SubscriptionDevice.setActive active) (fun _ => rfl) fun _ => rfl
  deviceKeys := rfl

theorem Sound.addKey (h : a.Sound n) (hid : row.id < n) (hactive : row.isActive) :
    Sound { a with keys := a.keys.insert row } n :=
  { h with
    keyActive := by
      intro id key hkey
      rcases find?_insert_eq_some hkey with hold | ⟨-, rfl⟩
      · exact h.keyActive id key hold
      · exact hactive
    owner := by
      intro binding hbinding
      obtain ⟨device, key, hdevice, hkey, howner⟩ := h.owner binding hbinding
      exact ⟨device, key, hdevice, find?_insert_of_some hkey, howner⟩
    keyFresh := by
      intro id key hkey
      rcases find?_insert_eq_some hkey with hold | ⟨rfl, -⟩
      · exact h.keyFresh id key hold
      · exact hid }

theorem Sound.addDevice (h : a.Sound n) (hid : row.id < n) :
    Sound { a with devices := a.devices.insert row } n :=
  { h with
    owner := by
      intro binding hbinding
      obtain ⟨device, key, hdevice, hkey, howner⟩ := h.owner binding hbinding
      exact ⟨device, key, find?_insert_of_some hdevice, hkey, howner⟩
    deviceFresh := by
      intro id device hdevice
      rcases find?_insert_eq_some hdevice with hold | ⟨rfl, -⟩
      · exact h.deviceFresh id device hold
      · exact hid }

theorem Sound.bind (h : a.Sound n) (hactive : row.isActive)
    (hdevice : a.devices.find? row.subscriptionDeviceId = some device)
    (hkey : a.keys.find? row.vpnKeyId = some key)
    (howner : key.subscriptionId = some device.subscriptionId)
    (hunbound : ∀ binding ∈ a.deviceKeys.rows, binding.vpnKeyId ≠ row.vpnKeyId)
    (hfree : ∀ binding ∈ a.deviceKeys.rows,
      binding.subscriptionDeviceId = row.subscriptionDeviceId → binding.transport ≠ row.transport) :
    Sound { a with deviceKeys := a.deviceKeys.insert row } n :=
  { h with
    bindingActive := by
      intro binding hbinding
      rcases mem_rows_insert hbinding with hold | rfl
      · exact h.bindingActive binding hold
      · exact hactive
    owner := by
      intro binding hbinding
      rcases mem_rows_insert hbinding with hold | rfl
      · exact h.owner binding hold
      · exact ⟨device, key, hdevice, hkey, howner⟩
    single := by
      intro first hfirst second hsecond hsame
      rcases mem_rows_insert hfirst with hold | rfl <;>
        rcases mem_rows_insert hsecond with hold' | rfl
      · exact h.single first hold second hold' hsame
      · exact absurd hsame (hunbound first hold)
      · exact absurd hsame.symm (hunbound second hold')
      · rfl
    transport := by
      intro first hfirst second hsecond hdev htransport
      rcases mem_rows_insert hfirst with hold | rfl <;>
        rcases mem_rows_insert hsecond with hold' | rfl
      · exact h.transport first hold second hold' hdev htransport
      · exact absurd htransport (hfree first hold hdev)
      · exact absurd htransport.symm (hfree second hold' hdev.symm)
      · rfl }

/-- Every step keeps what the service keeps. -/
theorem Step.sound (hstep : Step strict subscription a n a' m) (h : a.Sound n) : a'.Sound m := by
  cases hstep with
  | draw hle => exact h.later hle
  | unrevoke id => exact h.alike (a.alike_modifyKey id fun _ => ⟨rfl, rfl⟩)
  | extend id => exact h.alike (a.alike_modifyKey id fun _ => ⟨rfl, rfl⟩)
  | switchOn id => exact h.alike (a.alike_modifyDevice id true)
  | addKey _ hid _ hactive => exact h.addKey hid hactive
  | addDevice _ hid => exact h.addDevice hid
  | bind _ hactive hdevice _ hkey howner hunbound hfree =>
    exact h.bind hactive hdevice hkey howner hunbound hfree

/-- A property of the tables that the steps keep. -/
structure Invariant (strict : Prop) (subscription : Uuid) (I : Access → Uuid → Prop) : Prop where
  sound : ∀ {a n}, I a n → a.Sound n
  step : ∀ {a n a' m}, I a n → Step strict subscription a n a' m → I a' m

end Access

/-! ## Triples about access -/

/-- The assertion holds at a point of a request. -/
def At (I : Access → Uuid → Prop) (s : beside.Point) : Prop :=
  I s.db.access s.session.billing.nextUuid

/-- The write leaves the devices, keys and bindings alone. -/
def Write.SparesAccess (w : Write) : Prop :=
  Database.Part.of w ≠ .keys ∧ Database.Part.of w ≠ .devices ∧ Database.Part.of w ≠ .deviceKeys

theorem Write.SparesAccess.access (h : w.SparesAccess) (db : Database) :
    (db.apply w).access = db.access := by
  have hkeys : (db.apply w).keys = db.keys := same_apply h.1
  have hdevices : (db.apply w).devices = db.devices := same_apply h.2.1
  have hbindings : (db.apply w).deviceKeys = db.deviceKeys := same_apply h.2.2
  simp only [Database.access, hkeys, hdevices, hbindings]

theorem nextUuid_le_after (s : beside.Point) :
    s.session.billing.nextUuid ≤ (s.after op).session.billing.nextUuid := by
  cases op with
  | billing op => exact Billing.nextUuid_answer op
  | _ => exact le_refl _

section

variable {α β : Type} {I : Access → Uuid → Prop} {A : beside.Point → Prop}
  {B : β → beside.Point → Prop} {γ : Type}

/-- What every write of a method keeps, and what new ids keep, the method keeps. -/
theorem Triple.ofWrites {I : Database → Uuid → Prop}
    (hp : Writes W p) (hdraw : ∀ db n m, n ≤ m → I db n → I db m)
    (hwrite : ∀ w, W w → ∀ db n, I db n → I (db.apply w) n) :
    Triple (fun s : beside.Point => I s.db s.session.billing.nextUuid) p
      fun _ s => I s.db s.session.billing.nextUuid := by
  refine .frame hp fun op hop s hs => hdraw _ _ _ (nextUuid_le_after s) ?_
  cases op with
  | redis => exact hs
  | _ => exact List.foldlRecOn (motive := (I · _)) _ _ hs fun db h w hw => hwrite w (hop w hw) db _ h

/-- A method that leaves the tables alone keeps every assertion about them. -/
theorem Triple.sparesAccess (hp : Writes Write.SparesAccess p)
    (hdraw : ∀ a n m, n ≤ m → I a n → I a m) : Triple (At I) p fun _ => At I :=
  Triple.ofWrites hp (fun db => hdraw db.access) fun w hw db n h => (hw.access db).symm ▸ h

theorem Triple.select {f : γ → Service β}
    (h : ∀ value, Triple (fun s => A s ∧ query s.db = value) (f value) B) :
    Triple A (select query >>= f) B :=
  fun s hs => h (query s.db) s ⟨hs, rfl⟩

theorem Triple.selectAccess (about : Access → γ)
    (habout : ∀ db, query db = about db.access) {f : γ → Service β}
    (h : ∀ value, Triple (At fun a n => I a n ∧ about a = value) (f value) B) :
    Triple (At I) (Vpn.select query >>= f) B :=
  fun s hs => h (query s.db) s ⟨hs, (habout s.db).symm⟩

/-- A query whose answer does not matter. -/
theorem Triple.read {f : γ → Service β}
    (h : ∀ value, Triple A (f value) B) : Triple A (Vpn.select query >>= f) B :=
  Triple.select fun value => (h value).pre fun _ hs => hs.1

theorem Triple.execute (A' : beside.Point → Prop) {f : Unit → Service β}
    (hwrite : ∀ s, A s → A' { s with db := s.db.apply w }) (h : Triple A' (f ()) B) :
    Triple A (execute w >>= f) B :=
  fun s hs => h { s with db := s.db.apply w } (hwrite s hs)

theorem Triple.uuid4 {f : Uuid → Service β}
    (h : ∀ id, Triple (At fun a n => n = id + 1 ∧ I a id) (f id) B) :
    Triple (At I) (uuid4 >>= f) B :=
  fun s hs => h s.session.billing.nextUuid
    { s with session := { s.session with billing :=
      { s.session.billing with nextUuid := s.session.billing.nextUuid + 1 } } } ⟨rfl, hs⟩

theorem Triple.datetimeNow {f : Time → Service β} (h : ∀ now, Triple A (f now) B) :
    Triple A (datetimeNow >>= f) B :=
  fun s hs => h s.session.billing.now s hs

theorem Triple.scalarOneOrNone {rows : List α} :
    Triple A (scalarOneOrNone rows) fun found s => A s ∧ ∀ row ∈ found, row ∈ rows := by
  unfold Vpn.scalarOneOrNone
  split
  · exact .pure fun s hs => ⟨hs, by simp⟩
  · exact .pure fun s hs => ⟨hs, by simp⟩
  · exact .raise

end

end VpnControl.Vpn
