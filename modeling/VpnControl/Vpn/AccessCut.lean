/-
# Refunding and closing

Two services close a subscription. `SubscriptionService.deactivate` marks it inactive, revokes
the keys of its devices, moves their placements to the state inactive and tells the nodes.
`BillingService.refund_order` marks it inactive and stops there. The two leave the same keys,
placements and commands behind exactly when there was nothing left to do for `deactivate`.
-/

import VpnControl.Billing.OrderSteps
import VpnControl.Vpn.Evaluation
import VpnControl.Vpn.Scenario

namespace VpnControl.Vpn

open Txn Shared List Database UserPlacement VpnKey
open Billing (Uuid Time)
open Table Billing

section

variable {s : beside.Point} {db : Database} {key : VpnKey} {now : Time} {id : Uuid} {db : Database}

/-! ## One turn of the loop of `deactivate` -/

namespace Database

variable (db : Database)

/-- The commands that `enqueue_for_key_state` writes for the inactive placements of a key. -/
def inactiveCommands (key : Uuid) : List NodeTransportOutbox :=
  (db.transportRows (db.activePlacementIds key .inactive)).flatMap (placementCommands db)

/-- The tables after `_set_placement_desired_state` with the state inactive. -/
def setInactive (key : Uuid) (reason : String) (now : Time) : Database :=
  let redirected := db.apply (.setDesiredState key .inactive reason now)
  redirected.apply (.enqueueMany (redirected.inactiveCommands key))

/-- The tables after the turn of a key. -/
def cutKey (now : Time) (db : Database) (key : VpnKey) : Database :=
  let revoked := if key.isRevoked then db else db.apply (.setRevoked key.id true)
  revoked.setInactive key.id "subscription_deactivate" now

/-- Nothing is left to do for a key: it is revoked, none of its placements would be changed,
and the commands for the inactive ones have been enqueued. -/
def KeyCut (key : VpnKey) : Prop :=
  key.isRevoked = true ∧ (∀ placement ∈ db.placements.rows, ¬ db.redirects key.id .inactive placement) ∧
    ∀ command ∈ db.inactiveCommands key.id, db.outbox.find? command.messageId ≠ none

instance (db : Database) (key : VpnKey) : Decidable (db.KeyCut key) :=
  inferInstanceAs (Decidable (_ ∧ _ ∧ _))

/-- How far keys have been revoked, placements moved and commands enqueued. It never falls
back. -/
def progress : ℕ :=
  db.keys.rows.countP VpnKey.isRevoked + (db.placements.rows.map UserPlacement.opVersion).sum +
    db.outbox.rows.length

end Database

/-- A step of a repair: either it was idle and changed nothing, or it made progress. -/
def Advances (first second : Database) (idle : Prop) : Prop :=
  (second = first ∧ idle) ∨ (first.progress < second.progress ∧ ¬ idle)

/-- Two steps are idle when both would be idle at the start. -/
theorem Advances.trans {Q : Database → Prop}
    (h : Advances first second P) (h' : Advances second third (Q second)) :
    Advances first third (P ∧ Q first) := by
  rcases h with ⟨rfl, hidle⟩ | ⟨hlt, hbusy⟩
  · rcases h' with ⟨hself, hidle'⟩ | ⟨hlt, hbusy⟩
    · exact .inl ⟨hself, hidle, hidle'⟩
    · exact .inr ⟨hlt, fun hboth => hbusy hboth.2⟩
  · refine .inr ⟨?_, fun hboth => hbusy hboth.1⟩
    rcases h' with ⟨rfl, -⟩ | ⟨hlt', -⟩
    · exact hlt
    · exact hlt.trans hlt'

theorem advances_enqueueMany : Advances db (db.apply (.enqueueMany items))
      (∀ item ∈ items, db.outbox.find? item.messageId ≠ none) := by
  by_cases hidle : items.foldl Table.insert db.outbox = db.outbox
  · refine .inl ⟨?_, foldl_insert_eq_self_iff.mp hidle⟩
    rw [apply, hidle]
  · refine .inr ⟨?_, fun hall => hidle (foldl_insert_eq_self_iff.mpr hall)⟩
    have hlt := (foldl_insert_eq_self_or_lt items db.outbox).resolve_left hidle
    exact Nat.add_lt_add_left hlt _

theorem sum_opVersion_redirect (placements : List UserPlacement) (changed : UserPlacement → Bool)
    (desired : PlacementDesiredState) (reason : String) (now : Time) :
    ((placements.map fun placement => if changed placement then
        placement.redirect desired reason now else placement).map opVersion).sum =
      (placements.map opVersion).sum + placements.countP changed := by
  induction placements with
  | nil => rfl
  | cons placement _ ih =>
    simp only [map_cons, sum_cons, countP_cons, ih]
    by_cases h : changed placement
    · simp only [h, if_true, redirect]
      omega
    · rw [if_neg h, if_neg h]
      omega

theorem advances_setDesiredState (db : Database) (id : Uuid) (desired : PlacementDesiredState)
    (reason : String) (now : Time) :
    Advances db (db.apply (.setDesiredState id desired reason now))
      (∀ placement ∈ db.placements.rows, ¬ db.redirects id desired placement) := by
  have hrows : (db.apply (.setDesiredState id desired reason now)).placements.rows =
      db.placements.rows.map fun placement => if db.redirects id desired placement then
        placement.redirect desired reason now else placement := rfl
  by_cases hidle : ∀ placement ∈ db.placements.rows, ¬ db.redirects id desired placement
  · have hsame : (db.apply (.setDesiredState id desired reason now)).placements =
        db.placements := by
      refine ext_rows (hrows.trans ?_)
      refine (map_congr_left fun placement hmem => if_neg (hidle placement hmem)).trans ?_
      exact map_id' _
    exact .inl ⟨congrArg (fun placements => { db with placements := placements }) hsame, hidle⟩
  · refine .inr ⟨?_, hidle⟩
    have hcount : db.placements.rows.countP (db.redirects id desired) ≠ 0 := fun hzero =>
      hidle (countP_eq_zero.mp hzero)
    have hsum := sum_opVersion_redirect db.placements.rows (db.redirects id desired) desired
      reason now
    rw [← hrows] at hsum
    exact Nat.add_lt_add_right (Nat.add_lt_add_left (by omega) _) _

theorem advances_revoke (hfound : db.keys.find? key.id = some key) :
    Advances db (if key.isRevoked then db else db.apply (.setRevoked key.id true))
      (key.isRevoked = true) := by
  cases hkey : key.isRevoked with
  | true => exact .inl ⟨rfl, rfl⟩
  | false =>
    refine .inr ⟨?_, nofun⟩
    have hcount : (db.apply (.setRevoked key.id true)).keys.rows.countP isRevoked + _ =
        db.keys.rows.countP isRevoked + _ :=
      countP_modify (setRevoked true) (fun _ => rfl) hfound isRevoked
    have hone : db.keys.rows.countP isRevoked <
        (db.apply (.setRevoked key.id true)).keys.rows.countP isRevoked := by
      simp only [hkey, setRevoked] at hcount
      simp at hcount
      omega
    exact Nat.add_lt_add_right (Nat.add_lt_add_right hone _) _

/-- The turn of a key is idle exactly when nothing is left to do for the key. -/
theorem advances_cutKey (now : Time) (hfound : db.keys.find? key.id = some key) :
    Advances db (db.cutKey now key) (db.KeyCut key) := by
  let revoked := if key.isRevoked then db else db.apply (.setRevoked key.id true)
  let redirected := revoked.apply (.setDesiredState key.id .inactive "subscription_deactivate" now)
  have hredirected := advances_setDesiredState revoked key.id .inactive "subscription_deactivate" now
  have hcut : Advances redirected (db.cutKey now key) _ := advances_enqueueMany
  have hlast := hredirected.trans (Q := fun db => ∀ command ∈ db.inactiveCommands key.id,
    db.outbox.find? command.messageId ≠ none) hcut
  exact (advances_revoke hfound).trans (Q := fun db =>
    (∀ placement ∈ db.placements.rows, ¬ db.redirects key.id .inactive placement) ∧
      ∀ command ∈ db.inactiveCommands key.id, db.outbox.find? command.messageId ≠ none) hlast

/-- The turn of a key leaves the other keys alone. -/
theorem find?_cutKey (hne : id ≠ key.id) :
    (db.cutKey now key).keys.find? id = db.keys.find? id := by
  have hkeys : (db.cutKey now key).keys =
      (if key.isRevoked then db else db.apply (.setRevoked key.id true)).keys := rfl
  rw [hkeys]
  split
  · rfl
  · exact Table.find?_modify_of_ne (setRevoked true) (fun _ => rfl) hne

/-- The loop is idle exactly when nothing is left to do for any key. -/
theorem advances_cutKeys {keys : List VpnKey} (hnodup : (keys.map VpnKey.id).Nodup)
    (hfound : ∀ key ∈ keys, db.keys.find? key.id = some key) :
    Advances db (keys.foldl (cutKey now) db) (∀ key ∈ keys, db.KeyCut key) := by
  induction keys generalizing db with
  | nil => exact .inl ⟨rfl, by simp⟩
  | cons key rest ih =>
    obtain ⟨hnot, hrest⟩ := nodup_cons.mp hnodup
    have hfirst := advances_cutKey now (hfound key (by simp))
    have hothers : ∀ other ∈ rest, (db.cutKey now key).keys.find? other.id = some other := by
      intro other hother
      rw [find?_cutKey fun heq => hnot (heq ▸ mem_map.mpr ⟨other, hother, rfl⟩)]
      exact hfound other (by simp [hother])
    have hboth := hfirst.trans (Q := fun db => ∀ key ∈ rest, db.KeyCut key) (ih hrest hothers)
    simpa using hboth

/-! ## What the loop leaves -/

section

variable (db : Database) (now : Time) (key : VpnKey)

end

/-! ## The two requests -/

def Database.boundKeys (db : Database) (subscription : Uuid) : List VpnKey :=
  (db.keyIdsForSubscription subscription).filterMap db.keys.find?

/-- Nothing is left to do for the keys of a subscription. -/
def Database.AccessCut (db : Database) (subscription : Uuid) : Prop :=
  ∀ key ∈ db.boundKeys subscription, db.KeyCut key

instance (db : Database) (subscription : Uuid) : Decidable (db.AccessCut subscription) :=
  inferInstanceAs (Decidable (∀ key ∈ db.boundKeys subscription, db.KeyCut key))

theorem run_setPlacementDesiredState (f : Unit → Service β) :
    run (setPlacementDesiredState id .inactive reason >>= f) s =
      run (f ()) { s with db := s.db.setInactive id reason s.session.billing.now } := by
  simp only [setPlacementDesiredState, enqueueForKeyState, enqueueForPlacementIds, bind_assoc,
    run_datetimeNow, run_execute, run_select]
  split
  · rename_i hrows
    have hnone : (s.db.apply (.setDesiredState id .inactive reason
        s.session.billing.now)).inactiveCommands id = [] := by
      rw [inactiveCommands, hrows, flatMap_nil]
    rw [pure_bind, setInactive, hnone]
    rfl
  · rw [bind_assoc, run_select, run_execute]
    rfl

theorem run_revokeKey (f : Unit → Service β) : run (revokeKey key >>= f) s = run (f ()) { s with
      db := (if key.isRevoked then s.db else s.db.apply (.setRevoked key.id true)) } := by
  unfold revokeKey
  split <;> rfl

/-- The keys of the ids, as far as they have been loaded. -/
def foundKeys (loaded : List VpnKey) (ids : List Uuid) : List VpnKey :=
  ids.filterMap fun id => loaded.find? fun key => key.id = id

theorem run_deactivateKeys (s : beside.Point) :
    run (deactivateKeys loaded ids) s = (.ok (foundKeys loaded ids).length,
      { s with db := (foundKeys loaded ids).foldl (cutKey s.session.billing.now) s.db }) := by
  induction ids generalizing s with
  | nil => rfl
  | cons id _ ih =>
    unfold deactivateKeys
    cases hfound : loaded.find? fun key => key.id = id with
    | none =>
      simp only [foundKeys, filterMap_cons, hfound]
      exact ih s
    | some key =>
      have hid : key.id = id := by simpa using find?_some hfound
      have hrest := fun s => ih s
      simp only [foundKeys, filterMap_cons, hfound, foldl_cons, length_cons]
      rw [run_revokeKey, run_setPlacementDesiredState, run_bind, hrest, ← hid]
      rfl

/-- The loop goes over the keys that are bound. -/
theorem foundKeys_keysByIds (db : Database) :
    foundKeys (db.keysByIds ids) ids = ids.filterMap db.keys.find? := by
  refine filterMap_congr fun id hid => ?_
  exact db.find?_keysByIds hid

/-- The tables after the subscription has been marked inactive. -/
def Database.markInactive (db : Database) (subscription : Uuid) : Database :=
  db.apply (.billing (.updateSubscription subscription { isActive := some false }))

/-- `deactivate` marks the subscription inactive and goes over the bound keys. -/
theorem request_deactivate (h : request (deactivate sub) s = (.ok processed, closed, cache)) :
    closed = (s.db.boundKeys sub).foldl (cutKey s.session.billing.now) (s.db.markInactive sub) := by
  unfold Shared.request deactivate getSubscription at h
  rw [run_select] at h
  cases hrow : s.db.subscription? sub with
  | none => simp [hrow] at h
  | some row =>
    have hid : row.id = sub := id_of_subscription? hrow
    obtain ⟨store, hrun⟩ := run_invalidate row.tokenHash (fun _ => do
      let keyIds ← select (·.keyIdsForSubscription row.id)
      let loaded ← select (·.keysByIds keyIds)
      deactivateKeys loaded keyIds) { s with db := s.db.markInactive row.id }
    simp only [hrow, run_execute] at h
    rw [markInactive] at hrun
    rw [hrun, run_select, run_select, run_deactivateKeys, foundKeys_keysByIds] at h
    simp only [Prod.mk.injEq] at h
    rw [← h.2.1, hid]
    rfl

theorem outcome_refundOrder_deactivating :
    Outcome S t (Billing.refundOrder id reason true) fun _ ws => ∃ order row,
      Billing.Saw S t.writes (fun db => db.orders.find? id = some order) ∧
      ∀ sub, order.subscriptionId = some sub → ws = Billing.posting row ++
        [.updateOrder order.id { status := some .refunded },
          .updateSubscription sub { isActive := some false }] := by
  refine outcome_lockOrder (fun mid _ => .raise) fun order mid _ hseen => ?_
  dsimp only
  unfold Billing.refundLocked
  split
  · exact .raise
  refine outcome_lockUser (fun mid _ => .raise) fun user mid _ => ?_
  refine outcome_post fun row mid' _ _ _ _ => outcome_execute fun c hc => ?_
  unfold Billing.deactivateRefunded
  cases hsub : order.subscriptionId with
  | none => exact .ret ⟨order, row, hseen, by simp [hsub]⟩
  | some =>
    refine outcome_execute_last ⟨order, row, hseen, ?_⟩
    intro other hother
    obtain rfl := Option.mem_unique hsub hother
    rfl

/-- A refund marks the subscription of the order inactive and leaves the tables behind VPN
access alone. -/
theorem request_refundOrder (horder : s.db.billing.orders.find? order.id = some order)
    (hsub : order.subscriptionId = some sub)
    (h : request (ofBilling (Billing.refundOrder order.id reason true)) s =
      (.ok (), refunded, cache)) :
    refunded.billing.subscriptions = (s.db.markInactive sub).billing.subscriptions ∧
      refunded = { s.db with billing := refunded.billing } := by
  obtain ⟨c, hrequest, rfl⟩ := request_ofBilling h
  refine ⟨?_, rfl⟩
  have hwrites : Outcome (· = (⟨s.db.billing, []⟩ : Committed Billing.engine))
    (Tx.start s.session.billing) (Billing.refundOrder order.id reason true) _ :=
    outcome_refundOrder_deactivating
  rcases hwrites.request with
    ⟨value, ws, hok, found, row, ⟨c', rfl, hfound⟩, hws⟩ | ⟨error, herror⟩
  · obtain rfl := Option.mem_unique horder hfound
    obtain rfl : c = _ := congrArg Prod.snd (hrequest.symm.trans hok)
    rw [hws sub hsub]
    rfl
  · cases hrequest.symm.trans herror

/-! ## When a refund cuts access -/

/-- The subscriptions, keys, placements and commands of two databases are the same. -/
structure SameAccess (first second : Database) : Prop where
  subscriptions : first.billing.subscriptions = second.billing.subscriptions
  keys : first.keys = second.keys
  placements : first.placements = second.placements
  outbox : first.outbox = second.outbox

theorem SameAccess.progress (h : SameAccess first second) : first.progress = second.progress := by
  rw [Database.progress, h.keys, h.placements, h.outbox, ← Database.progress]

/-- A refund leaves the state that `deactivate` would leave exactly when every key bound to a
device of the subscription was revoked, its placements were inactive and the nodes had been
told, before the refund. -/
theorem refund_cuts_access_iff {s s' : beside.Point} (hsame : s'.db = s.db)
    {order : Billing.PaymentOrder} {sub : Uuid} {reason : String} {processed : ℕ}
    {refunded closed : Database} {cache cache' : Cache}
    (horder : s.db.billing.orders.find? order.id = some order)
    (hsub : order.subscriptionId = some sub)
    (hrefund : request (ofBilling (Billing.refundOrder order.id reason true)) s =
      (.ok (), refunded, cache))
    (hclose : request (deactivate sub) s' = (.ok processed, closed, cache')) :
    SameAccess refunded closed ↔ s.db.AccessCut sub := by
  obtain ⟨hsubscriptions, htables⟩ := request_refundOrder horder hsub hrefund
  have hclosed := request_deactivate hclose
  rw [hsame] at hclosed
  have hadvances : Advances (s.db.markInactive sub) closed (s.db.AccessCut sub) := by
    rw [hclosed]
    refine advances_cutKeys (s.db.keys.map_key_filterMap_find?.nodup (List.nodup_dedup _)) ?_
    intro key hkey
    obtain ⟨id, -, hfound⟩ := List.mem_filterMap.mp hkey
    obtain rfl := key_of_find? hfound
    exact hfound
  have hmarked : SameAccess refunded (s.db.markInactive sub) := by
    refine ⟨hsubscriptions, ?_, ?_, ?_⟩ <;> rw [htables] <;> rfl
  rcases hadvances with ⟨rfl, hcut⟩ | ⟨hlt, hopen⟩
  · exact ⟨fun _ => hcut, fun _ => hmarked⟩
  · refine ⟨fun hsame => ?_, fun hcut => absurd hcut hopen⟩
    exact absurd (hmarked.progress.symm.trans hsame.progress) hlt.ne

end

open Scenario in
/-- The refund leaves the key valid, its placement active and the nodes uninformed; `deactivate`
revokes the key, moves the placement and enqueues the command. -/
theorem refund_leaves_access : ∃ refunded closed cache cache',
      request (ofBilling (Billing.refundOrder completedOrder.id "reason" true))
        (point (access false)) = (.ok (), refunded, cache) ∧
      request (deactivate Billing.Scenario.running.id) (point (access false)) =
        (.ok 1, closed, cache') ∧
      refunded.keys.rows = [deviceKey false] ∧
      refunded.placements.rows = [placement .active] ∧ refunded.outbox.rows = [] ∧
      closed.keys.rows = [deviceKey true] ∧
      closed.placements.rows.map UserPlacement.desiredState = [.inactive] ∧
      closed.outbox.rows.map (fun command => command.payload.desiredState) = [.inactive] := by
  refine ⟨_, _, _, _, rfl, rfl, ?_⟩
  decide +kernel

open Scenario in
/-- A key that was cut off before. -/
theorem refund_cuts_access_iff_cut :
    (access true).AccessCut Billing.Scenario.running.id ∧ ∃ refunded closed,
      SameAccess refunded closed ∧
      (∃ cache, request (ofBilling (Billing.refundOrder completedOrder.id "reason" true))
        (point (access true)) = (.ok (), refunded, cache)) ∧
      ∃ cache, request (deactivate Billing.Scenario.running.id) (point (access true)) =
        (.ok 1, closed, cache) := by
  have hcut : (access true).AccessCut Billing.Scenario.running.id := by decide +kernel
  have horder : (access true).billing.orders.find? completedOrder.id = some completedOrder := by
    rfl
  refine ⟨hcut, _, _, ?_, ⟨_, rfl⟩, ⟨_, rfl⟩⟩
  exact (refund_cuts_access_iff (s := point (access true)) rfl horder rfl rfl rfl).mpr hcut

end VpnControl.Vpn
