/-
# What a renewal adds

A purchase extends a subscription of the same plan by the days of its period, counted from its
expiry or from now, whichever is later, and creates a subscription for a user who has none.
-/

import VpnControl.Billing.Purchases
import VpnControl.Billing.Scenario

namespace VpnControl.Billing

open Txn
open Table

section

variable {world : World} {s s' : Store} {plan : Plan} {order : PaymentOrder} {user : Uuid}
  {now : Time} {existing : Subscription}

/-- The later of now and the expiry, and the days of the period. -/
def renewedExpiry (existing : Subscription) (order : PaymentOrder) (now : Time) : Time :=
  max now (existing.expiresAt.getD now) + days (periodDays order.months)

/-- The subscription was renewed for the period of the order, and no other one changed. -/
structure Renewed (order : PaymentOrder) (now : Time) (existing : Subscription)
    (before after : Table Subscription) : Prop where
  row : ∃ renewed, after.find? existing.id = some renewed ∧
    renewed.expiresAt = some (renewedExpiry existing order now) ∧ renewed.isActive ∧
    renewed.planId = existing.planId
  later : existing.expiresAt.getD now < renewedExpiry existing order now
  others : ∀ id, id ≠ existing.id → after.find? id = before.find? id

/-- One subscription was created for the order, and no other one changed. -/
def CreatedOne (user : Uuid) (plan : Plan) (order : PaymentOrder) (now : Time)
    (before after : Table Subscription) : Prop :=
  ∃ created, after.rows = before.rows ++ [created] ∧ created.userId = user ∧
    created.planId = some plan.id ∧ created.isActive ∧
    created.expiresAt = some (now + days (periodDays order.months)) ∧
    created.maxDevices = some (plan.includedDevices + order.deviceSlotsQty)

/-- What an extension that keeps the plan stores. -/
theorem set_extensionPatch_same (plan : Plan) (order : PaymentOrder) (now : Time) :
    ((extensionPatch existing false plan order now).set existing).expiresAt =
        some (renewedExpiry existing order now) ∧
      ((extensionPatch existing false plan order now).set existing).isActive ∧
      ((extensionPatch existing false plan order now).set existing).planId = existing.planId := by
  have hexpiry : extendedExpiry existing false order now = renewedExpiry existing order now := by
    unfold extendedExpiry renewedExpiry
    cases existing.expiresAt with
    | none => simp
    | some expiry =>
      by_cases hlate : now < expiry
      · simp [hlate, max_eq_right hlate.le]
      · simp [hlate, max_eq_left (not_lt.mp hlate)]
  by_cases hslots : 0 < order.deviceSlotsQty <;>
    simp [extensionPatch, SubscriptionInternalUpdate.set, hslots, hexpiry]

theorem renewed_of_extendSubscription (hrow : s.db.subscriptions.find? existing.id = some existing)
    (h : direct world (extendSubscription existing false plan order now) s = (.ok (), s')) :
    Renewed order now existing s.db.subscriptions s'.db.subscriptions where
  row := by
    refine ⟨_, ?_, set_extensionPatch_same plan order now⟩
    rw [find?_of_extendSubscription hrow h, if_pos rfl]
  later := by
    have hle : existing.expiresAt.getD now ≤ max now (existing.expiresAt.getD now) :=
      le_max_right _ _
    exact hle.trans_lt (lt_add_of_pos_right _ (days_periodDays_pos order.months))
  others id hid := by rw [find?_of_extendSubscription hrow h, if_neg hid]

/-- A target keeps its plan exactly if it has the plan that is bought. -/
theorem planChanged_of_purchaseTarget {db : Database}
    (h : db.purchaseTarget user plan order = some (existing, planChanged))
    (hplan : existing.planId = some plan.id) : planChanged = false := by
  unfold Database.purchaseTarget at h
  split at h
  · cases h
    rfl
  · split at h
    · cases h
      rfl
    · obtain ⟨latest, -, heq⟩ := Option.map_eq_some_iff.mp h
      cases heq
      simpa using hplan

/-- **What a purchase that the balance covers does to the subscriptions.** It renews a
subscription of the same plan if the keys can be restored. For a user without subscriptions it
creates one if the number of devices is between one and a hundred. -/
theorem autoPurchase_renews_or_creates (world : World) (s : Store) (user : Uuid) (holder : User)
    (plan : Plan) (order : PaymentOrder) (now : Time) (strict : Bool)
    (hholder : s.db.users.find? user = some holder) (hcovers : order.amountRub ≤ holder.balance)
    (hfresh : s.db.freshUuid ≤ s.nextUuid) :
    (∀ existing planChanged, s.db.purchaseTarget user plan order = some (existing, planChanged) →
      existing.planId = some plan.id → world.restore existing.id = .ok () →
      ∃ s', direct world (autoPurchase user plan order now strict) s = (.ok (), s') ∧
        Renewed order now existing s.db.subscriptions s'.db.subscriptions) ∧
    ((∀ sub ∈ s.db.subscriptions.rows, sub.userId ≠ user) →
      1 ≤ plan.includedDevices + order.deviceSlotsQty →
      plan.includedDevices + order.deviceSlotsQty ≤ 100 →
      ∃ s', direct world (autoPurchase user plan order now strict) s = (.ok (), s') ∧
        CreatedOne user plan order now s.db.subscriptions s'.db.subscriptions) := by
  -- the balance covers the purchase, so it delivers with the subscriptions as they are
  obtain ⟨mid, hrun, hsame, hnext⟩ : ∃ mid, direct world (autoPurchase user plan order now strict) s =
        direct world (deliverPlan user plan order now) mid ∧
      mid.db.subscriptions = s.db.subscriptions ∧ s.nextUuid ≤ mid.nextUuid := by
    obtain rfl : holder.id = user := key_of_find? hholder
    obtain ⟨row, hrun⟩ := direct_payFromBalance world hholder hcovers
    exact ⟨_, hrun, rfl, Nat.le_succ _⟩
  have htargets := purchaseTarget_congr hsame user plan order
  rw [hrun]
  simp only [deliverPlan, direct_bind, direct_purchaseTarget, htargets]
  constructor
  · intro existing planChanged htarget hplan hrestore
    obtain rfl := planChanged_of_purchaseTarget htarget hplan
    have hrow := (find?_of_purchaseTarget htarget).2
    rw [← hsame] at hrow ⊢
    obtain ⟨s', hs'⟩ := (direct_extendSubscription hrow).mpr hrestore
    rw [htarget]
    exact ⟨s', hs', renewed_of_extendSubscription hrow hs'⟩
  · intro hnone hlow hhigh
    have htarget : s.db.purchaseTarget user plan order = none := by
      refine Option.eq_none_iff_forall_ne_some.mpr fun target htarget => ?_
      obtain ⟨howner, hrow⟩ := find?_of_purchaseTarget htarget
      exact hnone _ (mem_of_find? hrow) howner
    rw [htarget]
    have hcreates : ∃ s', direct world (createPurchased user plan order now) mid = (.ok (), s') := by
      have hdevices : ¬ (plan.includedDevices + order.deviceSlotsQty ≤ 0 ∨
          100 < plan.includedDevices + order.deviceSlotsQty) := by omega
      simp [createPurchased, createSubscriptionRow, purchasedSubscription, updateOrder, direct_bind,
        hdevices]
    obtain ⟨s', hs'⟩ := hcreates
    refine ⟨s', hs', (purchasedSubscription user plan order now).row mid.nextUuid, ?_,
      rfl, rfl, rfl, rfl, rfl⟩
    have hid : s.db.subscriptions.find? mid.nextUuid = none :=
      find?_subscription_of_fresh (hfresh.trans hnext)
    rw [find?_of_createPurchased hs', hsame, rows_insert hid]

end

open Scenario in
/-- The running plan is renewed, and the first plan of a user is created. -/
theorem autoPurchase_renews_or_creates_pendingOrder :
    (∃ s', direct world (autoPurchase 1 plan pendingOrder 0 true) ⟨(subscribed 500).state, 4⟩ =
        (.ok (), s') ∧
      Renewed pendingOrder 0 running (subscribed 500).state.subscriptions s'.db.subscriptions) ∧
    ∃ s', direct world (autoPurchase 1 plan pendingOrder 0 true) ⟨database 500, 4⟩ = (.ok (), s') ∧
      CreatedOne 1 plan pendingOrder 0 (database 500).subscriptions s'.db.subscriptions :=
  ⟨(autoPurchase_renews_or_creates world ⟨(subscribed 500).state, 4⟩ 1 ⟨1, 500⟩ plan pendingOrder 0
      true rfl (by decide +kernel) (by decide)).1 running false (by decide +kernel) rfl rfl,
    (autoPurchase_renews_or_creates world ⟨database 500, 4⟩ 1 ⟨1, 500⟩ plan pendingOrder 0 true rfl
      (by decide +kernel) (by decide)).2 (by decide) (by decide) (by decide)⟩

open Scenario in
/-- A user without subscriptions pays for a plan with a hundred devices more than the one it
includes. No subscription can be created. -/
theorem autoPurchase_creates_nothing : (∀ sub ∈ (database 500).subscriptions.rows, sub.userId ≠ 1) ∧
      (direct world (autoPurchase 1 plan { pendingOrder with deviceSlotsQty := 100 } 0 true)
        ⟨database 500, 4⟩).1 = .error .validationError :=
  ⟨by decide, by decide +kernel⟩

end VpnControl.Billing
