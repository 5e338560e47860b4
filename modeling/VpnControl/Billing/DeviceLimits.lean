/-
# Device slots within the plan

`_create_device_slot_order` refuses more slots than the plan of the subscription allows.
It looks at the subscription when the order is created. The slots are added when the
order is paid, and a plan order adds slots or carries them to another plan without any
such check. A run in which the check passes at every fulfilment that adds slots or changes
the plan keeps a subscription within its plan.
-/

import VpnControl.Billing.Purchases
import VpnControl.Billing.Scenario

namespace VpnControl.Billing

open Txn Option

section

variable {cfg : Settings} {c : Committed engine} {world : World} {now : Time} {db : Database}
  {order : PaymentOrder} {plan : Plan} {sub sub' : Subscription} {id : Uuid}

/-- `max_allowed` of `_create_device_slot_order`: the slots that the plan leaves. -/
def maxAllowed (plan : Plan) (sub : Subscription) : ℤ :=
  plan.maxDevices - plan.includedDevices - sub.paidDeviceSlots

/-- The devices of a subscription are within its plan, if it has one. -/
def Database.Within (db : Database) (sub : Subscription) : Prop :=
  ∀ plan, sub.planId.bind db.plans.find? = some plan →
    plan.includedDevices + sub.paidDeviceSlots ≤ plan.maxDevices

instance (db : Database) (sub : Subscription) : Decidable (db.Within sub) :=
  inferInstanceAs (Decidable (∀ plan ∈ sub.planId.bind db.plans.find?, _))

def WithinPlan (id : Uuid) (db : Database) : Prop :=
  ∃ sub, db.subscriptions.find? id = some sub ∧ db.Within sub

instance (id : Uuid) (db : Database) : Decidable (WithinPlan id db) :=
  inferInstanceAs (Decidable (∃ sub ∈ db.subscriptions.find? id, db.Within sub))

/-- An order fits the subscription that its fulfilment finds: the slots it adds, or takes
along to another plan, are allowed there. -/
structure SlotsFit (db : Database) (order : PaymentOrder) : Prop where
  slots : ∀ sub plan, order.orderType = .deviceSlots → order.subscriptionId = some sub.id →
    db.subscriptions.find? sub.id = some sub → sub.planId.bind db.plans.find? = some plan →
      order.deviceSlotsQty ≤ maxAllowed plan sub
  purchase : ∀ plan sub planChanged, order.orderType ≠ .deviceSlots →
    order.planId = some plan.id → db.plans.find? plan.id = some plan →
    db.purchaseTarget order.userId plan order = some (sub, planChanged) →
    planChanged = true ∨ 0 < order.deviceSlotsQty → order.deviceSlotsQty ≤ maxAllowed plan sub

/-! ## Steps -/

/-- A subscription that is extended without changing its plan is one of the bought plan. -/
theorem planId_of_purchaseTarget
    (h : db.purchaseTarget user plan order = some (sub, false)) : sub.planId = some plan.id := by
  unfold Database.purchaseTarget at h
  split at h
  · rename_i existing hrenewal
    cases h
    unfold Database.renewalTarget at hrenewal
    split at hrenewal
    · cases hrenewal
    · split at hrenewal
      · cases hrenewal
      · obtain ⟨-, hmatch⟩ := filter_eq_some_iff.mp hrenewal
        exact (of_decide_eq_true hmatch).2
  · split at h
    · rename_i existing hactive
      cases h
      simpa using List.find?_some hactive
    · obtain ⟨existing, hlatest, heq⟩ := map_eq_some_iff.mp h
      obtain ⟨rfl, hsame⟩ := Prod.mk.inj heq
      simpa using hsame

/-- A subscription stays within its plan when an order is fulfilled that fits. -/
theorem SubChange.within (h : SubChange db order now sub sub') (hfits : SlotsFit db order)
    (hsub : db.subscriptions.find? id = some sub) (hwithin : db.Within sub) : db.Within sub' := by
  have hrow : db.subscriptions.find? sub.id = some sub := by
    have hid : sub.id = id := Table.key_of_find? hsub
    rw [hid, hsub]
  cases h with
  | same => exact hwithin
  | slots htype hnamed =>
    intro plan hplan
    have hroom : order.deviceSlotsQty ≤ maxAllowed plan sub :=
      hfits.slots sub plan htype hnamed hrow hplan
    unfold maxAllowed at hroom
    dsimp only
    omega
  | extended plan planChanged htype hplanId hplan htarget =>
    cases planChanged with
    | true =>
      intro newPlan hnew
      obtain rfl : plan = newPlan := mem_unique hplan hnew
      have hroom : order.deviceSlotsQty ≤ maxAllowed plan sub :=
        hfits.purchase plan sub true htype hplanId hplan htarget (Or.inl rfl)
      have hpaid : ((extensionPatch sub true plan order now).set sub).paidDeviceSlots =
          sub.paidDeviceSlots + order.deviceSlotsQty := rfl
      rw [hpaid]
      unfold maxAllowed at hroom
      omega
    | false =>
      have hsame : sub.planId = some plan.id := planId_of_purchaseTarget htarget
      have hold : plan.includedDevices + sub.paidDeviceSlots ≤ plan.maxDevices :=
        hwithin plan (by rw [hsame]; exact hplan)
      intro newPlan hnew
      by_cases hqty : 0 < order.deviceSlotsQty
      · have hroom : order.deviceSlotsQty ≤ maxAllowed plan sub :=
          hfits.purchase plan sub false htype hplanId hplan htarget (Or.inr hqty)
        simp only [extensionPatch, Bool.false_eq_true, if_false, hqty, if_true,
          SubscriptionInternalUpdate.set, none_or, hsame, bind_some] at hnew ⊢
        obtain rfl : plan = newPlan := mem_unique hplan hnew
        unfold maxAllowed at hroom
        dsimp only [getD_some]
        omega
      · simp only [extensionPatch, Bool.false_eq_true, if_false, hqty,
          SubscriptionInternalUpdate.set, none_or, hsame, bind_some] at hnew ⊢
        obtain rfl : plan = newPlan := mem_unique hplan hnew
        exact hold

/-- One order or payment keeps a subscription within its plan. -/
theorem withinPlan_of_slotsFit (hop : op.IsOrdering)
    (hfits : ∀ order, Fulfils cfg world.now c.state op order → SlotsFit c.state order)
    (h : WithinPlan id c.state) : WithinPlan id (op.run cfg world c).2.state := by
  obtain ⟨sub, hsub, hwithin⟩ := h
  obtain ⟨sub', hsub', hchange⟩ := Operation.opChange hop cfg world c hsub
  refine ⟨sub', hsub', ?_⟩
  have hkept : c.state.Within sub' := by
    cases hchange with
    | same => exact hwithin
    | trial => exact hwithin
    | fulfilled order _ hfulfils hchange => exact hchange.within (hfits order hfulfils) hsub hwithin
  unfold Database.Within
  rw [Operation.plans_eq hop]
  exact hkept

/-! ## Runs -/

/-- **Device slots stay within the plan.** In a run of orders and payments in which every
fulfilled order fits, a subscription that is within its plan stays within the plan it then
has. -/
theorem withinPlan_of_eachStep_fits (cfg : Settings) (c : Committed engine)
    (events : List (Operation × World)) (id : Uuid) (hstart : WithinPlan id c.state)
    (hfits : EachStep cfg (fun c op world => op.IsOrdering ∧
      ∀ order, Fulfils cfg world.now c.state op order → SlotsFit c.state order) c events) :
    EachStep cfg (fun c op world => WithinPlan id (op.run cfg world c).2.state) c events :=
  (hfits.invariant (I := fun c => WithinPlan id c.state) hstart fun _ _ _ hwithin hstep =>
    have hnext := withinPlan_of_slotsFit hstep.1 hstep.2 hwithin
    ⟨hnext, hnext⟩).1

/-- `create_order` checks the slots that it adds itself. -/
theorem slotsFit_of_slotOrder (htype : data.orderType = .deviceSlots)
    (h : Fulfils cfg now db (.createOrder data) order) : SlotsFit db order := by
  cases h with
  | paid _ _ _ hpays => cases hpays
  | boughtPlan _ _ _ hplanType => simp [htype] at hplanType
  | boughtSlots _ target plan _ _ _ hasks hsub hrow hplan hlimit =>
    refine ⟨fun sub' plan' _ hnamed hsub' hplan' => ?_, fun _ _ _ hnot => ?_⟩
    · have hid : target.id = sub'.id := mem_unique hsub (hasks.subscriptionId.symm.trans hnamed)
      rw [← hid, hrow] at hsub'
      obtain rfl : target = sub' := some.inj hsub'
      obtain rfl : plan = plan' := mem_unique hplan hplan'
      rw [hasks.deviceSlotsQty]
      exact hlimit
    · exact absurd (hasks.orderType.trans htype) hnot

end

namespace Scenario

/-- Four slots, which is all that the plan allows, from the balance. -/
def fourSlots : OrderCreateIn where
  userId := 1
  provider := .balance
  orderType := .deviceSlots
  deviceSlotsQty := 4
  subscriptionId := some 3

/-- The plan once more, with ten extra devices, from the balance. -/
def tenExtraDevices : OrderCreateIn where
  userId := 1
  planId := some 7
  provider := .balance
  deviceSlotsQty := 10

end Scenario

open Scenario in
theorem withinPlan_of_fourSlots :
    EachStep settings (fun c op world => WithinPlan 3 (op.run settings world c).2.state)
      (subscribed 500) [(.createOrder fourSlots, world)] :=
  withinPlan_of_eachStep_fits settings (subscribed 500) [(.createOrder fourSlots, world)] 3
    (by decide +kernel)
    ⟨⟨Or.inr ⟨fourSlots, rfl⟩, fun _ hfulfils => slotsFit_of_slotOrder rfl hfulfils⟩, trivial⟩

open Scenario in
/-- Extra devices on a plan order are not checked: eleven devices on a plan for five. -/
theorem tenExtraDevices_exceed_plan : WithinPlan 3 (subscribed 1000).state ∧
      ((Operation.run settings (.createOrder tenExtraDevices) world
        (subscribed 1000)).2.state.subscriptions.find? 3).map Subscription.paidDeviceSlots = some 10 ∧
      ¬ WithinPlan 3
        (Operation.run settings (.createOrder tenExtraDevices) world (subscribed 1000)).2.state := by
  decide +kernel

end VpnControl.Billing
