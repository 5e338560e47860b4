/-
# Delivering what was paid for

The part of `BillingService` that turns a debit into a subscription: extending or
creating one for a plan, and adding device slots to one. Both lock the user row
first and debit the balance it shows.
-/

import VpnControl.Billing.Repositories

namespace VpnControl.Billing

open Txn

/-! ## Subscriptions -/

/-- `SubscriptionInternalCreate`. -/
structure SubscriptionInternalCreate where
  userId : Uuid
  planId : Option Uuid := none
  isActive : Bool := true
  expiresAt : Option Time := none
  maxDevices : Option ℤ := none
  paidDeviceSlots : ℤ := 0
  periodMonths : ℤ := 1
  deriving DecidableEq, Repr

/-- The row of a new subscription. -/
def SubscriptionInternalCreate.row (data : SubscriptionInternalCreate) (id : Uuid) :
    Subscription where
  id := id
  userId := data.userId
  planId := data.planId
  isActive := data.isActive
  expiresAt := data.expiresAt
  maxDevices := data.maxDevices
  paidDeviceSlots := data.paidDeviceSlots
  periodMonths := data.periodMonths
  autoRenew := false

/-- `SubscriptionRepository.create`. The schema bounds the number of devices. -/
def createSubscriptionRow (data : SubscriptionInternalCreate) : Service Subscription :=
  if data.maxDevices.any fun n => n ≤ 0 ∨ 100 < n then raise .validationError
  else do
    let id ← uuid4
    execute (.insertSubscription (data.row id))
    pure (data.row id)

/-- `SubscriptionService.activate`. -/
def activate (subscription : Uuid) : Service Unit := do
  match ← getSubscription subscription with
  | none => raise (.subscriptionNotFound subscription)
  | some sub => do
      updateSubscription sub.id { isActive := some true }
      match ← restoreKeys sub.id with
      | .error error => raise error
      | .ok () => pure ()

/-! ## Plans -/

/-- `order.period_months or 1`. -/
def PaymentOrder.months (order : PaymentOrder) : ℤ :=
  if order.periodMonths = 0 then 1 else order.periodMonths

variable (user : Uuid)

variable (plan : Plan)

/-- The subscription a renewal names, if it is one of this user and plan. -/
def renewalTarget (order : PaymentOrder) :
    Service (Option Subscription) :=
  match order.subscriptionId with
  | none => pure none
  | some id =>
    if order.orderType ≠ .subscriptionRenewal then pure none
    else do
      match ← getSubscription id with
      | none => pure none
      | some existing =>
        if existing.userId ≠ user ∨ existing.planId ≠ some plan.id then pure none
        else pure (some existing)

/-- The subscription a purchase extends, and whether that changes its plan. -/
def purchaseTarget (order : PaymentOrder) :
    Service (Option (Subscription × Bool)) := do
  match ← renewalTarget user plan order with
  | some existing => pure (some (existing, false))
  | none => do
      match ← select (·.activeSubscriptionForPlan user plan.id) with
      | some existing => pure (some (existing, false))
      | none => do
          match ← select (·.latestSubscription user) with
          | some existing => pure (some (existing, decide (existing.planId ≠ some plan.id)))
          | none => pure none

variable (existing : Subscription)

variable (planChanged : Bool)

/-- When an extended subscription ends. -/
def extendedExpiry (order : PaymentOrder)
    (now : Time) : Time :=
  let base := if planChanged then now else
    match existing.expiresAt with
    | some expiry => if now < expiry then expiry else now
    | none => now
  base + days (periodDays order.months)

/-- The columns an extension sets. -/
def extensionPatch (plan : Plan)
    (order : PaymentOrder) (now : Time) : SubscriptionInternalUpdate :=
  let patch : SubscriptionInternalUpdate :=
    { expiresAt := some (extendedExpiry existing planChanged order now)
      isActive := some true
      periodMonths := some order.months }
  let paid := existing.paidDeviceSlots + order.deviceSlotsQty
  if planChanged then
    { patch with
      planId := some plan.id
      paidDeviceSlots := some paid
      maxDevices := some (plan.includedDevices + paid) }
  else if 0 < order.deviceSlotsQty then { patch with paidDeviceSlots := some paid }
  else patch

/-- The extending branch of `_auto_purchase`. -/
def extendSubscription (plan : Plan)
    (order : PaymentOrder) (now : Time) : Service Unit := do
  updateSubscription existing.id (extensionPatch existing planChanged plan order now)
  updateOrder order.id { subscriptionId := some existing.id }
  activate existing.id

def purchasedSubscription (order : PaymentOrder) (now : Time) :
    SubscriptionInternalCreate where
  userId := user
  planId := some plan.id
  expiresAt := some (now + days (periodDays order.months))
  maxDevices := some (plan.includedDevices + order.deviceSlotsQty)
  paidDeviceSlots := order.deviceSlotsQty
  periodMonths := order.months

/-- The creating branch of `_auto_purchase`. -/
def createPurchased (order : PaymentOrder) (now : Time) :
    Service Unit := do
  let sub ← createSubscriptionRow (purchasedSubscription user plan order now)
  updateOrder order.id { subscriptionId := some sub.id }

/-- Extend the target of the purchase, or create a subscription. -/
def deliverPlan (order : PaymentOrder) (now : Time) : Service Unit := do
  match ← purchaseTarget user plan order with
  | some (existing, planChanged) => extendSubscription existing planChanged plan order now
  | none => createPurchased user plan order now

/-- The text of a purchase in the ledger. -/
def purchaseDescription (order : PaymentOrder) : String :=
  let text := s!"Purchase plan: {plan.name}"
  if 0 < order.deviceSlotsQty then text ++ s!" + {order.deviceSlotsQty} device slot(s)" else text

/-- What a purchase does when the balance does not cover it. -/
def insufficientBalance (strictBalance : Bool) : Service Unit :=
  if strictBalance then raise (.insufficientBalance "Insufficient balance") else pure ()

/-- What `_auto_purchase` and `_fulfill_device_slots` have in common: lock the user,
debit the price of the order if the balance covers it, and deliver. -/
def payFromBalance (order : PaymentOrder) (type : TransactionType)
    (description : String) (strictBalance : Bool) (deliver : Uuid → Service Unit) :
    Service Unit := do
  match ← lockUser user with
  | none => insufficientBalance strictBalance
  | some user =>
    if user.balance < order.amountRub then insufficientBalance strictBalance
    else do
      updateUserBalance user.id (user.balance - order.amountRub)
      recordTransaction user.id (-order.amountRub) (user.balance - order.amountRub) type
        (some order.id) (some description)
      deliver user.id

/-- `BillingService._auto_purchase`. -/
def autoPurchase (order : PaymentOrder) (now : Time)
    (strictBalance : Bool) : Service Unit :=
  payFromBalance user order .purchase (purchaseDescription plan order) strictBalance
    fun user => deliverPlan user plan order now

/-- `BillingService._auto_purchase_free`. -/
def autoPurchaseFree (order : PaymentOrder) (now : Time) :
    Service Unit := do
  match ← select (·.activeSubscriptionForPlan user plan.id) with
  | some existing => do
      updateSubscription existing.id
        { expiresAt := some (existing.expiresAt.getD now + days plan.durationDays)
          isActive := some true }
      updateOrder order.id { subscriptionId := some existing.id }
  | none => do
      let sub ← createSubscriptionRow
        { userId := user
          planId := some plan.id
          expiresAt := some (now + days plan.durationDays)
          maxDevices := some plan.includedDevices }
      updateOrder order.id { subscriptionId := some sub.id }

/-! ## Device slots -/

def addDeviceSlots (order : PaymentOrder) : Service Unit :=
  match order.subscriptionId with
  | none => pure ()
  | some id => do
      match ← getSubscription id with
      | none => pure ()
      | some sub =>
        updateSubscription sub.id
          { paidDeviceSlots := some (sub.paidDeviceSlots + order.deviceSlotsQty) }

/-- `BillingService._fulfill_device_slots`. -/
def fulfillDeviceSlots (order : PaymentOrder) (strictBalance : Bool) : Service Unit :=
  payFromBalance user order .deviceSlotPurchase
    s!"Purchase {order.deviceSlotsQty} device slot(s)" strictBalance
    fun _ => addDeviceSlots order

end VpnControl.Billing
