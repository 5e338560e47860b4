/-
# Repositories

The calls the services make on their session: the clock, the SELECTs of the
repositories and the row creations and updates. Where SQL leaves the order of a
result open, rows come in the order they were inserted.
-/

import Mathlib.Data.List.MinMax
import Mathlib.Data.List.Sort
import VpnControl.Billing.Statements

namespace VpnControl.Billing

open Txn

variable {α : Type}

/-! ## Single statements -/

def raise (error : BillingError) : Service α := Program.raise error

def datetimeNow : Service Time := Program.perform (S := engine.toSignature) .now

def uuid4 : Service Uuid := Program.perform (S := engine.toSignature) .uuid4

def select (query : Database → α) : Service α :=
  Program.perform (S := engine.toSignature) (.query α query)

def execute (w : Write) : Service Unit := Program.perform (S := engine.toSignature) (.write w)

variable (id : Uuid)

/-- `UserRepository.get_by_id`. -/
def getUser : Service (Option User) :=
  Program.perform (S := engine.toSignature) (.getUser id)

/-- `BillingService._lock_user`. -/
def lockUser : Service (Option User) :=
  Program.perform (S := engine.toSignature) (.lockUser id)

/-- `OrderRepository.get_by_id_for_update` and `get_by_external_id_for_update`. -/
def lockOrder (ref : OrderRef) : Service (Option PaymentOrder) :=
  Program.perform (S := engine.toSignature) (.lockOrder ref)

def createPayment (request : PaymentRequest) : Service (Except BillingError String) :=
  Program.perform (S := engine.toSignature) (.createPayment request)

def restoreKeys (subscription : Uuid) : Service (Except BillingError Unit) :=
  Program.perform (S := engine.toSignature) (.restoreKeys subscription)

/-- `Result.scalar_one_or_none`. -/
def scalarOneOrNone : List α → Service (Option α)
  | [] => pure none
  | [row] => pure (some row)
  | _ => raise .multipleResultsFound

/-! ## Queries -/

/-- The first of the rows with the greatest time. The order of the times is named, so that the
definition computes wherever it is read. -/
abbrev latestBy (time : α → Time) (rows : List α) : Option α :=
  @List.argmax α Time Int.instLinearOrder.toPartialOrder.toPreorder (fun a b => Int.decLt a b) time rows

namespace Database

variable (db : Database)

variable (user : Uuid)

/-- `SubscriptionRepository.list_by_user_id(user_id, active_only=True)`. -/
def activeSubscriptions : List Subscription :=
  db.subscriptions.rows.filter fun sub => sub.userId = user ∧ sub.isActive

/-- `SubscriptionRepository.get_latest_for_user`. -/
def latestSubscription : Option Subscription :=
  latestBy (fun sub => sub.expiresAt.getD 0) (db.subscriptions.rows.filter fun sub =>
    sub.userId = user ∧ sub.expiresAt.isSome)

/-- `BillingService._find_active_subscription_for_plan`. -/
def activeSubscriptionForPlan (user plan : Uuid) : Option Subscription :=
  (db.activeSubscriptions user).find? fun sub => sub.planId = some plan

variable (now : Time)

/-- The subscription has no end or has not reached it. -/
def live (sub : Subscription) : Bool :=
  match sub.expiresAt with
  | none => true
  | some expiry => expiry > now

/-- `BillingService._has_live_subscription`. -/
def hasLiveSubscription : Bool :=
  (db.activeSubscriptions user).any (live now)

/-- `BillingService._current_active_subscription`. -/
def currentActiveSubscription : Option Subscription :=
  latestBy (fun sub => sub.expiresAt.getD now) ((db.activeSubscriptions user).filter (live now))

/-- `OrderRepository.has_completed_order_for_plan`. -/
def hasCompletedOrderForPlan (user plan : Uuid) : Bool :=
  db.orders.rows.any fun order =>
    order.userId = user ∧ order.planId = some plan ∧ order.status ∈ [.paid, .completed]

/-- `OrderRepository.has_completed_paid_order`. -/
def hasCompletedPaidOrder : Bool :=
  db.orders.rows.any fun order =>
    order.userId = user ∧ order.status ∈ [.paid, .completed] ∧ 0 < order.amountRub

/-- `OrderRepository.get_last_paid_for_user`. -/
def lastPaidOrder : Option PaymentOrder :=
  latestBy PaymentOrder.createdAt (db.orders.rows.filter fun order =>
    order.userId = user ∧ order.status = .paid)

/-- `PromoCodeRepository.get_by_code`, all matches. -/
def promosByCode (code : String) : List PromoCode :=
  db.promoCodes.rows.filter fun promo => promo.code.toUpper = code.toUpper

/-- `PromoActivationRepository.count_for_user`. -/
def activationCount (promo user : Uuid) : ℕ :=
  db.activations.countP fun row => row.promoCodeId = promo ∧ row.userId = user

/-- `ReferralRepository.get_pending_by_referred_user`, all matches. -/
def pendingReferrals : List Referral :=
  db.referrals.rows.filter fun referral =>
    referral.referredUserId = user ∧ referral.status = .pending

/-- The paid orders that count for a referral reward. -/
def rewardableOrders : List PaymentOrder :=
  db.orders.rows.filter fun order => order.userId = user ∧ order.status ∈ [.paid, .completed] ∧
    order.provider ≠ .free ∧ order.orderType ≠ .topUp

/-- `ProviderFeeRepository.get_match`, all matches. -/
def feeMatches (provider : String) (method : Option ℤ) : List PaymentProviderFee :=
  db.fees.filter fun fee => fee.provider = provider ∧ fee.paymentMethod = method

/-- The subscription is about to expire, or has expired recently. -/
def inRenewalWindow (now windowEnd retryFloor : Time) (sub : Subscription) : Bool :=
  match sub.expiresAt with
  | none => false
  | some expiry =>
    (sub.isActive && now < expiry && expiry ≤ windowEnd) || (expiry ≤ now && retryFloor < expiry)

/-- The inner join with the plans that cost something. -/
def hasPaidPlan (sub : Subscription) : Bool :=
  match sub.planId.bind db.plans.find? with
  | none => false
  | some plan => 0 < plan.priceRub

/-- `SubscriptionRepository.list_due_auto_renew`. -/
def dueAutoRenew (now windowEnd retryFloor : Time) (limit : ℕ) :
    List Subscription :=
  ((db.subscriptions.rows.filter fun sub =>
      sub.autoRenew && inRenewalWindow now windowEnd retryFloor sub && db.hasPaidPlan sub)
    |>.insertionSort fun first second =>
      first.expiresAt.getD 0 ≤ second.expiresAt.getD 0).take limit

/-- A pending order whose time to pay is over. -/
def expiredPending (order : PaymentOrder) : Bool :=
  match order.expiresAt with
  | none => false
  | some expiry => order.status = .pending && expiry < now

/-- The ids that `OrderRepository.bulk_expire_pending` selects. -/
def expiredPendingOrders (limit : ℕ) : List Uuid :=
  (((db.orders.rows.filter (expiredPending now)).insertionSort fun first second =>
    first.expiresAt.getD 0 ≤ second.expiresAt.getD 0).take limit).map PaymentOrder.id

end Database

/-- `PlanRepository.get_by_id`. -/
def getPlan : Service (Option Plan) := select (·.plans.find? id)

/-- `SubscriptionRepository.get_by_id`. -/
def getSubscription : Service (Option Subscription) :=
  select (·.subscriptions.find? id)

/-- `OrderRepository.get_by_id`. -/
def getOrderRow : Service (Option PaymentOrder) := select (·.orders.find? id)

/-! ## Row creation and update -/

/-- `OrderInternalCreate`. -/
structure OrderInternalCreate where
  userId : Uuid
  planId : Option Uuid := none
  amountRub : Money
  provider : PaymentProvider
  status : OrderStatus := .pending
  externalId : String
  expiresAt : Option Time := none
  subscriptionId : Option Uuid := none
  orderType : OrderType := .planPurchase
  deviceSlotsQty : ℤ := 0
  periodMonths : ℤ := 1
  promoCodeId : Option Uuid := none
  discountRub : Option Money := none
  deriving DecidableEq, Repr

/-- The row of a new order. -/
def OrderInternalCreate.row (data : OrderInternalCreate) (id : Uuid) (now : Time) :
    PaymentOrder where
  id := id
  userId := data.userId
  planId := data.planId
  amountRub := data.amountRub
  provider := data.provider
  status := data.status
  externalId := data.externalId
  paidAt := none
  completedAt := none
  expiresAt := data.expiresAt
  subscriptionId := data.subscriptionId
  orderType := data.orderType
  deviceSlotsQty := data.deviceSlotsQty
  periodMonths := data.periodMonths
  feeRub := none
  netRub := none
  promoCodeId := data.promoCodeId
  discountRub := data.discountRub
  createdAt := now

/-- A value of a 32-bit integer column. -/
def fitsInteger (n : ℤ) : Prop := -2147483648 ≤ n ∧ n ≤ 2147483647

instance (n : ℤ) : Decidable (fitsInteger n) :=
  inferInstanceAs (Decidable (_ ∧ _))

/-- `OrderRepository.create`. The quantity goes into an integer column and the
external id is unique. -/
def createOrderRow (data : OrderInternalCreate) : Service PaymentOrder := do
  let id ← uuid4
  let now ← datetimeNow
  if ¬ fitsInteger data.deviceSlotsQty then
    raise .dataError
  else do
    let taken ← select fun db =>
      db.orders.rows.any fun order => order.externalId = data.externalId
    if taken then
      raise .integrityError
    else do
      execute (.insertOrder (data.row id now))
      pure (data.row id now)

/-- `OrderRepository.update_by_id`. -/
def updateOrder (order : Uuid) (patch : OrderInternalUpdate) : Service Unit :=
  execute (.updateOrder order patch)

/-- `SubscriptionRepository.update_by_id`. -/
def updateSubscription (subscription : Uuid) (patch : SubscriptionInternalUpdate) : Service Unit :=
  execute (.updateSubscription subscription patch)

/-- `BillingService._update_user_balance`. -/
def updateUserBalance (user : Uuid) (newBalance : Money) : Service Unit :=
  execute (.setBalance user newBalance)

/-- `BillingService._record_transaction`. -/
def recordTransaction (userId : Uuid) (amount balanceAfter : Money) (type : TransactionType)
    (orderId : Option Uuid) (description : Option String) : Service Unit := do
  let id ← uuid4
  execute (.insertTransaction
    { id := id, userId := userId, amount := amount, balanceAfter := balanceAfter, type := type,
      orderId := orderId, description := description })

end VpnControl.Billing
