/-
# The billing service

`BillingService`: creating orders, the two ways a payment arrives, fulfilment,
refunds and the manual balance operations. Notifications, metrics and log lines
are left out; none of them feeds back into the database.
-/

import VpnControl.Billing.Delivery
import VpnControl.Billing.Pricing
import VpnControl.Billing.Providers
import VpnControl.Billing.Referral

namespace VpnControl.Billing

open Txn

/-- The settings and the library code a request runs with. -/
structure Settings where
  billing : BillingConfig
  referral : ReferralConfig
  library : ProviderLibrary

/-! ## Requests -/

theorem one_mem_allowedPeriodMonths : (1 : ℤ) ∈ allowedPeriodMonths := by decide

theorem balance_requirements :
    PaymentProvider.balance = .platega → (none : Option PlategaPaymentMethod).isSome := by decide

theorem crypto_requirements :
    PaymentProvider.crypto = .platega → (none : Option PlategaPaymentMethod).isSome := by decide

theorem stars_requirements :
    PaymentProvider.stars = .platega → (none : Option PlategaPaymentMethod).isSome := by decide

theorem free_requirements :
    PaymentProvider.free = .platega → (none : Option PlategaPaymentMethod).isSome := by decide

/-- `OrderCreateIn`, with what its validators check. -/
structure OrderCreateIn where
  userId : Uuid
  planId : Option Uuid := none
  amountRub : Option Money := none
  provider : PaymentProvider
  orderType : OrderType := .planPurchase
  deviceSlotsQty : ℤ := 0
  periodMonths : ℤ := 1
  subscriptionId : Option Uuid := none
  paymentMethod : Option PlategaPaymentMethod := none
  promoCode : Option String := none
  validateProviderRequirements : provider = .platega → paymentMethod.isSome := by
    first
    | exact balance_requirements
    | exact crypto_requirements
    | exact stars_requirements
    | exact free_requirements
    | decide
  validatePeriod : periodMonths ∈ allowedPeriodMonths := by
    first | exact one_mem_allowedPeriodMonths | decide

/-- `BalanceCreditIn`. -/
structure BalanceCreditIn where
  amount : Money
  description : Option String := none
  amount_pos : 0 < amount
  amount_le : amount ≤ 9999999999 / 100
  description_length : ∀ text, description = some text → text.length ≤ 256

/-- `BalanceDebitIn`. -/
structure BalanceDebitIn where
  amount : Money
  reason : String
  amount_pos : 0 < amount
  amount_le : amount ≤ 9999999999 / 100
  reason_length : 1 ≤ reason.length ∧ reason.length ≤ 256

/-- `BalanceOut`. -/
structure BalanceOut where
  userId : Uuid
  balance : Money
  deriving DecidableEq, Repr

/-! ## Order creation -/

variable (cfg : Settings)

variable (data : OrderCreateIn)

/-- The external id of a new payment: a Stars invoice has a local one, a gateway
is asked for it. -/
def openPayment (amountRub : Money)
    (description : String) : Service String :=
  if data.provider = .stars then do
    let id ← uuid4
    pure s!"stars_{id}"
  else
    match getProvider cfg.billing cfg.library data.provider.value with
    | .error error => raise error
    | .ok _ => do
        match ← createPayment
            { provider := data.provider
              orderId := data.userId
              amountRub := amountRub
              description := description
              paymentMethod := data.paymentMethod } with
        | .ok externalId => pure externalId
        | .error (.providerError message) => raise (.providerError message)
        | .error error => raise (.providerError s!"Provider error: {error.message}")

/-- `now + timedelta(minutes=order_ttl_minutes)`. -/
def orderExpiry : Service Time := do
  let now ← datetimeNow
  pure (now + minutes cfg.billing.orderTtlMinutes)

/-- The order as it is read back before it is returned. -/
def refreshedOrder (id : Uuid) : Service PaymentOrder := do
  match ← getOrderRow id with
  | none => raise .validationError
  | some order => pure order

variable (order : PaymentOrder)

/-- `BillingService._record_promo_activation`. -/
def recordPromoActivation : Service Unit :=
  match order.promoCodeId, order.discountRub with
  | some promo, some discount =>
    recordActivation
      { promoCodeId := promo
        userId := order.userId
        orderId := some order.id
        amountBefore := order.amountRub + discount
        discountApplied := discount
        amountAfter := order.amountRub }
  | _, _ => pure ()

variable (user : User)

variable (plan : Plan)

/-- `BillingService._create_free_order`. -/
def createFreeOrder (data : OrderCreateIn) : Service PaymentOrder := do
  let now ← datetimeNow
  let token ← uuid4
  let order ← createOrderRow
    { userId := data.userId
      planId := some plan.id
      amountRub := 0
      provider := .free
      status := .paid
      externalId := s!"free_{token}" }
  autoPurchaseFree user.id plan order now
  updateOrder order.id { status := some .completed, paidAt := some now, completedAt := some now }
  refreshedOrder order.id

/-- `BillingService._create_top_up_order`. -/
def createTopUpOrder (data : OrderCreateIn) : Service PaymentOrder :=
  match data.amountRub with
  | none => raise (.planNotPurchasable "Top up amount must be greater than zero")
  | some amountRub =>
    if amountRub ≤ 0 then
      raise (.planNotPurchasable "Top up amount must be greater than zero")
    else do
      let expiresAt ← orderExpiry cfg
      let externalId ← openPayment cfg data amountRub s!"Balance top-up for user {user.id}"
      createOrderRow
        { userId := data.userId
          amountRub := amountRub
          provider := data.provider
          externalId := externalId
          expiresAt := some expiresAt
          orderType := .topUp }

/-- `BillingService._create_balance_device_slot_order`. -/
def createBalanceDeviceSlotOrder (userId subscriptionId : Uuid) (qty : ℤ)
    (amountRub : Money) : Service PaymentOrder := do
  let now ← datetimeNow
  let token ← uuid4
  let order ← createOrderRow
    { userId := userId
      amountRub := amountRub
      provider := .balance
      status := .paid
      externalId := s!"balance_{token}"
      subscriptionId := some subscriptionId
      orderType := .deviceSlots
      deviceSlotsQty := qty }
  match ← getUser userId with
  | none => raise (.orderNotFound "User not found")
  | some user => do
      fulfillDeviceSlots user.id order true
      updateOrder order.id
        { status := some .completed, paidAt := some now, completedAt := some now }
      refreshedOrder order.id

/-- The paying half of `BillingService._create_device_slot_order`. -/
def placeDeviceSlotOrder (sub : Uuid) (plan : Plan) :
    Service PaymentOrder := do
  let amountRub := data.deviceSlotsQty * plan.devicePriceRub
  let expiresAt ← orderExpiry cfg
  if data.provider = .balance then
    createBalanceDeviceSlotOrder data.userId sub data.deviceSlotsQty amountRub
  else do
    let externalId ← openPayment cfg data amountRub
      s!"{data.deviceSlotsQty} device slot(s) for {plan.name}"
    let order ← createOrderRow
      { userId := data.userId
        amountRub := amountRub
        provider := data.provider
        externalId := externalId
        expiresAt := some expiresAt
        orderType := .deviceSlots
        deviceSlotsQty := data.deviceSlotsQty }
    updateOrder order.id { subscriptionId := some sub }
    refreshedOrder order.id

def planOfSubscription (sub : Subscription) : Service (Option Plan) :=
  match sub.planId with
  | none => pure none
  | some id => getPlan id

/-- `BillingService._create_device_slot_order`. -/
def createDeviceSlotOrder : Service PaymentOrder :=
  match data.subscriptionId with
  | none => raise (.orderNotFound "subscription_id is required for device_slots order")
  | some subscriptionId => do
      match ← getSubscription subscriptionId with
      | none => raise (.orderNotFound "Active subscription not found")
      | some sub =>
        if ¬ sub.isActive then raise (.orderNotFound "Active subscription not found")
        else do
          match ← planOfSubscription sub with
          | none => raise (.planNotPurchasable "Subscription has no plan")
          | some plan =>
            let maxAllowed := plan.maxDevices - plan.includedDevices - sub.paidDeviceSlots
            if maxAllowed < data.deviceSlotsQty then
              raise (.deviceSlotLimitExceeded
                s!"Cannot add {data.deviceSlotsQty} slots, max purchasable: {maxAllowed}")
            else if plan.devicePriceRub ≤ 0 then
              raise (.planNotPurchasable "Plan has no device price set")
            else placeDeviceSlotOrder cfg data subscriptionId plan

/-- The subscription that a request names as its renewal target. -/
def renewalSubscription : Service (Option Subscription) :=
  match data.subscriptionId with
  | none => pure none
  | some id => do
      match ← getSubscription id with
      | none => raise (.planNotPurchasable "Renewal target is not available")
      | some sub =>
        if sub.userId ≠ data.userId ∨ sub.planId ≠ data.planId then
          raise (.planNotPurchasable "Renewal target is not available")
        else pure (some sub)

/-- The free-plan branch of `create_order`. -/
def createTrial (data : OrderCreateIn) : Service PaymentOrder :=
  if data.provider ≠ .free then
    raise (.planNotPurchasable "Free plan requires provider='free'")
  else do
    if ← select (·.hasCompletedOrderForPlan data.userId plan.id) then
      raise (.trialAlreadyUsed "Free trial already used")
    else do
      let now ← datetimeNow
      if ← select (·.hasLiveSubscription data.userId now) then
        raise (.trialUnavailable "Free trial is unavailable while an active subscription exists")
      else do
        if ← select (·.hasCompletedPaidOrder data.userId) then
          raise (.trialUnavailable "Free trial is unavailable after a paid purchase")
        else createFreeOrder user plan data

/-- What a plan order costs after its promo code. -/
structure OrderQuote where
  amountRub : Money
  promoCodeId : Option Uuid := none
  discountRub : Option Money := none
  deriving DecidableEq, Repr

/-- The price of a plan order before its promo code. -/
def planAmount (periodPrice proration : Money) : Money :=
  max 0 (periodPrice - proration) + data.deviceSlotsQty * plan.devicePriceRub

/-- Apply the promo code of the request. A code is ignored when there is nothing
to pay. -/
def applyPromo (amountRub : Money) : Service OrderQuote :=
  match data.promoCode with
  | none => pure { amountRub := amountRub }
  | some code =>
    if code = "" ∨ amountRub ≤ 0 then pure { amountRub := amountRub }
    else do
      let quote ← validateAndQuote code data.userId (some plan.id) data.orderType amountRub
      pure
        { amountRub := quote.amountAfter
          promoCodeId := some quote.promoCodeId
          discountRub := some quote.discountRub }

def quoteOrder : Service OrderQuote :=
  match resolvePeriodPrice plan data.periodMonths with
  | none => raise (.planNotPurchasable "Selected period is not available for this plan")
  | some periodPrice => do
      guardNoDowngrade data.userId plan data.orderType
      let proration ← switchProration data.userId plan.id data.orderType
      applyPromo data plan (planAmount data plan periodPrice proration)

/-- The row of a plan order. -/
def planOrder (quote : OrderQuote) (status : OrderStatus)
    (externalId : String) (expiresAt : Option Time) : OrderInternalCreate where
  userId := data.userId
  planId := data.planId
  amountRub := quote.amountRub
  provider := data.provider
  status := status
  externalId := externalId
  expiresAt := expiresAt
  subscriptionId := data.subscriptionId
  orderType := data.orderType
  deviceSlotsQty := data.deviceSlotsQty
  periodMonths := data.periodMonths
  promoCodeId := quote.promoCodeId
  discountRub := quote.discountRub

/-- `BillingService._create_balance_plan_order`. -/
def createBalancePlanOrder (data : OrderCreateIn)
    (quote : OrderQuote) : Service PaymentOrder := do
  let now ← datetimeNow
  let token ← uuid4
  let order ← createOrderRow (planOrder data quote .paid s!"balance_{token}" none)
  autoPurchase user.id plan order now true
  updateOrder order.id { status := some .completed, paidAt := some now, completedAt := some now }
  recordPromoActivation order
  refreshedOrder order.id

/-- The text of a plan payment at the gateway. -/
def planDescription : String :=
  let name := s!"Plan: {plan.name}"
  let period := if 1 < data.periodMonths then s!" ({data.periodMonths} mo)" else ""
  let slots := if 0 < data.deviceSlotsQty then s!" + {data.deviceSlotsQty} device(s)" else ""
  name ++ period ++ slots

/-- The paid-plan branch of `create_order`. -/
def createPaidPlanOrder (data : OrderCreateIn) :
    Service PaymentOrder :=
  if data.provider = .free then
    raise (.planNotPurchasable "Paid plan cannot use provider='free'")
  else do
    let quote ← quoteOrder data plan
    let expiresAt ← orderExpiry cfg
    if data.provider = .balance then createBalancePlanOrder user plan data quote
    else do
      let externalId ← openPayment cfg data quote.amountRub (planDescription data plan)
      createOrderRow (planOrder data quote .pending externalId (some expiresAt))

/-- `create_order` for a plan. -/
def createPlanOrder (data : OrderCreateIn) : Service PaymentOrder :=
  match data.planId with
  | none => raise (.planNotPurchasable "Plan is not available")
  | some planId => do
      match ← getPlan planId with
      | none => raise (.planNotPurchasable "Plan is not available")
      | some plan => do
          let renewal ← renewalSubscription data
          if ¬ plan.isActive ∧ renewal.isNone then
            raise (.planNotPurchasable "Plan is not available")
          else if plan.priceRub ≤ 0 then createTrial user plan data
          else createPaidPlanOrder cfg user plan data

/-- `BillingService.create_order`. -/
def createOrder : Service PaymentOrder := do
  match ← getUser data.userId with
  | none => raise (.orderNotFound "User not found")
  | some user =>
    match data.orderType with
    | .deviceSlots => createDeviceSlotOrder cfg data
    | .topUp => createTopUpOrder cfg user data
    | .planPurchase => createPlanOrder cfg user data
    | .subscriptionRenewal => createPlanOrder cfg user data

/-! ## Fulfilment -/

variable (provider : String)

variable (method : Option ℤ)

/-- The fee rule of a provider and one of its payment methods. -/
def exactFee : Service (Option PaymentProviderFee) :=
  if method = none then pure none
  else do
    let found ← select (·.feeMatches provider method)
    scalarOneOrNone found

/-- `ProviderFeeRepository.resolve`. -/
def resolveFee : Service (Option PaymentProviderFee) := do
  match ← exactFee provider method with
  | some fee => pure (some fee)
  | none => do
      let found ← select (·.feeMatches provider none)
      scalarOneOrNone found

/-- `BillingService._resolve_fee_rub`. -/
def resolveFeeRub (amountRub : Money) :
    Service (Option Money) := do
  let rule ← resolveFee provider method
  pure (rule.map fun fee => quantizeHalfUp (amountRub * fee.feePercent / 100))

/-- The fee a webhook reports, or else the configured one. -/
def paymentFee (feeRub : Option Money) (provider : String) (method : Option ℤ)
    (amountRub : Money) : Service (Option Money) :=
  match feeRub with
  | some fee => pure (some fee)
  | none => resolveFeeRub provider method amountRub

/-- Deliver a paid order: its device slots, or its plan if that is still for
sale. -/
def deliverOrder (order : PaymentOrder) (now : Time) : Service Unit :=
  if order.orderType = .deviceSlots then fulfillDeviceSlots user.id order false
  else
    match order.planId with
    | none => pure ()
    | some planId => do
        match ← getPlan planId with
        | none => pure ()
        | some plan =>
          if plan.isActive ∧ 0 < plan.priceRub then autoPurchase user.id plan order now false
          else pure ()

variable (providerName : String)

/-- The referral reward of a fulfilled plan order. Its exceptions are logged and
dropped. -/
def rewardReferral : Service Unit :=
  if order.orderType ∈ [.planPurchase, .subscriptionRenewal] ∧ providerName ≠ "free" then
    (processRewardIfEligible cfg.referral order.userId).tryCatch fun _ => pure ()
  else pure ()

/-- Credit the payment of a locked order to its locked user and deliver it. -/
def settlePayment (feeRub : Option Money) (method : Option ℤ) : Service Unit := do
  let now ← datetimeNow
  let fee ← paymentFee feeRub providerName method order.amountRub
  updateOrder order.id
    { status := some .paid
      paidAt := some now
      feeRub := fee
      netRub := fee.map (order.amountRub - ·) }
  updateUserBalance user.id (user.balance + order.amountRub)
  recordTransaction user.id order.amountRub (user.balance + order.amountRub) .payment
    (some order.id) (some s!"Payment via {providerName}")
  recordPromoActivation order
  deliverOrder user order now
  updateOrder order.id { status := some .completed, completedAt := some now }
  rewardReferral cfg order providerName

/-- `BillingService._fulfill_order_locked`. -/
def fulfillOrderLocked
    (feeRub : Option Money) (method : Option ℤ) : Service Unit :=
  if order.status ∈ orderFinalStatuses then pure ()
  else if order.status = .expired then
    raise (.orderExpired s!"Order {order.id} has expired")
  else do
    match ← lockUser order.userId with
    | none => do
        updateOrder order.id { status := some .failed }
        raise (.fulfillmentFailed s!"User {order.userId} not found for order {order.id}")
    | some user => settlePayment cfg order user providerName feeRub method

variable (webhook : WebhookResult)

/-- The amount a webhook reports contradicts the order. -/
def amountMismatch (order : PaymentOrder) : Bool :=
  webhook.amountRub.isPositive && webhook.amountRub ≠ .finite order.amountRub

/-- A webhook that is no payment: a cancellation expires a pending order. -/
def recordProviderStatus (order : PaymentOrder) : Service Unit :=
  let canceled := (webhook.providerStatus.getD "").toUpper = "CANCELED"
  updateOrder order.id
    { status := if canceled ∧ order.status = .pending then some .expired else none }

def acceptLocked
    (order : PaymentOrder) : Service Unit :=
  if amountMismatch webhook order then
    raise (.webhookVerificationFailed s!"Amount mismatch for external_id={webhook.externalId}")
  else if ¬ webhook.shouldFulfill then recordProviderStatus webhook order
  else fulfillOrderLocked cfg order providerName webhook.feeRub webhook.paymentMethod

/-- A verified webhook. -/
def acceptWebhook :
    Service Unit := do
  match ← lockOrder (.byExternalId webhook.externalId) with
  | none => raise (.orderNotFound s!"Order not found for external_id={webhook.externalId}")
  | some order => acceptLocked cfg providerName webhook order

/-- `BillingService.process_webhook`. -/
def processWebhook (request : Request) : Service Unit :=
  match getProvider cfg.billing cfg.library providerName with
  | .error error => raise error
  | .ok verifyWebhook =>
    match verifyWebhook request with
    | .error (.webhookVerificationFailed message) =>
      raise (.webhookVerificationFailed message)
    | .error error =>
      raise (.webhookVerificationFailed s!"Verification error: {error.message}")
    | .ok webhook => acceptWebhook cfg providerName webhook

def confirmLocked : Service Unit :=
  if order.provider ≠ .stars then raise (.providerError "Order is not a Stars payment")
  else fulfillOrderLocked cfg order "stars" none none

/-- `BillingService.confirm_stars_payment`. -/
def confirmStarsPayment (orderId : Uuid) : Service Unit := do
  match ← lockOrder (.byId orderId) with
  | none => raise (.orderNotFound s!"Order {orderId} not found")
  | some order => confirmLocked cfg order

/-! ## Refunds and manual operations -/

/-- The text of `payment_order.status`. -/
def OrderStatus.value : OrderStatus → String
  | pending => "pending"
  | paid => "paid"
  | completed => "completed"
  | expired => "expired"
  | refunded => "refunded"
  | failed => "failed"

/-- The first characters of a text. -/
def truncate (text : String) (length : ℕ) : String := String.ofList (text.toList.take length)

def deactivateRefunded (deactivateSubscription : Bool) : Service Unit :=
  match order.subscriptionId with
  | none => pure ()
  | some subscription =>
    if deactivateSubscription then
      updateSubscription subscription { isActive := some false }
    else pure ()

def refundLocked (reason : String) (deactivateSubscription : Bool) :
    Service Unit :=
  if order.status ∉ orderRefundableStatuses then
    raise (.refundNotAllowed
      s!"Order {order.id} cannot be refunded in status '{order.status.value}'")
  else do
    match ← lockUser order.userId with
    | none =>
      raise (.fulfillmentFailed
        s!"User {order.userId} not found for refund of order {order.id}")
    | some user => do
        updateUserBalance user.id (user.balance - order.amountRub)
        recordTransaction user.id (-order.amountRub) (user.balance - order.amountRub) .refund
          (some order.id) (some (truncate s!"Refund: {reason}" 256))
        updateOrder order.id { status := some .refunded }
        deactivateRefunded order deactivateSubscription

/-- `BillingService.refund_order`. -/
def refundOrder (orderId : Uuid) (reason : String) (deactivateSubscription : Bool) :
    Service Unit := do
  match ← lockOrder (.byId orderId) with
  | none => raise (.orderNotFound s!"Order {orderId} not found")
  | some order => refundLocked order reason deactivateSubscription

/-- `BillingService.credit_balance`. -/
def creditBalance (userId : Uuid) (data : BalanceCreditIn) : Service BalanceOut := do
  match ← lockUser userId with
  | none => raise (.orderNotFound "User not found")
  | some user => do
      updateUserBalance user.id (user.balance + data.amount)
      recordTransaction user.id data.amount (user.balance + data.amount) .manualCredit none
        (some (if data.description.getD "" = "" then "Manual credit"
          else data.description.getD ""))
      pure { userId := user.id, balance := user.balance + data.amount }

/-- `BillingService.debit_balance`. -/
def debitBalance (userId : Uuid) (data : BalanceDebitIn) : Service BalanceOut := do
  match ← lockUser userId with
  | none => raise (.orderNotFound "User not found")
  | some user =>
    if user.balance < data.amount then
      raise (.insufficientBalance "Недостаточно средств на балансе")
    else do
      updateUserBalance user.id (user.balance - data.amount)
      recordTransaction user.id (-data.amount) (user.balance - data.amount) .manualDebit none
        (some data.reason)
      pure { userId := user.id, balance := user.balance - data.amount }

end VpnControl.Billing
