/-
# What an order costs

The price of a plan for a number of months, the credit for the unused part of
another plan, and the discount of a promo code. Amounts are exact until they are
rounded to kopecks.
-/

import VpnControl.Billing.Repositories

namespace VpnControl.Billing

open Txn

/-! ## Rounding -/

/-- `Decimal.quantize(Decimal("0.01"))`, which rounds half to even. -/
def quantize (value : Money) : Money :=
  let lower := ⌊value * 100⌋
  let rest := value * 100 - lower
  let cents := if rest < 1 / 2 then lower else if 1 / 2 < rest then lower + 1
    else if lower % 2 = 0 then lower else lower + 1
  cents / 100

/-- `Decimal.quantize(Decimal("0.01"), rounding=ROUND_HALF_UP)`, which rounds half
away from zero. -/
def quantizeHalfUp (value : Money) : Money :=
  if 0 ≤ value then ⌊value * 100 + 1 / 2⌋ / 100 else -(⌊-value * 100 + 1 / 2⌋ / 100)

/-! ## Periods and proration -/

/-- `BillingService._resolve_period_price`. -/
def resolvePeriodPrice (plan : Plan) (months : ℤ) : Option Money :=
  match plan.periods.find? fun period => period.months = months with
  | some period => some period.priceRub
  | none => if months = 1 then some plan.priceRub else none

/-- `BillingService._proration_value`. -/
def prorationValue (oldPlan : Plan) (oldPeriodMonths : ℤ) (expiresAt : Option Time)
    (now : Time) : Money :=
  match expiresAt with
  | none => 0
  | some expiry =>
    if expiry ≤ now then 0
    else
      let remainingDays : ℚ := (expiry - now : ℤ) / (days 1 : ℤ)
      match resolvePeriodPrice oldPlan oldPeriodMonths with
      | none => 0
      | some oldPrice =>
        if oldPrice ≤ 0 then 0
        else quantize (oldPrice * remainingDays / (periodDays oldPeriodMonths : ℤ))

/-- `BillingService._current_active_subscription`. -/
def currentActiveSubscription (user : Uuid) : Service (Option Subscription) := do
  let now ← datetimeNow
  select (·.currentActiveSubscription user now)

/-- The plan of the subscription a purchase would switch away from. -/
def switchedPlan (user newPlan : Uuid) : Service (Option (Subscription × Plan)) := do
  match ← currentActiveSubscription user with
  | none => pure none
  | some current =>
    match current.planId with
    | none => pure none
    | some oldPlanId =>
      if oldPlanId = newPlan then pure none
      else do
        match ← getPlan oldPlanId with
        | none => pure none
        | some oldPlan => pure (some (current, oldPlan))

/-- `BillingService._switch_proration`. -/
def switchProration (user newPlan : Uuid) (orderType : OrderType) : Service Money :=
  if orderType ≠ .planPurchase then pure 0
  else do
    match ← switchedPlan user newPlan with
    | none => pure 0
    | some (current, oldPlan) => do
        let now ← datetimeNow
        let months := if current.periodMonths = 0 then 1 else current.periodMonths
        pure (prorationValue oldPlan months current.expiresAt now)

/-- `BillingService._guard_no_downgrade`. -/
def guardNoDowngrade (user : Uuid) (newPlan : Plan) (orderType : OrderType) : Service Unit :=
  if orderType ≠ .planPurchase then pure ()
  else do
    match ← switchedPlan user newPlan.id with
    | none => pure ()
    | some (_, oldPlan) =>
      if newPlan.priceRub < oldPlan.priceRub then
        raise (.planNotPurchasable "Downgrade applies at the end of the current period")
      else pure ()

/-- `OrderPreviewOut`. -/
structure OrderPreviewOut where
  planId : Uuid
  periodMonths : ℤ
  periodPrice : Money
  prorationCredit : Money
  amountDue : Money
  isSwitch : Bool
  deriving DecidableEq, Repr

/-- `BillingService.preview_order_amount`. -/
def previewOrderAmount (user planId : Uuid) (periodMonths : ℤ) : Service OrderPreviewOut := do
  match ← getPlan planId with
  | none => raise (.planNotPurchasable "Plan is not available")
  | some plan =>
    match resolvePeriodPrice plan periodMonths with
    | none => raise (.planNotPurchasable "Selected period is not available for this plan")
    | some periodPrice => do
        let proration ← switchProration user planId .planPurchase
        pure
          { planId := planId
            periodMonths := periodMonths
            periodPrice := periodPrice
            prorationCredit := proration
            amountDue := max 0 (periodPrice - proration)
            isSwitch := 0 < proration }

/-! ## Promo codes -/

variable (promo : PromoCode)

/-- `PromoService._compute_discount`. -/
def computeDiscount (amount : Money) : Money :=
  let discount := match promo.discountType with
    | .percent =>
      let part := quantizeHalfUp (amount * promo.discountValue / 100)
      match promo.maxDiscountRub with
      | none => part
      | some cap => min part cap
    | .fixed => min promo.discountValue amount
  max 0 discount

/-- `PromoQuoteOut`. -/
structure PromoQuoteOut where
  code : String
  promoCodeId : Uuid
  amountBefore : Money
  discountRub : Money
  amountAfter : Money
  deriving DecidableEq, Repr

/-- `PromoService._check_audience`. -/
def checkAudience (user : Uuid) (plan : Option Uuid) : Service Unit :=
  match promo.audience with
  | .all => pure ()
  | .byPlan =>
    if plan.any (· ∈ promo.planIds) then pure ()
    else raise (.promoNotEligible "Promo is limited to specific plans")
  | audience => do
      let now ← datetimeNow
      let hasLive ← select (·.hasLiveSubscription user now)
      if audience = .noSubscription ∧ hasLive then
        raise (.promoNotEligible "Promo is only for users without an active subscription")
      else if audience = .hasSubscription ∧ ¬ hasLive then
        raise (.promoNotEligible "Promo requires an active subscription")
      else pure ()

/-- The checks of `PromoService.validate_and_quote` that read the code alone. -/
def checkPromo (now : Time) (orderType : OrderType) (amountRub : Money) :
    Except BillingError Unit :=
  if ¬ promo.isActive then .error (.promoInvalid "Promo code not found or inactive")
  else if promo.startsAt.any (now < ·) then .error (.promoInvalid "Promo is not active yet")
  else if promo.expiresAt.any (· ≤ now) then .error (.promoInvalid "Promo has expired")
  else if promo.minAmountRub.any (amountRub < ·) then
    .error (.promoInvalid "Order amount is below the promo minimum")
  else if promo.appliesTo = .newPurchase ∧ orderType ≠ .planPurchase then
    .error (.promoNotEligible "Promo applies to new purchases only")
  else if promo.appliesTo = .renewal ∧ orderType ≠ .subscriptionRenewal then
    .error (.promoNotEligible "Promo applies to renewals only")
  else .ok ()

/-- `PromoService.validate_and_quote`. -/
def validateAndQuote (code : String) (user : Uuid) (plan : Option Uuid)
    (orderType : OrderType) (amountRub : Money) : Service PromoQuoteOut := do
  let found ← select (·.promosByCode code)
  match ← scalarOneOrNone found with
  | none => raise (.promoInvalid "Promo code not found or inactive")
  | some promo => do
      let now ← datetimeNow
      match checkPromo promo now orderType amountRub with
      | .error error => raise error
      | .ok () => do
          checkAudience promo user plan
          if promo.maxActivations.any (· ≤ promo.activationCount) then
            raise (.promoExhausted "Promo activation limit reached")
          else do
            let used ← select (·.activationCount promo.id user)
            if promo.maxPerUser ≤ used then
              raise (.promoExhausted "Per-user promo limit reached")
            else
              let discount := computeDiscount promo amountRub
              pure
                { code := promo.code
                  promoCodeId := promo.id
                  amountBefore := amountRub
                  discountRub := discount
                  amountAfter := max 0 (amountRub - discount) }

/-- `PromoService.record_activation`. -/
def recordActivation (activation : PromoActivation) : Service Unit := do
  execute (.insertActivation activation)
  execute (.incrementActivation activation.promoCodeId)

end VpnControl.Billing
