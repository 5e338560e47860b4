/-
# What the bot offers

The bot shows when a renewed subscription will end and what an order costs in Stars. Both numbers
are computed apart from billing, from other columns of the plan: the renewal from the duration of
the plan and not from the days of the period, the Stars from the base price and not from the price
of the period. Billing confirms whatever amount of Stars was paid.
-/

import VpnControl.Billing.Renewals

namespace VpnControl.Billing

open Txn Option

/-! ## The offer of a renewal -/

inductive BotDashboardState
  | new | noSubscription | pendingPayment | active | expiring | expired | inactive
  deriving DecidableEq, Repr

/-- `HTTPException`. -/
structure HttpException where
  statusCode : ℕ
  detail : String
  deriving DecidableEq, Repr

/-- `BotApiService._classify_subscription`. -/
def classifySubscription (sub : Subscription) (now : Time) : BotDashboardState :=
  if ¬ sub.isActive then .inactive
  else if sub.expiresAt.any (· ≤ now) then .expired
  else if sub.expiresAt.any (· ≤ now + days 3) then .expiring
  else .active

/-- The priority of a subscription among those of its user. -/
def BotDashboardState.priority : BotDashboardState → ℤ
  | active => 4
  | expiring => 3
  | expired => 2
  | inactive => 1
  | _ => 0

/-- `BotApiService._pick_current_subscription`. The column `updated_at` is given as a function. -/
def pickCurrentSubscription (updatedAt : Uuid → Time) (now : Time) (items : List Subscription) :
    Option Subscription := do
  let best ← latestBy (fun sub => (classifySubscription sub now).priority) items
  latestBy (fun sub => updatedAt sub.id) (items.filter fun sub =>
    (classifySubscription sub now).priority = (classifySubscription best now).priority)

/-- `BotRenewOfferOut`. -/
structure BotRenewOfferOut where
  subscriptionId : Uuid
  planId : Uuid
  planName : String
  status : BotDashboardState
  durationDays : ℤ
  priceRub : Money
  priceStars : Option ℤ
  periods : List PlanPeriod
  currentExpiresAt : Option Time
  renewedExpiresAt : Time
  isReactivation : Bool

/-- `BotApiService.get_renew_offer` for the user with the Telegram id. -/
def Database.getRenewOffer (db : Database) (updatedAt : Uuid → Time) (user : Uuid) (now : Time) :
    Except HttpException BotRenewOfferOut :=
  match pickCurrentSubscription updatedAt now
      (db.subscriptions.rows.filter fun sub => sub.userId = user) with
  | none => .error ⟨404, "Subscription not found"⟩
  | some sub =>
    match sub.planId with
    | none => .error ⟨404, "Subscription not found"⟩
    | some planId =>
      let status := classifySubscription sub now
      if status ∉ [.active, .expiring, .expired, .inactive] then
        .error ⟨409, "Subscription cannot be renewed"⟩
      else
        match db.plans.find? planId with
        | none => .error ⟨404, "Plan not found"⟩
        | some plan =>
          .ok
            { subscriptionId := sub.id
              planId := plan.id
              planName := plan.name
              status := status
              durationDays := plan.durationDays
              priceRub := plan.priceRub
              priceStars := plan.priceStars
              periods := plan.periods
              currentExpiresAt := sub.expiresAt
              renewedExpiresAt := (match sub.expiresAt with
                | some expiry => if now < expiry then expiry else now
                | none => now) + days plan.durationDays
              isReactivation := status ∈ [.expired, .inactive] }

section

variable {cfg : Settings} {world : World} {s s' : Store} {updatedAt : Uuid → Time}

theorem exists_of_getRenewOffer {db : Database}
    (h : db.getRenewOffer updatedAt user now = .ok offer) :
    ∃ sub plan, db.subscriptions.find? sub.id = some sub ∧ sub.userId = user ∧
      sub.planId = some plan.id ∧ db.plans.find? plan.id = some plan ∧
      offer.subscriptionId = sub.id ∧ offer.planId = plan.id ∧
      offer.durationDays = plan.durationDays ∧
      offer.renewedExpiresAt = max now (sub.expiresAt.getD now) + days plan.durationDays := by
  unfold Database.getRenewOffer at h
  split at h
  · cases h
  · rename_i sub hsub
    obtain ⟨best, -, hpicked⟩ := bind_eq_some_iff.mp hsub
    have hmem := List.mem_of_mem_filter (List.argmax_mem hpicked)
    obtain ⟨hrow, howner⟩ := List.mem_filter.mp hmem
    split at h
    · cases h
    · rename_i planId hplanId
      dsimp only at h
      split at h
      · cases h
      · split at h
        · cases h
        · rename_i plan hplan
          obtain rfl : plan.id = planId := Table.key_of_find? hplan
          cases h
          refine ⟨sub, plan, Table.find?_of_mem hrow, by simpa using howner, hplanId, hplan, rfl, rfl,
            rfl, ?_⟩
          cases sub.expiresAt with
          | none => simp
          | some expiry =>
            by_cases hlate : now < expiry
            · simp [hlate, max_eq_right hlate.le]
            · simp [hlate, max_eq_left (not_lt.mp hlate)]

/-- A renewal for one month from the balance extends the subscription that it names. -/
theorem renewed_of_createOrder
    (htype : data.orderType = .subscriptionRenewal) (hbalance : data.provider = .balance)
    (hsub : data.subscriptionId = some sub.id) (hplanId : data.planId = some plan.id)
    (hrow : s.db.subscriptions.find? sub.id = some sub) (howner : sub.userId = data.userId)
    (hplan : sub.planId = some plan.id) (hfound : s.db.plans.find? plan.id = some plan)
    (h : direct world (createOrder cfg data) s = (.ok value, s')) :
    ∃ order : PaymentOrder, order.periodMonths = data.periodMonths ∧
      Renewed order world.now sub s.db.subscriptions s'.db.subscriptions := by
  obtain ⟨order, hplacing, -⟩ := placing_of_createOrder h
  cases hplacing with
  | topUp => simp_all
  | slotsWaiting => simp_all
  | planWaiting => simp_all
  | slots => simp_all
  | trial => simp_all
  | plan found _ user _ bought _ _ _ hfoundId hfoundRow _ _ huser horder hbought hrecorded =>
    obtain rfl : found = plan := by
      have hid : found.id = plan.id := mem_unique hfoundId hplanId
      rw [hid, hfound] at hfoundRow
      exact (some.inj hfoundRow).symm
    refine ⟨order, by rw [horder]; rfl, ?_⟩
    have huserId : user.id = data.userId := Table.key_of_find? huser
    rcases posted_of_payFromBalance hbought with ⟨_, row, -, -, -, -, hdeliver⟩ | ⟨hfalse, -⟩
    · have htarget : (posted row (inserted order (drawn s))).db.purchaseTarget user.id found order =
          some (sub, false) := by
        have hnamed : order.subscriptionId = some sub.id := by rw [horder]; exact hsub
        have hrenewal : order.orderType = .subscriptionRenewal := by rw [horder]; exact htype
        have hsame : (posted row (inserted order (drawn s))).db.subscriptions =
            s.db.subscriptions := rfl
        rw [purchaseTarget_congr hsame]
        simp [Database.purchaseTarget, Database.renewalTarget, hnamed, hrenewal, hrow, howner, hplan,
          huserId, Option.filter]
      simp only [deliverPlan, direct_bind, direct_purchaseTarget, htarget] at hdeliver
      have hlast : s'.db.subscriptions = bought.db.subscriptions := by
        unfold recordPromoActivation at hrecorded
        split at hrecorded <;> cases hrecorded <;> rfl
      have hrenewed : Renewed order world.now sub
          (posted row (inserted order (drawn s))).db.subscriptions bought.db.subscriptions :=
        renewed_of_extendSubscription hrow hdeliver
      rw [hlast]
      exact hrenewed
    · cases hfalse

end

/-- **The offer of the bot is honoured exactly for plans of thirty days.** -/
theorem renewOffer_honoured_iff (cfg : Settings) (world : World) (s s' : Store)
    (updatedAt : Uuid → Time) (data : OrderCreateIn) (offer : BotRenewOfferOut)
    (value : PaymentOrder) (hoffer : s.db.getRenewOffer updatedAt data.userId world.now = .ok offer)
    (htype : data.orderType = .subscriptionRenewal) (hbalance : data.provider = .balance)
    (hsub : data.subscriptionId = some offer.subscriptionId)
    (hplan : data.planId = some offer.planId) (hmonths : data.periodMonths = 1)
    (h : direct world (createOrder cfg data) s = (.ok value, s')) :
    (s'.db.subscriptions.find? offer.subscriptionId).bind Subscription.expiresAt =
        some offer.renewedExpiresAt ↔ offer.durationDays = 30 := by
  obtain ⟨sub, plan, hrow, howner, hplanId, hfound, hsubId, hofferPlan, hduration, hexpiry⟩ :=
    exists_of_getRenewOffer hoffer
  rw [hsubId] at hsub ⊢
  rw [hofferPlan] at hplan
  obtain ⟨order, horder, ⟨⟨renewed, hrenewed, hrenewedAt, -⟩, -, -⟩⟩ :=
    renewed_of_createOrder htype hbalance hsub hplan hrow howner hplanId hfound h
  have hmonth : order.months = 1 := by simp [PaymentOrder.months, horder, hmonths]
  rw [hrenewed, hexpiry, hduration, Option.bind_some, hrenewedAt, renewedExpiry, hmonth]
  simp only [Option.some.injEq, add_right_inj]
  change 30 * 86400000000 = plan.durationDays * 86400000000 ↔ _
  omega

/-- A renewal of subscription 3 from the balance. -/
def Scenario.renewal : OrderCreateIn :=
  { purchase with orderType := .subscriptionRenewal, subscriptionId := some 3 }

open Scenario in
/-- The plan of thirty days is renewed as offered. -/
theorem renewOffer_honoured_running : ∃ (offer : BotRenewOfferOut) (s' : Store),
      (subscribed 500).state.getRenewOffer (fun _ => 0) 1 0 = .ok offer ∧
      ((s'.db.subscriptions.find? offer.subscriptionId).bind Subscription.expiresAt =
        some offer.renewedExpiresAt ↔ offer.durationDays = 30) := by
  obtain ⟨value, s', hrun⟩ : ∃ value s', direct world (createOrder settings renewal)
      ⟨(subscribed 500).state, 4⟩ = (.ok value, s') := exists_of_isOk (by decide +kernel)
  exact ⟨_, s', rfl, renewOffer_honoured_iff settings world _ s' (fun _ => 0) renewal _ value rfl rfl
    rfl rfl rfl rfl hrun⟩

open Scenario in
/-- A plan of ninety days is offered with ninety days more, and renewed by thirty. -/
theorem renewOffer_not_honoured : let db : Database := { (subscribed 500).state with
      plans := Table.empty.insert { plan with durationDays := 90 } }
    (db.getRenewOffer (fun _ => 0) 1 0).toOption.map BotRenewOfferOut.renewedExpiresAt =
        some (1000 + days 90) ∧
      ((direct world (createOrder settings renewal) ⟨db, 4⟩).2.db.subscriptions.find? 3).bind
        Subscription.expiresAt = some (1000 + days 30) := by
  decide +kernel

/-! ## Stars -/

/-- `BillingService._resolve_period_price_stars`. -/
def resolvePeriodPriceStars (plan : Plan) (months : ℤ) : Option ℤ :=
  match plan.periods.find? fun period => period.months = months with
  | some period => period.priceStars
  | none => if months = 1 then plan.priceStars else none

/-- `top_up_amount_stars` with the rate of 1.8 rubles for a Star. -/
def topUpAmountStars (amountRub : Money) : ℤ :=
  let stars := amountRub / (18 / 10)
  if 0 ≤ stars then ⌊stars + 1 / 2⌋ else -⌊-stars + 1 / 2⌋

/-- `calculate_plan_order_amount_stars`. -/
def calculatePlanOrderAmountStars (plan : Plan) (extraDevices : ℤ) : Option ℤ :=
  plan.priceStars.map fun total =>
    match plan.devicePriceStars with
    | none => total
    | some price => if 0 < extraDevices ∧ price ≠ 0 then total + price * extraDevices else total

/-- `BotApiService._resolve_order_amount_stars`. -/
def Database.resolveOrderAmountStars (db : Database) (order : PaymentOrder) : Option ℤ :=
  if order.provider ≠ .stars then none
  else match order.orderType with
    | .topUp => some (topUpAmountStars order.amountRub)
    | .deviceSlots => do
        let sub ← order.subscriptionId.bind db.subscriptions.find?
        let plan ← sub.planId.bind db.plans.find?
        let price ← plan.devicePriceStars
        if price = 0 then none else some (price * max order.deviceSlotsQty 1)
    | _ => do
        let plan ← order.planId.bind db.plans.find?
        calculatePlanOrderAmountStars plan order.deviceSlotsQty

/-- `BillingService.confirm_stars_payment` with what Telegram reports. The charge and the amount
are stored in the metadata of the order, which nothing reads. -/
def confirmStars (cfg : Settings) (orderId : Uuid) (_telegramPaymentChargeId : String)
    (_totalAmount : ℤ) : Service Unit :=
  confirmStarsPayment cfg orderId

/-- The confirmation of an amount fulfils the pending order. -/
def StarsFulfil (cfg : Settings) (world : World) (s : Store) (order : PaymentOrder)
    (chargeId : String) (totalAmount : ℤ) : Prop :=
  let confirmed := direct world (confirmStars cfg order.id chargeId totalAmount) s
  order.status = .pending ∧ confirmed.1.isOk ∧
    (confirmed.2.db.orders.find? order.id).any fun after => after.status = .completed

/-- What the bot shows for a plan: the base price, and the price of the devices. -/
theorem resolveOrderAmountStars_plan {db : Database}
    (hplan : db.plans.find? plan.id = some plan) (hplanId : order.planId = some plan.id)
    (hstars : order.provider = .stars)
    (htype : order.orderType ∈ [.planPurchase, .subscriptionRenewal])
    (hqty : 0 ≤ order.deviceSlotsQty) (hprice : plan.priceStars = some price)
    (hdevice : plan.devicePriceStars = some devicePrice) :
    db.resolveOrderAmountStars order = some (price + devicePrice * order.deviceSlotsQty) := by
  have hcalculated : calculatePlanOrderAmountStars plan order.deviceSlotsQty =
      some (price + devicePrice * order.deviceSlotsQty) := by
    simp only [calculatePlanOrderAmountStars, hprice, hdevice, map_some, some.injEq]
    split
    · rfl
    · rename_i hnone
      rcases not_and_or.mp hnone with hzero | hzero
      · simp [le_antisymm (not_lt.mp hzero) hqty]
      · simp [not_not.mp hzero]
  rcases List.mem_pair.mp htype with htype | htype <;>
    simp [Database.resolveOrderAmountStars, hstars, htype, hplanId, hplan, hcalculated]

namespace Scenario

/-- The plan for 100 Stars a month, 250 for three months and 50 for a device. -/
def starsPlan : Plan :=
  { plan with
    periods := [{ months := 3, priceRub := 250, priceStars := some 250 }]
    priceStars := some 100
    devicePriceStars := some 50 }

/-- Order 2 for some months of it. -/
def starsPending (months : ℤ) : PaymentOrder :=
  { pendingOrder with provider := .stars, periodMonths := months }

/-- The order waits for its Stars. -/
def starsStore (months : ℤ) : Store where
  db := { withOrder (database 0) (starsPending months) with plans := Table.empty.insert starsPlan }
  nextUuid := 4

end Scenario

end VpnControl.Billing
