/-
# What order creation writes

`create_order` ends in one of six ways: an order that waits for a gateway or a Stars
payment (a top-up, device slots or a plan), device slots or a plan bought from the
balance, or a free trial. `Placed` lists them with the row that is inserted and the
writes that follow it.
-/

import VpnControl.Billing.Fulfilment

namespace VpnControl.Billing

open Txn

variable {plan : Plan} {order : PaymentOrder} {α : Type} {S : Committed engine → Prop}
  {t mid : Tx engine} {R : α → List Write → Prop} {ws before : List Write} {fresh : Uuid}
  {data : OrderCreateIn} (cfg : Settings) (user : User) {amountRub : Money}

/-! ## Parts -/

/-- Neither the balance nor the free trial is a gateway. -/
theorem ne_of_getProvider {provider : PaymentProvider}
    (h : getProvider cfg.billing cfg.library provider.value = .ok verifyWebhook) :
    provider ≠ .balance ∧ provider ≠ .free := by
  constructor <;>
  · rintro rfl
    simp [getProvider, PaymentProvider.value] at h

/-- A payment is opened with a gateway or as a Stars invoice, never for the balance and
never for free. -/
theorem outcome_openPayment {description : String} :
    Outcome S t (openPayment cfg data amountRub description) fun _ ws =>
      ws = [] ∧ data.provider ≠ .balance ∧ data.provider ≠ .free := by
  unfold openPayment
  split
  · rename_i hstars
    refine outcome_uuid4 fun mid _ _ => outcome_pure ⟨rfl, ?_, ?_⟩ <;> simp [hstars]
  · split
    · exact .raise
    · rename_i hprovider
      refine .exec fun c hc => ?_
      dsimp only
      split
      · exact outcome_pure ⟨rfl, ne_of_getProvider cfg hprovider⟩
      · exact .raise
      · exact .raise

/-- A new order has a fresh id, and its quantity fits the column. -/
theorem outcome_createOrderRow {data : OrderInternalCreate} :
    Outcome S t (createOrderRow data) fun order ws => ∃ id now, t.session.nextUuid ≤ id ∧
      fitsInteger data.deviceSlotsQty ∧ order = data.row id now ∧ ws = [.insertOrder order] := by
  refine outcome_uuid4 fun mid _ _ => outcome_datetimeNow (.guard fun hfits => ?_)
  refine outcome_select fun c hc => .guard fun _ => ?_
  refine outcome_execute fun c hc => outcome_pure ?_
  exact ⟨_, _, le_refl _, not_not.mp hfits, rfl, rfl⟩

theorem outcome_refreshedOrder {id : Uuid} :
    Outcome S t (refreshedOrder id) fun order ws => ws = [] ∧
      Saw S t.writes fun db => db.orders.find? id = some order :=
  outcome_select_some rfl fun c _ hc hfound => outcome_pure ⟨rfl, c, hc, hfound⟩

/-- The writes of a trial. -/
inductive TrialDelivery (fresh user : Uuid) (plan : Plan) (order : PaymentOrder) : List Write → Prop
  | extended (id : Uuid) (expiresAt : Time) : TrialDelivery fresh user plan order
        [.updateSubscription id { expiresAt := some expiresAt, isActive := some true },
          .updateOrder order.id { subscriptionId := some id }]
  | created (id : Uuid) (now : Time) (hfresh : fresh ≤ id) : TrialDelivery fresh user plan order
        [.insertSubscription (SubscriptionInternalCreate.row
            { userId := user
              planId := some plan.id
              expiresAt := some (now + days plan.durationDays)
              maxDevices := some plan.includedDevices } id),
          .updateOrder order.id { subscriptionId := some id }]

theorem outcome_autoPurchaseFree {user : Uuid} (h : Since before fresh t) :
    Outcome S t (autoPurchaseFree user plan order now) fun _ =>
      TrialDelivery fresh user plan order := by
  refine outcome_select fun c hc => ?_
  cases (t.view c.state).activeSubscriptionForPlan user plan.id with
  | some existing =>
    refine outcome_execute fun c hc => outcome_execute_last ?_
    exact .extended existing.id _
  | none =>
    refine .bind outcome_createSubscriptionRow ?_
    rintro sub first mid _ ⟨id, hid, rfl, rfl⟩
    exact outcome_execute_last (.created id now (h.fresh.trans hid))

/-- A price is not negative unless device slots are taken back. -/
def NonnegQuote (data : OrderCreateIn) (plan : Plan) (amountRub : Money) : Prop :=
  0 ≤ data.deviceSlotsQty → 0 ≤ plan.devicePriceRub → 0 ≤ amountRub

theorem nonnegQuote_planAmount :
    NonnegQuote data plan (planAmount data plan periodPrice proration) := by
  intro hqty hprice
  have hslots : (0 : Money) ≤ data.deviceSlotsQty * plan.devicePriceRub :=
    mul_nonneg (Int.cast_nonneg hqty) hprice
  exact add_nonneg (le_max_left _ _) hslots

theorem outcome_validateAndQuote {user : Uuid} {plan : Option Uuid} :
    Outcome S t (validateAndQuote code user plan orderType amountRub) fun quote ws =>
      ws = [] ∧ 0 ≤ quote.amountAfter := by
  refine outcome_select fun c hc => outcome_reads (by simp) fun promo mid _ => ?_
  split
  · exact .raise
  · refine outcome_datetimeNow ?_
    split
    · exact .raise
    · refine outcome_reads (by simp) fun _ mid _ => .guard fun _ => ?_
      exact outcome_select fun c hc => .guard fun _ => outcome_pure ⟨rfl, le_max_left _ _⟩

theorem outcome_quoteOrder : Outcome S t (quoteOrder data plan) fun quote ws =>
      ws = [] ∧ NonnegQuote data plan quote.amountRub := by
  unfold quoteOrder
  split
  · exact .raise
  · refine outcome_reads (by simp) fun _ mid _ => outcome_reads (by simp) fun proration mid _ => ?_
    unfold applyPromo
    split
    · exact outcome_pure ⟨rfl, nonnegQuote_planAmount⟩
    · split
      · exact outcome_pure ⟨rfl, nonnegQuote_planAmount⟩
      · refine .bind outcome_validateAndQuote ?_
        rintro quote first mid _ ⟨rfl, hafter⟩
        exact outcome_pure ⟨rfl, fun _ _ => hafter⟩

/-! ## Orders -/

/-- The row of an order for device slots. -/
def slotOrder (data : OrderCreateIn) (amountRub : Money) (status : OrderStatus)
    (externalId : String) (expiresAt : Option Time) (subscriptionId : Option Uuid) :
    OrderInternalCreate where
  userId := data.userId
  amountRub := amountRub
  provider := data.provider
  status := status
  externalId := externalId
  expiresAt := expiresAt
  subscriptionId := subscriptionId
  orderType := .deviceSlots
  deviceSlotsQty := data.deviceSlotsQty

variable (S : Committed engine → Prop) (before : List Write) (fresh : Uuid)
    (data : OrderCreateIn) in
/-- The inserted order and all writes of a successful `create_order`. -/
inductive Placed : PaymentOrder → List Write → Prop
  | topUp (amountRub : Money) (externalId : String) (expiresAt : Time) (id : Uuid) (now : Time)
      (order : PaymentOrder) (htype : data.orderType = .topUp)
      (hgateway : data.provider ≠ .balance ∧ data.provider ≠ .free) (hamount : 0 < amountRub)
      (hfresh : fresh ≤ id)
      (horder : order = OrderInternalCreate.row
        { userId := data.userId
          amountRub := amountRub
          provider := data.provider
          externalId := externalId
          expiresAt := some expiresAt
          orderType := .topUp } id now) :
      Placed order [.insertOrder order]
  | slots (plan : Plan) (sub : Uuid) (externalId : String) (expiresAt : Time) (id : Uuid)
      (now : Time) (order : PaymentOrder) (htype : data.orderType = .deviceSlots)
      (hgateway : data.provider ≠ .balance ∧ data.provider ≠ .free)
      (hsub : data.subscriptionId = some sub)
      (hseen : Saw S before fun db => db.subscriptions.find? sub ≠ none)
      (hprice : 0 < plan.devicePriceRub) (hfits : fitsInteger data.deviceSlotsQty)
      (hfresh : fresh ≤ id)
      (horder : order = (slotOrder data (data.deviceSlotsQty * plan.devicePriceRub) .pending
        externalId (some expiresAt) none).row id now) :
      Placed order
        [.insertOrder order, .updateOrder order.id { subscriptionId := some sub }]
  | plan (plan : Plan) (quote : OrderQuote) (externalId : String) (expiresAt : Time) (id : Uuid)
      (now : Time) (order : PaymentOrder)
      (htype : data.orderType ∈ [.planPurchase, .subscriptionRenewal])
      (hgateway : data.provider ≠ .balance ∧ data.provider ≠ .free)
      (hplan : data.planId = some plan.id)
      (hseen : Saw S before fun db => db.plans.find? plan.id = some plan)
      (hquote : NonnegQuote data plan quote.amountRub) (hfits : fitsInteger data.deviceSlotsQty)
      (hfresh : fresh ≤ id)
      (horder : order = (planOrder data quote .pending externalId (some expiresAt)).row id now) :
      Placed order [.insertOrder order]
  | balanceSlots (plan : Plan) (sub : Uuid) (externalId : String) (id : Uuid)
      (created now : Time) (order : PaymentOrder) (debit : BalanceTransaction) (delivery : List Write)
      (htype : data.orderType = .deviceSlots) (hbalance : data.provider = .balance)
      (hsub : data.subscriptionId = some sub)
      (hseen : Saw S before fun db => db.subscriptions.find? sub ≠ none)
      (hprice : 0 < plan.devicePriceRub) (hfits : fitsInteger data.deviceSlotsQty)
      (hfresh : fresh ≤ id)
      (horder : order = (slotOrder data (data.deviceSlotsQty * plan.devicePriceRub) .paid
        externalId none (some sub)).row id created)
      (hposts : Posts debit data.userId (-order.amountRub) .deviceSlotPurchase (some order.id))
      (hdelivery : SlotDelivery S (before ++ .insertOrder order :: posting debit) order delivery) :
      Placed order (.insertOrder order :: (posting debit ++ (delivery ++
        [.updateOrder order.id
          { status := some .completed, paidAt := some now, completedAt := some now }])))
  | balancePlan (plan : Plan) (quote : OrderQuote) (externalId : String) (id : Uuid)
      (created now : Time) (order : PaymentOrder) (debit : BalanceTransaction) (sub : Uuid)
      (delivery promo : List Write)
      (htype : data.orderType ∈ [.planPurchase, .subscriptionRenewal])
      (hbalance : data.provider = .balance) (hplan : data.planId = some plan.id)
      (hseen : Saw S before fun db => db.plans.find? plan.id = some plan)
      (hquote : NonnegQuote data plan quote.amountRub) (hfits : fitsInteger data.deviceSlotsQty)
      (hfresh : fresh ≤ id)
      (horder : order = (planOrder data quote .paid externalId none).row id created)
      (hposts : Posts debit data.userId (-order.amountRub) .purchase (some order.id))
      (hdelivery : PlanDelivery S (before ++ .insertOrder order :: posting debit) fresh
        data.userId plan order now sub delivery)
      (hpromo : PromoRecorded order promo) :
      Placed order (.insertOrder order :: (posting debit ++ (delivery ++
        .updateOrder order.id
          { status := some .completed, paidAt := some now, completedAt := some now } :: promo)))
  | trial (plan : Plan) (externalId : String) (id : Uuid) (created now : Time)
      (order : PaymentOrder)
      (delivery : List Write) (hfree : data.provider = .free) (hfresh : fresh ≤ id)
      (horder : order = OrderInternalCreate.row
        { userId := data.userId
          planId := some plan.id
          amountRub := 0
          provider := .free
          status := .paid
          externalId := externalId } id created)
      (hdelivery : TrialDelivery fresh data.userId plan order delivery) :
      Placed order (.insertOrder order :: (delivery ++ [.updateOrder order.id
          { status := some .completed, paidAt := some now, completedAt := some now }]))

/-- What `create_order` returns: the inserted row, as inserted or as it is read back. -/
def Returned (S : Committed engine → Prop) (before : List Write) (order value : PaymentOrder)
    (ws : List Write) : Prop :=
  value = order ∨ Saw S (before ++ ws) fun db => db.orders.find? order.id = some value

/-- The outcome of a branch of `create_order`, after the writes `before`. -/
def CreatesFrom (S : Committed engine → Prop) (before : List Write) (fresh : Uuid) (t : Tx engine)
    (data : OrderCreateIn) (p : Service PaymentOrder) : Prop :=
  Outcome S t p fun value ws => ∃ order, Placed S before fresh data order ws ∧
    Returned S before order value ws

/-- The outcome of `create_order`. -/
def Creates (S : Committed engine → Prop) (t : Tx engine) (data : OrderCreateIn)
    (p : Service PaymentOrder) : Prop :=
  Outcome S t p fun value ws => ∃ order, Placed S t.writes t.session.nextUuid data order ws ∧
    Returned S t.writes order value ws

section

variable (h : Since before fresh t)

include h

theorem creates_reads {f : β → Service PaymentOrder} (hp : Writes (fun _ => False) p)
    (hf : ∀ value mid, Since before fresh mid → CreatesFrom S before fresh mid data (f value)) :
    CreatesFrom S before fresh t data (p >>= f) :=
  outcome_reads hp fun value mid hreach => hf value mid (h.reads hreach)

theorem creates_topUp (htype : data.orderType = .topUp) :
    CreatesFrom S before fresh t data (createTopUpOrder cfg user data) := by
  unfold createTopUpOrder
  split
  · exact .raise
  rename_i amountRub _
  refine .guard fun hamount => creates_reads h (by simp) fun expiresAt mid hmid => ?_
  refine .bind (outcome_openPayment cfg) ?_
  rintro externalId first opened hopened ⟨rfl, hgateway⟩
  refine outcome_createOrderRow.mono ?_
  rintro value ws ⟨id, now, hfresh, -, rfl, rfl⟩
  refine ⟨_, .topUp amountRub externalId expiresAt id now _ htype hgateway (not_le.mp hamount)
    ?_ rfl, .inl rfl⟩
  exact (hmid.reads hopened).fresh.trans hfresh

omit h in
/-- Reading an order back at the end. -/
theorem outcome_refreshed_last {f : List Write → List Write}
    (hplaced : Placed S before fresh data order ws)
    (hwrites : t.writes = before ++ ws) (hnil : f [] = ws) :
    Outcome S t (refreshedOrder order.id) fun value rest =>
      ∃ order, Placed S before fresh data order (f rest) ∧
        Returned S before order value (f rest) := by
  refine outcome_refreshedOrder.mono ?_
  rintro value rest ⟨rfl, hseen⟩
  rw [hwrites] at hseen
  rw [hnil]
  exact ⟨order, hplaced, .inr hseen⟩

theorem creates_balanceSlots (htype : data.orderType = .deviceSlots)
    (hbalance : data.provider = .balance) (hsub : data.subscriptionId = some sub)
    (hseen : Saw S before fun db => db.subscriptions.find? sub ≠ none)
    (hprice : 0 < plan.devicePriceRub) :
    CreatesFrom S before fresh t data (createBalanceDeviceSlotOrder data.userId sub data.deviceSlotsQty
      (data.deviceSlotsQty * plan.devicePriceRub)) := by
  refine outcome_datetimeNow (outcome_uuid4 fun drawn hdrawn _ => ?_)
  refine .bind outcome_createOrderRow ?_
  rintro order first inserted hinserted ⟨id, created, hfresh, hfits, horder, rfl⟩
  refine outcome_getUser (fun mid _ => .raise) fun user loaded hloaded => ?_
  have hplacing : t.Reaches S [.insertOrder order] loaded :=
    hdrawn.trans (hinserted.trans hloaded.reaches)
  refine .bind (outcome_fulfillDeviceSlots user.id (h.reaches hplacing)) ?_
  rintro - purchase paid hpaid (⟨debit, delivery, hposts, hdelivery, rfl⟩ | ⟨hfalse, -, -⟩)
  · refine outcome_execute fun c hc => ?_
    have hall := (hplacing.trans hpaid).tail c (.write (.updateOrder order.id
      { status := some .completed, paidAt := some t.session.now
        completedAt := some t.session.now })) hc
    have horder' : order = (slotOrder data (data.deviceSlotsQty * plan.devicePriceRub) .paid
        s!"balance_{t.session.nextUuid}" none (some sub)).row id created := by
      rw [horder, slotOrder, hbalance]
    rw [List.append_assoc] at hdelivery
    have hplaced := Placed.balanceSlots plan sub _ id created t.session.now order debit delivery
      htype hbalance hsub hseen hprice hfits ((h.reads hdrawn).fresh.trans hfresh) horder'
      (hloaded.id_eq ▸ hposts) hdelivery
    refine outcome_refreshed_last hplaced ?_ ?_
    · rw [(h.reaches hall).writes]
      simp [Stmt.writes]
    · simp
  · cases hfalse

theorem creates_slots {sub : Uuid} (htype : data.orderType = .deviceSlots)
    (hsub : data.subscriptionId = some sub)
    (hseen : Saw S before fun db => db.subscriptions.find? sub ≠ none)
    (hprice : 0 < plan.devicePriceRub) :
    CreatesFrom S before fresh t data (placeDeviceSlotOrder cfg data sub plan) := by
  refine outcome_datetimeNow ?_
  split
  · rename_i hbalance
    exact creates_balanceSlots h htype hbalance hsub hseen hprice
  · refine .bind (outcome_openPayment cfg) ?_
    rintro externalId first opened hopened ⟨rfl, hgateway⟩
    refine .bind outcome_createOrderRow ?_
    rintro order first inserted hinserted ⟨id, created, hfresh, hfits, horder, rfl⟩
    refine outcome_execute fun c hc => ?_
    have hall := (hopened.trans hinserted).tail c (.write (.updateOrder order.id
      { subscriptionId := some sub })) hc
    have hplaced := Placed.slots plan sub externalId _ id created order htype hgateway hsub hseen
      hprice hfits ((h.reads hopened).fresh.trans hfresh) horder
    exact outcome_refreshed_last hplaced (h.reaches hall).writes rfl

theorem creates_deviceSlots (htype : data.orderType = .deviceSlots) :
    CreatesFrom S before fresh t data (createDeviceSlotOrder cfg data) := by
  unfold createDeviceSlotOrder
  split
  · exact .raise
  rename_i sub hsub
  refine outcome_select_some rfl fun c found hc hfound => .guard fun _ => ?_
  have hseen : Saw S before fun db => db.subscriptions.find? sub ≠ none :=
    h.writes ▸ ⟨c, hc, fun hnone => by cases hfound.symm.trans hnone⟩
  refine creates_reads h (by simp) fun plan mid hmid => ?_
  cases plan with
  | none => exact .raise
  | some plan =>
    refine .guard fun _ => .guard fun hprice => ?_
    exact creates_slots cfg hmid htype hsub hseen (not_le.mp hprice)

theorem creates_trial (huser : user.id = data.userId) :
    CreatesFrom S before fresh t data (createTrial user plan data) := by
  refine .guard fun hfree => creates_reads h (by simp) fun used mid hmid => ?_
  refine .guard fun _ => creates_reads hmid (by simp) fun now mid hmid => ?_
  refine creates_reads hmid (by simp) fun live mid hmid => .guard fun _ => ?_
  refine creates_reads hmid (by simp) fun paid mid hmid => .guard fun _ => ?_
  refine outcome_datetimeNow (outcome_uuid4 fun drawn hdrawn _ => ?_)
  refine .bind outcome_createOrderRow ?_
  rintro order first inserted hinserted ⟨id, created, hfresh, hfits, horder, rfl⟩
  have hplacing := hdrawn.trans hinserted
  refine .bind (outcome_autoPurchaseFree (hmid.reaches hplacing)) ?_
  rintro - delivery delivered hdelivered hdelivery
  refine outcome_execute fun c hc => ?_
  have hall := (hplacing.trans hdelivered).tail c (.write (.updateOrder order.id
    { status := some .completed, paidAt := some mid.session.now
      completedAt := some mid.session.now })) hc
  have hplaced : Placed S before fresh data order _ :=
    .trial plan _ id created mid.session.now order delivery (not_not.mp hfree)
      ((hmid.reads hdrawn).fresh.trans hfresh) horder (huser ▸ hdelivery)
  refine outcome_refreshed_last hplaced ?_ ?_
  · rw [(hmid.reaches hall).writes]
    simp [Stmt.writes]
  · simp

theorem creates_balancePlan {quote : OrderQuote}
    (htype : data.orderType ∈ [.planPurchase, .subscriptionRenewal])
    (hbalance : data.provider = .balance) (hplan : data.planId = some plan.id)
    (hseen : Saw S before fun db => db.plans.find? plan.id = some plan)
    (hquote : NonnegQuote data plan quote.amountRub) (huser : user.id = data.userId) :
    CreatesFrom S before fresh t data (createBalancePlanOrder user plan data quote) := by
  refine outcome_datetimeNow (outcome_uuid4 fun drawn hdrawn _ => ?_)
  refine .bind outcome_createOrderRow ?_
  rintro order first inserted hinserted ⟨id, created, hfresh, hfits, horder, rfl⟩
  have hplacing : t.Reaches S [.insertOrder order] inserted := hdrawn.trans hinserted
  refine .bind (outcome_autoPurchase user.id (h.reaches hplacing)) ?_
  rintro - purchase paid hpaid (⟨debit, delivery, hposts, ⟨sub, hdelivery⟩, rfl⟩ | ⟨hfalse, -, -⟩)
  · refine outcome_execute fun c hc => ?_
    have hcompleted := (hplacing.trans hpaid).tail c (.write (.updateOrder order.id
      { status := some .completed, paidAt := some t.session.now
        completedAt := some t.session.now })) hc
    refine .bind outcome_recordPromoActivation ?_
    rintro - promo recorded hrecorded hpromo
    have hall := hcompleted.trans hrecorded
    rw [List.append_assoc] at hdelivery
    have hplaced := Placed.balancePlan plan quote _ id created t.session.now order debit sub
      delivery promo htype hbalance hplan hseen hquote hfits
      ((h.reads hdrawn).fresh.trans hfresh) horder (huser ▸ hposts) (huser ▸ hdelivery) hpromo
    refine outcome_refreshed_last hplaced ?_ ?_
    · rw [(h.reaches hall).writes]
      simp [Stmt.writes]
    · simp
  · cases hfalse

theorem creates_paidPlan (htype : data.orderType ∈ [.planPurchase, .subscriptionRenewal])
    (hplan : data.planId = some plan.id)
    (hseen : Saw S before fun db => db.plans.find? plan.id = some plan)
    (huser : user.id = data.userId) :
    CreatesFrom S before fresh t data (createPaidPlanOrder cfg user plan data) := by
  refine .guard fun _ => .bind outcome_quoteOrder ?_
  rintro quote first quoted hquoted ⟨rfl, hquote⟩
  refine creates_reads (h.reads hquoted) (by simp) fun expiresAt mid hmid => ?_
  split
  · rename_i hbalance
    exact creates_balancePlan user hmid htype hbalance hplan hseen hquote huser
  · refine .bind (outcome_openPayment cfg) ?_
    rintro externalId first opened hopened ⟨rfl, hgateway⟩
    refine outcome_createOrderRow.mono ?_
    rintro value ws ⟨id, created, hfresh, hfits, rfl, rfl⟩
    exact ⟨_, .plan plan quote externalId expiresAt id created _ htype hgateway hplan hseen
      hquote hfits ((hmid.reads hopened).fresh.trans hfresh) rfl, .inl rfl⟩

theorem creates_plan {user : User} (htype : data.orderType ∈ [.planPurchase, .subscriptionRenewal])
    (huser : user.id = data.userId) :
    CreatesFrom S before fresh t data (createPlanOrder cfg user data) := by
  unfold createPlanOrder
  split
  · exact .raise
  rename_i planId hplanId
  refine outcome_select_some rfl fun c plan hc hfound => ?_
  obtain rfl : plan.id = planId := Table.key_of_find? hfound
  refine creates_reads h (by simp) fun renewal mid hmid => .guard fun _ => ?_
  split
  · exact creates_trial user hmid huser
  · exact creates_paidPlan cfg user hmid htype hplanId (h.writes ▸ ⟨c, hc, hfound⟩) huser

end

/-- **What `create_order` writes.** -/
theorem creates_createOrder : Creates S t data (createOrder cfg data) := by
  refine outcome_getUser (fun mid _ => .raise) fun user mid hloaded => ?_
  have hmid := Since.here.reads hloaded.reaches
  have huser := hloaded.id_eq
  cases htype : data.orderType with
  | deviceSlots => exact creates_deviceSlots cfg hmid htype
  | topUp => exact creates_topUp cfg user hmid htype
  | planPurchase => exact creates_plan cfg hmid (by simp [htype]) huser
  | subscriptionRenewal => exact creates_plan cfg hmid (by simp [htype]) huser

end VpnControl.Billing
