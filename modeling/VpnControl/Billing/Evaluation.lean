/-
# What the methods compute

The value or the exception of the methods of a purchase on plain tables. The methods
that only read compute functions of the tables, which are named here; for the others
it is said when they return and which tables they leave.
-/

import VpnControl.Billing.Direct
import VpnControl.Billing.Fulfilment

namespace VpnControl.Billing

open Txn Option Database
open Table

variable {α β : Type} {world : World} {s s' : Store} {plan : Plan} {order : PaymentOrder}
  {db : Database} {id : Uuid}

/-- A sequence returns if both its parts do. -/
theorem direct_bind_ok {f : α → Service β} : direct world (p >>= f) s = (.ok value, s') ↔
      ∃ a mid, direct world p s = (.ok a, mid) ∧ direct world (f a) mid = (.ok value, s') := by
  rw [direct_bind]
  cases hp : direct world p s with
  | mk result => cases result <;> simp

/-- A sequence that returns has got past a lookup. -/
theorem direct_some
    {f : Option γ → Service β}
    (hp : direct world p s = (.ok found, mid)) (hnone : f none = raise error)
    (h : direct world (p >>= f) s = (.ok value, s')) :
    ∃ x, found = some x ∧ direct world (f (some x)) mid = (.ok value, s') := by
  rw [direct_bind, hp] at h
  cases found with
  | none => simp [hnone] at h
  | some x => exact ⟨x, rfl, h⟩

/-- A method that returns has got past its check. -/
theorem direct_guard [Decidable c] :
    direct world (if c then raise error else p) s = (.ok value, s') ↔
      ¬ c ∧ direct world p s = (.ok value, s') := by
  split <;> simp_all

/-- A method that was seen to return. -/
theorem exists_of_isOk (h : (direct world p s).1.isOk) :
    ∃ value s', direct world p s = (.ok value, s') := by
  cases hrun : direct world p s with
  | mk result s' =>
    cases result with
    | error =>
      rw [hrun] at h
      cases h
    | ok value => exact ⟨value, s', rfl⟩

theorem direct_map (f : α → β) (p : Service α) :
    direct world (f <$> p) s = match direct world p s with
      | (.ok value, s') => (.ok (f value), s')
      | (.error error, s') => (.error error, s') := by
  rw [← bind_pure_comp, direct_bind]
  rfl

/-! ## Switching plans -/

namespace Database

/-- The current subscription and its plan, if buying `newPlan` switches away from it. -/
def switchedPlan (db : Database) (user newPlan : Uuid) (now : Time) :
    Option (Subscription × Plan) :=
  match db.currentActiveSubscription user now with
  | none => none
  | some current =>
    match current.planId with
    | none => none
    | some oldPlanId =>
      if oldPlanId = newPlan then none
      else (db.plans.find? oldPlanId).map fun oldPlan => (current, oldPlan)

/-- The credit for the unused part of the plan a purchase switches away from. -/
def switchProration (db : Database) (user newPlan : Uuid) (now : Time) : Money :=
  match db.switchedPlan user newPlan now with
  | none => 0
  | some (current, oldPlan) =>
    prorationValue oldPlan (if current.periodMonths = 0 then 1 else current.periodMonths)
      current.expiresAt now

/-- The purchase switches away from a more expensive plan. -/
def downgrades (db : Database) (user : Uuid) (newPlan : Plan) (now : Time) : Bool :=
  (db.switchedPlan user newPlan.id now).any fun (_, oldPlan) => newPlan.priceRub < oldPlan.priceRub

end Database

@[simp]
theorem direct_switchedPlan : direct world (switchedPlan user newPlan) s =
      (.ok (s.db.switchedPlan user newPlan world.now), s) := by
  simp only [switchedPlan, currentActiveSubscription, direct_bind, direct_datetimeNow,
    direct_select, Database.switchedPlan]
  cases s.db.currentActiveSubscription user world.now with
  | none => rfl
  | some current =>
    dsimp only
    cases current.planId with
    | none => rfl
    | some oldPlanId =>
      by_cases hsame : oldPlanId = newPlan
      · simp [hsame]
      · simp only [hsame, if_false, getPlan, direct_bind, direct_select]
        cases s.db.plans.find? oldPlanId <;> rfl

@[simp]
theorem direct_switchProration : direct world (switchProration user newPlan orderType) s =
      (.ok (if orderType = .planPurchase then s.db.switchProration user newPlan world.now else 0),
        s) := by
  unfold switchProration
  by_cases htype : orderType = .planPurchase
  · simp only [htype, ne_eq, not_true_eq_false, if_false, if_true, direct_bind, direct_switchedPlan,
      Database.switchProration]
    cases s.db.switchedPlan user newPlan world.now with
    | none => rfl
    | some => rfl
  · simp [htype]

theorem direct_guardNoDowngrade : direct world (guardNoDowngrade user newPlan orderType) s =
      if orderType = .planPurchase ∧ s.db.downgrades user newPlan world.now then
        (.error (.planNotPurchasable "Downgrade applies at the end of the current period"), s)
      else (.ok (), s) := by
  unfold guardNoDowngrade
  by_cases htype : orderType = .planPurchase
  · simp only [htype, ne_eq, not_true_eq_false, if_false, direct_bind, direct_switchedPlan,
      downgrades, true_and]
    cases s.db.switchedPlan user newPlan.id world.now with
    | none => rfl
    | some found =>
      obtain ⟨current, oldPlan⟩ := found
      by_cases hcheaper : newPlan.priceRub < oldPlan.priceRub <;> simp [hcheaper]
  · simp [htype]

/-- The price of a plan for a user, after the credit for the plan it replaces. -/
def Database.previewOrderAmount (db : Database) (user planId : Uuid) (months : ℤ) (now : Time) :
    Except BillingError OrderPreviewOut :=
  match db.plans.find? planId with
  | none => .error (.planNotPurchasable "Plan is not available")
  | some plan =>
    match resolvePeriodPrice plan months with
    | none => .error (.planNotPurchasable "Selected period is not available for this plan")
    | some periodPrice =>
      .ok
        { planId := planId
          periodMonths := months
          periodPrice := periodPrice
          prorationCredit := db.switchProration user planId now
          amountDue := max 0 (periodPrice - db.switchProration user planId now)
          isSwitch := 0 < db.switchProration user planId now }

@[simp]
theorem direct_previewOrderAmount (user planId : Uuid) (months : ℤ) :
    direct world (previewOrderAmount user planId months) s =
      (s.db.previewOrderAmount user planId months world.now, s) := by
  simp only [previewOrderAmount, Database.previewOrderAmount, getPlan, direct_bind, direct_select]
  cases s.db.plans.find? planId with
  | none => rfl
  | some plan =>
    dsimp only
    cases resolvePeriodPrice plan months with
    | none => rfl
    | some => simp only [direct_bind, direct_switchProration, direct_pure, if_true]

/-- The price of an order before its promo code. -/
def Database.planAmount (db : Database) (data : OrderCreateIn) (plan : Plan) (periodPrice : Money)
    (now : Time) : Money :=
  Billing.planAmount data plan periodPrice
    (if data.orderType = .planPurchase then db.switchProration data.userId plan.id now else 0)

/-- The price of an order without a promo code, or with one that there is nothing to apply
to. -/
theorem direct_quoteOrder (world : World)
    (hprice : resolvePeriodPrice plan data.periodMonths = some periodPrice)
    (hpromo : data.promoCode = none ∨ s.db.planAmount data plan periodPrice world.now ≤ 0) :
    direct world (quoteOrder data plan) s =
      if data.orderType = .planPurchase ∧ s.db.downgrades data.userId plan world.now then
        (.error (.planNotPurchasable "Downgrade applies at the end of the current period"), s)
      else (.ok { amountRub := s.db.planAmount data plan periodPrice world.now }, s) := by
  have happly : direct world
      (applyPromo data plan (s.db.planAmount data plan periodPrice world.now)) s =
        (.ok { amountRub := s.db.planAmount data plan periodPrice world.now }, s) := by
    unfold applyPromo
    cases hcode : data.promoCode with
    | none => rfl
    | some =>
      rcases hpromo with hnone | hle
      · cases hcode.symm.trans hnone
      · simp [hle]
  by_cases hdown : data.orderType = .planPurchase ∧ s.db.downgrades data.userId plan world.now
  · simp only [quoteOrder, hprice, direct_bind, direct_guardNoDowngrade, hdown, and_self, if_true]
  · simp only [quoteOrder, hprice, direct_bind, direct_guardNoDowngrade, hdown, if_false,
      direct_switchProration]
    exact happly

/-! ## Orders and their payment -/

/-- An order is inserted unless its quantity does not fit or its external id is taken. -/
theorem direct_createOrderRow : direct world (createOrderRow data) s = (.ok order, s') ↔
      (fitsInteger data.deviceSlotsQty ∧
        ∀ other ∈ s.db.orders.rows, other.externalId ≠ data.externalId) ∧
      order = data.row s.nextUuid world.now ∧
      s' = { db := s.db.apply (.insertOrder (data.row s.nextUuid world.now))
             nextUuid := s.nextUuid + 1 } := by
  by_cases hfits : fitsInteger data.deviceSlotsQty
  · by_cases htaken : (s.db.orders.rows.any fun other => other.externalId = data.externalId) = true
    · have hnot : ¬ ∀ other ∈ s.db.orders.rows, other.externalId ≠ data.externalId := by
        simpa using htaken
      simp [createOrderRow, direct_bind, hfits, htaken, hnot]
    · have hnew : ∀ other ∈ s.db.orders.rows, other.externalId ≠ data.externalId := by
        simpa using htaken
      rw [Bool.not_eq_true] at htaken
      simp only [createOrderRow, direct_bind, direct_uuid4, direct_datetimeNow, direct_select,
        direct_execute, direct_pure, hfits, htaken, not_true_eq_false, if_false,
        Bool.false_eq_true, Prod.mk.injEq, Except.ok.injEq]
      exact ⟨fun h => ⟨⟨trivial, hnew⟩, h.1.symm, h.2.symm⟩, fun h => ⟨h.2.1.symm, h.2.2.symm⟩⟩
  · simp [createOrderRow, direct_bind, hfits]

/-- A purchase that the balance covers debits it and goes on to deliver. -/
theorem direct_payFromBalance (world : World)
    (hholder : s.db.users.find? user = some holder) (hcovers : order.amountRub ≤ holder.balance) :
    ∃ row, direct world (payFromBalance user order type description strict deliver) s =
      direct world (deliver holder.id)
        { db := (s.db.apply (.setBalance holder.id (holder.balance - order.amountRub))).apply
            (.insertTransaction row)
          nextUuid := s.nextUuid + 1 } := by
  refine ⟨
    { id := s.nextUuid, userId := holder.id, amount := -order.amountRub
      balanceAfter := holder.balance - order.amountRub, type := type, orderId := some order.id
      description := some description }, ?_⟩
  simp [payFromBalance, updateUserBalance, recordTransaction, direct_bind, hholder,
    not_lt.mpr hcovers]

/-! ## Delivery -/

namespace Database

/-- The subscription a renewal names, if it is one of this user and plan. -/
def renewalTarget (db : Database) (user : Uuid) (plan : Plan) (order : PaymentOrder) :
    Option Subscription :=
  match order.subscriptionId with
  | none => none
  | some id =>
    if order.orderType ≠ .subscriptionRenewal then none
    else (db.subscriptions.find? id).filter fun existing =>
      existing.userId = user ∧ existing.planId = some plan.id

/-- The subscription a purchase extends, and whether that changes its plan. -/
def purchaseTarget (db : Database) (user : Uuid) (plan : Plan) (order : PaymentOrder) :
    Option (Subscription × Bool) :=
  match db.renewalTarget user plan order with
  | some existing => some (existing, false)
  | none =>
    match db.activeSubscriptionForPlan user plan.id with
    | some existing => some (existing, false)
    | none => (db.latestSubscription user).map fun existing =>
      (existing, decide (existing.planId ≠ some plan.id))

end Database

theorem direct_renewalTarget : direct world (renewalTarget user plan order) s =
      (.ok (s.db.renewalTarget user plan order), s) := by
  unfold renewalTarget Database.renewalTarget
  cases order.subscriptionId with
  | none => rfl
  | some id =>
    dsimp only
    by_cases htype : order.orderType = .subscriptionRenewal
    · simp only [htype, ne_eq, not_true_eq_false, if_false, getSubscription, direct_bind,
        direct_select]
      cases s.db.subscriptions.find? id with
      | none => rfl
      | some existing =>
        by_cases howner : existing.userId = user <;>
          by_cases hplan : existing.planId = some plan.id <;>
            simp [howner, hplan, Option.filter]
    · simp [htype]

@[simp]
theorem direct_purchaseTarget (user : Uuid) (plan : Plan) (order : PaymentOrder) :
    direct world (purchaseTarget user plan order) s =
      (.ok (s.db.purchaseTarget user plan order), s) := by
  simp only [purchaseTarget, Database.purchaseTarget, direct_bind, direct_renewalTarget]
  cases s.db.renewalTarget user plan order with
  | some => rfl
  | none =>
    simp only [direct_bind, direct_select]
    cases s.db.activeSubscriptionForPlan user plan.id with
    | some => rfl
    | none =>
      simp only [direct_bind, direct_select]
      cases s.db.latestSubscription user <;> rfl

/-- Extending a subscription fails only if its keys cannot be restored. -/
theorem direct_extendSubscription (hrow : s.db.subscriptions.find? existing.id = some existing) :
    (∃ s', direct world (extendSubscription existing planChanged plan order now) s =
      (.ok (), s')) ↔ world.restore existing.id = .ok () := by
  have hfound : ((s.db.apply (.updateSubscription existing.id
      (extensionPatch existing planChanged plan order now))).apply
        (.updateOrder order.id { subscriptionId := some existing.id })).subscriptions.find?
          existing.id = some ((extensionPatch existing planChanged plan order now).set existing) := by
    have hself : (s.db.apply (.updateSubscription existing.id
        (extensionPatch existing planChanged plan order now))).subscriptions.find? existing.id = _ :=
      Table.find?_modify_self (extensionPatch existing planChanged plan order now).set fun _ => rfl
    rw [hrow] at hself
    exact hself
  simp only [extendSubscription, activate, updateSubscription, updateOrder, getSubscription,
    direct_bind, direct_execute, direct_select, hfound, direct_restoreKeys]
  have hid : ((extensionPatch existing planChanged plan order now).set existing).id =
      existing.id := rfl
  rw [hid]
  cases world.restore existing.id with
  | error => simp
  | ok => simp

/-- Delivering a plan fails only if the keys of the extended subscription cannot be
restored, or the created one has no or too many devices. -/
theorem direct_deliverPlan (htarget : ∀ existing planChanged,
      s.db.purchaseTarget user plan order = some (existing, planChanged) →
        s.db.subscriptions.find? existing.id = some existing) :
    (∃ s', direct world (deliverPlan user plan order now) s = (.ok (), s')) ↔
      match s.db.purchaseTarget user plan order with
      | some (existing, _) => world.restore existing.id = .ok ()
      | none => 1 ≤ plan.includedDevices + order.deviceSlotsQty ∧
          plan.includedDevices + order.deviceSlotsQty ≤ 100 := by
  simp only [deliverPlan, direct_bind, direct_purchaseTarget]
  cases hfound : s.db.purchaseTarget user plan order with
  | some target =>
    obtain ⟨existing, planChanged⟩ := target
    exact direct_extendSubscription (htarget existing planChanged hfound)
  | none =>
    simp only [createPurchased, createSubscriptionRow, purchasedSubscription, any_some, updateOrder]
    by_cases hbad : plan.includedDevices + order.deviceSlotsQty ≤ 0 ∨
        100 < plan.includedDevices + order.deviceSlotsQty
    · simp only [hbad, decide_true, if_true, direct_bind, direct_raise]
      constructor
      · rintro ⟨s', hs'⟩
        cases hs'
      · rintro ⟨hlow, hhigh⟩
        omega
    · simp only [hbad, decide_false, Bool.false_eq_true, if_false, direct_bind, direct_uuid4,
        direct_execute, direct_pure]
      constructor
      · intro _
        omega
      · intro _
        exact ⟨_, rfl⟩

/-! ## Buying a plan from the balance -/

/-- What a run has written, with whatever holds of every write of the method. -/
theorem exists_writes_of_direct (h : direct world p s = (result, s')) : ∃ ws : List Write,
      s'.db = ws.foldl apply s.db ∧ ∀ W, Writes W p → ∀ w ∈ ws, W w := by
  induction p generalizing s with
  | ret =>
    cases h
    exact ⟨[], rfl, by simp⟩
  | raise =>
    cases h
    exact ⟨[], rfl, by simp⟩
  | exec op _ ih =>
    have hdb : (op.direct world s).2.db = op.writes.foldl apply s.db := by
      cases op <;> rfl
    obtain ⟨ws, hws, hall⟩ := ih _ h
    refine ⟨op.writes ++ ws, by rw [hws, hdb, List.foldl_append], fun W hp => ?_⟩
    exact List.forall_mem_append.mpr ⟨hp.1, hall W (hp.2 _)⟩

theorem terms_of_apply (h : db.orders.find? id = some order) : ∃ row,
    (db.apply w).orders.find? id = some row ∧ row.terms = order.terms :=
  ⟨_, find?_order_apply h w, order.terms_patched _⟩

theorem direct_terms
    (h : s.db.orders.find? id = some order) (hrun : direct world p s = (result, s')) :
    ∃ order', s'.db.orders.find? id = some order' ∧ order'.terms = order.terms := by
  obtain ⟨ws, hws, -⟩ := exists_writes_of_direct hrun
  exact ⟨_, hws ▸ find?_order_foldl h ws, order.terms_patched _⟩

theorem days_periodDays_pos (months : ℤ) : 0 < days (periodDays months) := by
  unfold periodDays
  split_ifs <;> decide

/-- The plan can be delivered to the user. -/
def Deliverable (world : World) (db : Database) (user : Uuid) (plan : Plan)
    (order : PaymentOrder) : Prop :=
  match db.purchaseTarget user plan order with
  | some (existing, _) => world.restore existing.id = .ok ()
  | none => 1 ≤ plan.includedDevices + order.deviceSlotsQty ∧
      plan.includedDevices + order.deviceSlotsQty ≤ 100

/-- Only a renewal extends the subscription it names. -/
theorem renewalTarget_of_planPurchase
    (h : order.orderType = .planPurchase) : db.renewalTarget user plan order = none := by
  unfold Database.renewalTarget
  cases order.subscriptionId <;> simp [h]

theorem find?_of_purchaseTarget
    (h : db.purchaseTarget user plan order = some (existing, planChanged)) :
    existing.userId = user ∧ db.subscriptions.find? existing.id = some existing := by
  unfold Database.purchaseTarget at h
  cases hrenewal : db.renewalTarget user plan order with
  | some =>
    rw [hrenewal] at h
    cases h
    unfold Database.renewalTarget at hrenewal
    split at hrenewal
    · cases hrenewal
    · split at hrenewal
      · cases hrenewal
      · obtain ⟨hfound, hmatch⟩ := filter_eq_some_iff.mp hrenewal
        exact ⟨(of_decide_eq_true hmatch).1, Table.find?_of_mem (mem_of_find? hfound)⟩
  | none =>
    rw [hrenewal] at h
    dsimp only at h
    cases hactive : db.activeSubscriptionForPlan user plan.id with
    | some =>
      rw [hactive] at h
      cases h
      exact find?_of_activeSubscriptionForPlan hactive
    | none =>
      rw [hactive] at h
      obtain ⟨latest, hlatest, heq⟩ := map_eq_some_iff.mp h
      cases heq
      exact find?_of_latestSubscription hlatest

theorem direct_autoPurchase (hholder : s.db.users.find? user = some holder) :
    (∃ s', direct world (autoPurchase user plan order now true) s = (.ok (), s')) ↔
      order.amountRub ≤ holder.balance ∧ Deliverable world s.db user plan order := by
  have hid : holder.id = user := key_of_find? hholder
  by_cases hcovers : order.amountRub ≤ holder.balance
  · obtain ⟨row, hrun⟩ := direct_payFromBalance world hholder hcovers
    simp only [hcovers, true_and]
    unfold autoPurchase
    rw [hrun, hid]
    exact direct_deliverPlan fun existing planChanged h => (find?_of_purchaseTarget h).2
  · simp only [hcovers, false_and, iff_false, not_exists]
    intro s'
    simp [autoPurchase, payFromBalance, insufficientBalance, direct_bind, hholder,
      not_le.mp hcovers]

theorem direct_recordPromoActivation (order : PaymentOrder) (s : Store) :
    ∃ s', direct world (recordPromoActivation order) s = (.ok (), s') := by
  unfold recordPromoActivation
  split
  · exact ⟨_, rfl⟩
  · exact ⟨s, rfl⟩

theorem direct_refreshedOrder (hrow : s.db.orders.find? id = some order) :
    direct world (refreshedOrder id) s = (.ok order, s) := by
  simp [refreshedOrder, getOrderRow, direct_bind, hrow]

theorem find?_insertOrder :
    ∃ found, (db.apply (.insertOrder row)).orders.find? row.id = some found ∧
      (db.orders.find? row.id = none → found = row) := by
  cases htaken : db.orders.find? row.id with
  | none => exact ⟨row, Table.find?_insert_self htaken, fun _ => rfl⟩
  | some old => exact ⟨old, find?_insert_of_some htaken, nofun⟩

/-- The row of a plan order that is bought from the balance. -/
def balancePlanRow (world : World) (data : OrderCreateIn) (quote : OrderQuote) (uuid : Uuid) :
    PaymentOrder :=
  (planOrder data quote .paid s!"balance_{uuid}" none).row (uuid + 1) world.now

/-- What has to hold for a plan to be bought from the balance. -/
structure Buyable (world : World) (s : Store) (user : User) (plan : Plan) (data : OrderCreateIn)
    (quote : OrderQuote) (holder : User) : Prop where
  fits : fitsInteger data.deviceSlotsQty
  fresh : ∀ other ∈ s.db.orders.rows, other.externalId ≠ s!"balance_{s.nextUuid}"
  covers : quote.amountRub ≤ holder.balance
  deliverable : Deliverable world s.db user.id plan (balancePlanRow world data quote s.nextUuid)

section

variable {user holder : User} {data : OrderCreateIn} {quote : OrderQuote}

/-- A plan that can be bought is bought, at the price of the quote. -/
theorem Buyable.direct (h : Buyable world s user plan data quote holder)
    (hholder : s.db.users.find? user.id = some holder) :
    ∃ value s', direct world (createBalancePlanOrder user plan data quote) s = (.ok value, s') ∧
      (s.db.orders.find? (s.nextUuid + 1) = none → value.amountRub = quote.amountRub) := by
  let row := balancePlanRow world data quote s.nextUuid
  let inserted : Store := { db := s.db.apply (.insertOrder row), nextUuid := s.nextUuid + 1 + 1 }
  have hcreated : Billing.direct world (createOrderRow (planOrder data quote .paid
      s!"balance_{s.nextUuid}" none)) { s with nextUuid := s.nextUuid + 1 } = (.ok row, inserted) :=
    direct_createOrderRow.mpr ⟨⟨h.fits, h.fresh⟩, rfl, rfl⟩
  have hholder' : inserted.db.users.find? user.id = some holder := hholder
  obtain ⟨bought, hbought⟩ := (direct_autoPurchase hholder').mpr ⟨h.covers, h.deliverable⟩
  obtain ⟨found, hfound, hsame⟩ := find?_insertOrder
  -- from here on the order exists, and its terms stay
  let completed : OrderInternalUpdate :=
    { status := some .completed, paidAt := some world.now, completedAt := some world.now }
  obtain ⟨first, hfirst, hterms⟩ := direct_terms hfound hbought
  obtain ⟨second, hsecond, hterms'⟩ := terms_of_apply hfirst
  obtain ⟨done, hdone⟩ := direct_recordPromoActivation row
    (Billing.direct world (updateOrder row.id completed) bought).2
  obtain ⟨value, hvalue, hterms''⟩ := direct_terms hsecond hdone
  refine ⟨value, done, ?_, fun hnone => ?_⟩
  · refine direct_bind_ok.mpr ⟨_, _, rfl, direct_bind_ok.mpr ⟨_, _, rfl, ?_⟩⟩
    refine direct_bind_ok.mpr ⟨row, inserted, hcreated, direct_bind_ok.mpr ⟨(), bought, hbought, ?_⟩⟩
    exact direct_bind_ok.mpr ⟨(), _, rfl, direct_bind_ok.mpr ⟨(), done, hdone,
      direct_refreshedOrder hvalue⟩⟩
  · have hall : value.terms = row.terms := by
      rw [hterms'', hterms', hterms, hsame hnone]
    exact (congrArg PaymentOrder.amountRub hall :)

/-- Only a plan that can be bought is bought. -/
theorem Buyable.of_direct (hholder : s.db.users.find? user.id = some holder)
    (hrun : Billing.direct world (createBalancePlanOrder user plan data quote) s =
      (.ok value, s')) : Buyable world s user plan data quote holder := by
  obtain ⟨now, first, hnow, hrun⟩ := direct_bind_ok.mp hrun
  cases hnow
  obtain ⟨token, second, htoken, hrun⟩ := direct_bind_ok.mp hrun
  cases htoken
  obtain ⟨row, inserted, hcreated, hrun⟩ := direct_bind_ok.mp hrun
  obtain ⟨⟨hfits, hfresh⟩, rfl, rfl⟩ := direct_createOrderRow.mp hcreated
  obtain ⟨⟨⟩, bought, hbought, _⟩ := direct_bind_ok.mp hrun
  let row := balancePlanRow world data quote s.nextUuid
  let inserted : Store := { db := s.db.apply (.insertOrder row), nextUuid := s.nextUuid + 1 + 1 }
  have hholder' : inserted.db.users.find? user.id = some holder := hholder
  have hpurchased : Billing.direct world (autoPurchase user.id plan row world.now true) inserted =
      (.ok (), bought) := hbought
  obtain ⟨hcovers, hdeliverable⟩ := (direct_autoPurchase hholder').mp ⟨bought, hpurchased⟩
  exact ⟨hfits, hfresh, hcovers, hdeliverable⟩

end

/-! ## Ordering a plan -/

/-- The renewal target of a request, if it names one of its user and plan. -/
theorem direct_renewalSubscription (world : World)
    (h : ∀ id, data.subscriptionId = some id → ∃ sub, s.db.subscriptions.find? id = some sub ∧
      sub.userId = data.userId ∧ sub.planId = data.planId) :
    ∃ renewal, direct world (renewalSubscription data) s = (.ok renewal, s) ∧
      (renewal.isSome ↔ data.subscriptionId.isSome) := by
  unfold renewalSubscription
  cases hsub : data.subscriptionId with
  | none => exact ⟨none, rfl, by simp⟩
  | some id =>
    obtain ⟨sub, hfound, howner, hplan⟩ := h id hsub
    refine ⟨some sub, ?_, by simp⟩
    simp [getSubscription, direct_bind, hfound, howner, hplan]

/-- A request for a plan that is for sale is priced and paid. -/
theorem direct_createOrder_plan (cfg : Settings)
    (htype : data.orderType ∈ [.planPurchase, .subscriptionRenewal])
    (huser : s.db.users.find? data.userId = some user) (hplan : data.planId = some plan.id)
    (hfound : s.db.plans.find? plan.id = some plan)
    (hsub : ∀ id, data.subscriptionId = some id → ∃ sub, s.db.subscriptions.find? id = some sub ∧
      sub.userId = data.userId ∧ sub.planId = data.planId)
    (hsale : plan.isActive = true ∨ data.subscriptionId.isSome) (hprice : 0 < plan.priceRub) :
    direct world (createOrder cfg data) s =
      direct world (createPaidPlanOrder cfg user plan data) s := by
  have hcreate : direct world (createOrder cfg data) s =
      direct world (createPlanOrder cfg user data) s := by
    simp only [createOrder, direct_bind, direct_getUser, huser]
    cases hdata : data.orderType <;> simp_all
  obtain ⟨renewal, hrenewal, hsome⟩ := direct_renewalSubscription world hsub
  have hoffered : ¬ (¬ plan.isActive = true ∧ renewal.isNone = true) := by
    rintro ⟨hinactive, hnone⟩
    rcases hsale with hactive | hnamed
    · exact hinactive hactive
    · cases renewal <;> simp_all
  rw [hcreate]
  simp only [createPlanOrder, hplan, getPlan, direct_bind, direct_select, hfound, hrenewal,
    hoffered, if_false, not_le.mpr hprice]

theorem direct_createPaidPlanOrder_balance (cfg : Settings) (hbalance : data.provider = .balance) :
    direct world (createPaidPlanOrder cfg user plan data) s =
      direct world (quoteOrder data plan >>= createBalancePlanOrder user plan data) s := by
  simp [createPaidPlanOrder, hbalance, direct_bind, orderExpiry]

end VpnControl.Billing
