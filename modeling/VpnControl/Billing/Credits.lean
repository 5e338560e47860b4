/-
# The credit for the rest of a paid period

Whoever buys another plan while one is running pays less: `_switch_proration` credits the
unused part of the running subscription. The credit is computed when the order is
created. The subscription that is given up for it is looked up again when the order is
paid, and may be another one, or may have been given up for an earlier order already. A
run in which the credited subscription still is the one that the purchase switches, and
was not switched since, spends every paid period at most once.
-/

import Mathlib.Algebra.BigOperators.Group.Finset.Basic
import VpnControl.Billing.Quantities

namespace VpnControl.Billing

open Txn List Option Database Operation
open Table

variable {op : Operation}

section

variable {cfg : Settings} {c : Committed engine} {world : World} {s s' : Store} {now : Time}
  {db db' : Database} {order : PaymentOrder} {plan : Plan} {data : OrderCreateIn} {id : Uuid}
  {strict : Bool}

/-! ## Purchases in the ledger -/

/-- How many purchases the ledger has for an order. -/
def Database.purchases (db : Database) (order : Uuid) : ℕ :=
  db.transactions.countP fun row => row.orderId = some order ∧ row.type = .purchase

/-- A write that records no purchase. -/
def Write.SparesPurchases : Write → Prop
  | .insertTransaction row => row.orderId = none ∨ row.type ≠ .purchase
  | _ => True

theorem purchases_insertTransaction :
    (db.apply (.insertTransaction row)).purchases id = db.purchases id +
      if row.orderId = some id ∧ row.type = .purchase then 1 else 0 := by
  simp only [purchases, apply, countP_append]
  by_cases h : row.orderId = some id ∧ row.type = .purchase <;> simp [h]

theorem direct_sparesPurchases {p : Service α} (hp : Writes Write.SparesPurchases p)
    (h : direct world p s = (result, s')) :
    s'.db.purchases = s.db.purchases := by
  refine direct_unchanged purchases (fun w db hspares => ?_) hp h
  cases w with
  | insertTransaction =>
    funext id
    rw [purchases_insertTransaction]
    rcases hspares with hnone | htype
    · simp [hnone]
    · simp [htype]
  | _ => rfl

/-! ## Fulfilment of a plan order -/

/-- The plan of an order was delivered: if there was a subscription to extend, it was
extended. -/
def Delivers (db : Database) (order : PaymentOrder) (plan : Plan) (now : Time)
    (db' : Database) : Prop :=
  ∀ sub planChanged, db.purchaseTarget order.userId plan order = some (sub, planChanged) →
    db'.subscriptions.find? sub.id = some ((extensionPatch sub planChanged plan order now).set sub)

theorem Delivers.congr (h : Delivers db order plan now db')
    (hstart : start.subscriptions = db.subscriptions)
    (hdone : done.subscriptions = db'.subscriptions) : Delivers start order plan now done := by
  intro sub planChanged htarget
  rw [purchaseTarget_congr hstart] at htarget
  rw [hdone]
  exact h sub planChanged htarget

theorem delivers_of_deliverPlan
    (h : direct world (deliverPlan order.userId plan order now) s = (.ok (), s')) :
    Delivers s.db order plan now s'.db := by
  intro sub planChanged htarget
  unfold deliverPlan at h
  rw [direct_bind, direct_purchaseTarget, htarget] at h
  rw [find?_of_extendSubscription (find?_of_purchaseTarget htarget).2 h sub.id, if_pos rfl]

/-- A purchase from the balance debits and delivers, or it does nothing. -/
theorem delivers_of_autoPurchase
    (h : direct world (autoPurchase order.userId plan order now strict) s = (.ok (), s')) :
    s' = s ∨ Delivers s.db order plan now s'.db ∧
      ∀ id, id ≠ order.id → s'.db.purchases id = s.db.purchases id := by
  rcases posted_of_payFromBalance h with ⟨holder, row, -, -, hposts, -, hdeliver⟩ | ⟨-, rfl⟩
  · refine .inr ⟨(delivers_of_deliverPlan hdeliver).congr rfl rfl, fun id hne => ?_⟩
    have hspares := direct_sparesPurchases
      (.deliverPlan (fun _ => trivial) (fun _ _ => trivial) fun _ => trivial) hdeliver
    have hposted : (posted row s).db.purchases id = s.db.purchases id + _ :=
      purchases_insertTransaction
    rw [hspares, hposted, hposts.orderId]
    simp [Ne.symm hne]
  · exact .inl rfl

theorem purchases_of_fulfillDeviceSlots
    (h : direct world (fulfillDeviceSlots user order strict) s = (.ok (), s')) :
    s'.db.purchases id = s.db.purchases id := by
  rcases posted_of_payFromBalance h with ⟨holder, row, -, -, hposts, -, hdeliver⟩ | ⟨-, rfl⟩
  · have hspares := direct_sparesPurchases (.addDeviceSlots fun _ _ => trivial) hdeliver
    have hposted : (posted row s).db.purchases id = s.db.purchases id + _ :=
      purchases_insertTransaction
    rw [hspares, hposted, hposts.type]
    simp
  · rfl

/-- Delivering an order leaves the purchases of every other order, and its own unless its
plan is delivered. -/
theorem purchases_of_deliverOrder (haccount : account.id = order.userId)
    (h : direct world (deliverOrder account order now) s = (.ok (), s')) :
    s'.db.purchases id = s.db.purchases id ∨ id = order.id ∧
      ∃ plan, order.orderType ≠ .deviceSlots ∧ order.planId = some plan.id ∧
        s.db.plans.find? plan.id = some plan ∧ Delivers s.db order plan now s'.db := by
  unfold deliverOrder at h
  split at h
  · exact .inl (purchases_of_fulfillDeviceSlots h)
  · rename_i htype
    split at h
    · cases h
      exact .inl rfl
    · rename_i planId hplanId
      unfold getPlan at h
      rw [direct_select_bind] at h
      cases hplan : s.db.plans.find? planId with
      | none =>
        simp only [hplan] at h
        cases h
        exact .inl rfl
      | some plan =>
        obtain rfl : plan.id = planId := key_of_find? hplan
        simp only [hplan] at h
        split at h
        · rw [haccount] at h
          rcases delivers_of_autoPurchase h with rfl | ⟨hdelivers, hothers⟩
          · exact .inl rfl
          · by_cases hid : id = order.id
            · exact .inr ⟨hid, plan, htype, hplanId, hplan, hdelivers⟩
            · exact .inl (hothers id hid)
        · cases h
          exact .inl rfl

/-- How an operation comes to record a purchase of an order: it delivers the plan of a
pending order that it pays, or of an order that it places and pays from the balance. -/
inductive PlanFulfilment (cfg : Settings) (now : Time) (db : Database) (op : Operation)
    (db' : Database) (id : Uuid) : Prop
  | paid (order : PaymentOrder) (plan : Plan) (providerName : String)
      (hpays : Pays cfg db op order providerName) (hpending : order.status = .pending)
      (hid : order.id = id) (hplanId : order.planId = some plan.id)
      (hdelivers : Delivers db order plan now db') : PlanFulfilment cfg now db op db' id
  | bought (data : OrderCreateIn) (order : PaymentOrder) (plan : Plan)
      (hop : op = .createOrder data) (hbalance : data.provider = .balance) (hid : order.id = id)
      (hfresh : db.freshUuid ≤ id) (hasks : data.Asks order)
      (hmonths : order.periodMonths = data.periodMonths) (hdata : data.planId = some plan.id)
      (hdelivers : Delivers db order plan now db') : PlanFulfilment cfg now db op db' id

theorem planFulfilment_of_settled
    (hpays : Pays cfg s.db op order providerName) (hpending : order.status = .pending)
    (h : Settled cfg world order providerName s s') (hid : s'.db.purchases id ≠ s.db.purchases id) :
    PlanFulfilment cfg world.now s.db op s'.db id := by
  obtain ⟨account, fee, payment, recorded, delivered, huser, hpayment, hrecorded, hdelivered,
    hreward⟩ := h
  have hcredited : (credited world order account fee payment s).db.purchases id =
      s.db.purchases id := by
    refine purchases_insertTransaction.trans ?_
    simp [hpayment.type]
    rfl
  have hpromo := direct_sparesPurchases
    (.recordPromoActivation (fun _ _ => trivial) fun _ => trivial) hrecorded
  have hrewarded := direct_sparesPurchases ((reward_rewardReferral cfg).mono
    fun w hw => by cases w <;> first | trivial | exact .inl hw) hreward
  obtain ⟨hsubs, -⟩ :=
    direct_sparesSubscriptions (sparesSubscriptions_recordPromoActivation) hrecorded
  obtain ⟨hlast, -⟩ := direct_sparesSubscriptions (sparesSubscriptions_rewardReferral) hreward
  rcases purchases_of_deliverOrder (key_of_find? huser) hdelivered with
    hsame | ⟨hown, plan, -, hplanId, -, hdelivers⟩
  · refine absurd ?_ hid
    have hall : s'.db.purchases id = delivered.db.purchases id := congrFun hrewarded id
    rw [hall, hsame]
    exact (congrFun hpromo id).trans hcredited
  · exact .paid order plan providerName hpays hpending hown.symm hplanId
      (hdelivers.congr hsubs.symm hlast)

theorem planFulfilment_of_placing (h : Placing cfg world data (storeOf c) order s')
    (hid : s'.db.purchases id ≠ c.state.purchases id) :
    PlanFulfilment cfg world.now c.state (.createOrder data) s'.db id := by
  have hfresh : c.state.freshUuid ≤ order.id := h.le_id
  cases h with
  | topUp | slotsWaiting | planWaiting =>
    rename_i hdb
    exact absurd (by rw [hdb]; rfl) hid
  | slots _ _ _ _ _ _ _ _ _ _ _ _ _ _ _ _ hbought hdone =>
    subst hdone
    exact absurd (purchases_of_fulfillDeviceSlots hbought) hid
  | plan plan _ user order bought s' _ hbalance hplanId _ _ _ huser horder hbought hrecorded =>
    have hasks : data.Asks order := by
      subst horder
      exact ⟨rfl, rfl, rfl, rfl⟩
    have huserId : user.id = order.userId := (key_of_find? huser).trans hasks.userId.symm
    rw [huserId] at hbought
    have hpromo := direct_sparesPurchases
      (.recordPromoActivation (fun _ _ => trivial) fun _ => trivial) hrecorded
    obtain ⟨hsubs, -⟩ :=
      direct_sparesSubscriptions (sparesSubscriptions_recordPromoActivation) hrecorded
    have hafter : s'.db.purchases id = bought.db.purchases id := congrFun hpromo id
    rcases delivers_of_autoPurchase hbought with rfl | ⟨hdelivers, hothers⟩
    · exact absurd hafter hid
    · by_cases hown : id = order.id
      · subst hown
        exact .bought data order plan rfl hbalance rfl hfresh hasks (by subst horder; rfl) hplanId
          (hdelivers.congr rfl hsubs)
      · exact absurd (hafter.trans (hothers id hown)) hid
  | trial plan user order _ _ _ _ _ _ _ _ hdelivered hdone =>
    have hspares := direct_sparesPurchases
      (.autoPurchaseFree (fun _ => trivial) (fun _ _ => trivial) fun _ => trivial) hdelivered
    subst hdone
    exact absurd (congrFun hspares id) hid

/-- **How a purchase gets into the ledger.** -/
theorem Operation.planFulfilment (hop : op.IsOrdering) (cfg : Settings) (world : World)
    (c : Committed engine)
    (hid : (op.run cfg world c).2.state.purchases id ≠ c.state.purchases id) :
    PlanFulfilment cfg world.now c.state op (op.run cfg world c).2.state id := by
  obtain ⟨s', hstate, hstep | ⟨data, order, rfl, hplacing⟩⟩ := hop.step cfg world c <;>
    rw [hstate] at hid ⊢
  · cases hstep with
    | nothing => exact absurd rfl hid
    | noted => exact absurd rfl hid
    | settled _ _ _ hpays hpending hsettled =>
      exact planFulfilment_of_settled hpays hpending hsettled hid
  · exact planFulfilment_of_placing hplacing hid

/-- An order that exists is not fulfilled together with another one. -/
theorem PlanFulfilment.unique (h : PlanFulfilment cfg now db op db' id)
    (h' : PlanFulfilment cfg now db op db' other) (hknown : db.orders.find? id = some order) :
    id = other := by
  cases h with
  | bought _ _ _ _ _ _ hfresh =>
    rw [find?_order_of_fresh hfresh] at hknown
    cases hknown
  | paid _ _ _ hpays _ hid =>
    cases h' with
    | bought _ _ _ hop =>
      subst hop
      cases hpays
    | paid _ _ _ hpays' _ hid' => rw [← hid, ← hid', hpays.unique hpays']

/-! ## Positions in a run -/

/-- The state before the `k`-th step. -/
def stateAt (cfg : Settings) (c : Committed engine) (events : List (Operation × World)) (k : ℕ) :
    Committed engine :=
  runAll cfg c (events.take k)

variable {events : List (Operation × World)}

theorem stateAt_succ (h : events[k]? = some (op, world)) :
    stateAt cfg c events (k + 1) = (op.run cfg world (stateAt cfg c events k)).2 := by
  unfold stateAt
  rw [take_add_one, h, ← runAll_concat]
  rfl

theorem history_stateAt (hij : i ≤ j) :
    History cfg (fun _ => True) (stateAt cfg c events i) (stateAt cfg c events j) := by
  refine history_iff_runAll.mpr ⟨(events.take j).drop i, fun _ _ => trivial, ?_⟩
  have hprefix : events.take i = (events.take j).take i := by rw [take_take, min_eq_left hij]
  unfold stateAt
  rw [← runAll_append, hprefix, take_append_drop]

/-- The credit that an order was placed with. -/
structure Credit where
  order : Uuid
  user : Uuid
  plan : Uuid
  months : ℤ
  provider : PaymentProvider
  /-- The subscription whose remaining time was credited, as it was then. -/
  sub : Subscription
  /-- What was subtracted from the price. -/
  amount : Money
  /-- `_proration_value` of the subscription. -/
  value : Money

/-- The operation places an order whose price a credit reduces. -/
inductive Credited (cfg : Settings) (world : World) (c : Committed engine) :
    Operation → Credit → Prop
  | mk (data : OrderCreateIn) (plan : Plan) (sub : Subscription) (oldPlan : Plan)
      (price : Money) (order : PaymentOrder) (c' : Committed engine)
      (htype : data.orderType = .planPurchase) (hplanId : data.planId = some plan.id)
      (hplan : c.state.plans.find? plan.id = some plan) (hpaid : 0 < plan.priceRub)
      (hprice : resolvePeriodPrice plan data.periodMonths = some price)
      (hswitch : c.state.switchedPlan data.userId plan.id world.now = some (sub, oldPlan))
      (hcreated : request (createOrder cfg data) (world.session c.state) c = (.ok order, c'))
      (hreduced : max 0 (price - c.state.switchProration data.userId plan.id world.now) < price) :
      Credited cfg world c (.createOrder data)
        { order := order.id
          user := data.userId
          plan := plan.id
          months := data.periodMonths
          provider := data.provider
          sub := sub
          amount := price - max 0 (price - c.state.switchProration data.userId plan.id world.now)
          value := c.state.switchProration data.userId plan.id world.now }

section

variable (cfg c events)

/-- The `k`-th step places an order with a credit. -/
def CreditedAt (k : ℕ) (credit : Credit) : Prop :=
  ∃ op world, events[k]? = some (op, world) ∧ Credited cfg world (stateAt cfg c events k) op credit

/-- The `j`-th step fulfils the order: it records its purchase. -/
def FulfilledAt (j : ℕ) (order : Uuid) : Prop :=
  (stateAt cfg c events j).state.purchases order <
    (stateAt cfg c events (j + 1)).state.purchases order

def Database.planOf (db : Database) (sub : Uuid) : Option (Option Uuid) :=
  (db.subscriptions.find? sub).map Subscription.planId

/-- The `l`-th step ends a paid period of the subscription: it changes its plan. -/
def SwitchedAt (l : ℕ) (sub : Uuid) : Prop :=
  (stateAt cfg c events (l + 1)).state.planOf sub ≠ (stateAt cfg c events l).state.planOf sub

/-- The order that the `k`-th step has placed with a credit is paid in the `j`-th: from the
balance at once, or by a payment that arrives later. -/
def PaidAt (k j : ℕ) (credit : Credit) : Prop :=
  j = k ∧ credit.provider = .balance ∨
    k < j ∧ ∃ op world order providerName, events[j]? = some (op, world) ∧
      Pays cfg (stateAt cfg c events j).state op order providerName ∧
      order.status = .pending ∧ order.id = credit.order

end

/-! ## Credited orders -/

theorem find?_of_switchedPlan (h : db.switchedPlan user newPlan now = some (sub, oldPlan)) :
    db.subscriptions.find? sub.id = some sub ∧ sub.planId ≠ some newPlan := by
  unfold Database.switchedPlan at h
  split at h
  · cases h
  · rename_i current hcurrent
    have hmem : current ∈ db.subscriptions.rows :=
      mem_of_mem_filter (mem_of_mem_filter (argmax_mem hcurrent))
    split at h
    · cases h
    · rename_i oldPlanId hplanId
      split at h
      · cases h
      · rename_i hne
        obtain ⟨found, -, heq⟩ := map_eq_some_iff.mp h
        obtain ⟨rfl, rfl⟩ := Prod.mk.inj heq
        refine ⟨Table.find?_of_mem hmem, ?_⟩
        rw [hplanId]
        exact fun hsame => hne (some.inj hsame)

/-- A placed purchase of a plan that costs something has the terms of its request. -/
theorem Placing.purchase (h : Placing cfg world data s order s')
    (htype : data.orderType = .planPurchase) (hplanId : data.planId = some plan.id)
    (hplan : s.db.plans.find? plan.id = some plan) (hpaid : 0 < plan.priceRub) :
    order.userId = data.userId ∧ order.orderType = .planPurchase ∧
      order.planId = some plan.id ∧ order.periodMonths = data.periodMonths := by
  cases h with
  | topUp _ _ _ _ _ _ htopUp => simp [htype] at htopUp
  | slotsWaiting _ _ _ _ _ _ _ hslots => simp [htype] at hslots
  | slots _ _ _ _ _ _ hslots => simp [htype] at hslots
  | planWaiting | plan =>
    subst_vars
    exact ⟨rfl, htype, hplanId, rfl⟩
  | trial plan' _ _ _ _ _ hplanId' hplan' hprice =>
    have hid : plan'.id = plan.id := mem_unique hplanId' hplanId
    rw [hid, hplan] at hplan'
    obtain rfl : plan = plan' := some.inj hplan'
    exact absurd hpaid (not_lt.mpr hprice)

theorem Credited.placed (h : Credited cfg world c op credit) :
    c.state.subscriptions.find? credit.sub.id = some credit.sub ∧
      credit.sub.planId ≠ some credit.plan ∧ c.state.freshUuid ≤ credit.order ∧
      ∃ row, (op.run cfg world c).2.state.orders.find? credit.order = some row ∧
        row.userId = credit.user ∧ row.orderType = .planPurchase ∧
        row.planId = some credit.plan ∧ row.periodMonths = credit.months := by
  obtain ⟨data, plan, sub, oldPlan, price, value, c', htype, hplanId, hplan, hpaid, hprice, hswitch,
    hcreated, hreduced⟩ := h
  obtain ⟨hsub, hne⟩ := find?_of_switchedPlan hswitch
  obtain ⟨s', hdirect, -⟩ := direct_of_request hcreated
  obtain ⟨order, hplacing, hread⟩ := placing_of_createOrder hdirect
  have hfree : c.state.orders.find? order.id = none := find?_order_of_fresh hplacing.le_id
  have hvalue := (PaymentOrder.sameTerms (hplacing.terms hfree hread)).id
  obtain ⟨later, hlater, hstate⟩ := request_of_direct (p := program cfg (.createOrder data))
    (direct_bind_ok.mpr ⟨value, s', hdirect, rfl⟩)
  have hrun : (run cfg (.createOrder data) world c).2.state = s'.db := by
    rw [show run cfg (.createOrder data) world c = (.ok (), later) from hlater, hstate]
  obtain ⟨huser, horderType, hordered, hmonths⟩ := hplacing.purchase htype hplanId hplan hpaid
  obtain ⟨row, hrow, hterms⟩ := hplacing.find? hfree
  have same := PaymentOrder.sameTerms hterms
  refine ⟨hsub, hne, ?_, row, ?_, ?_, ?_, ?_, ?_⟩
  · rw [hvalue]
    exact hplacing.le_id
  · rw [hrun, hvalue, hrow]
  · exact same.userId.trans huser
  · exact same.orderType.trans horderType
  · exact same.planId.trans hordered
  · exact same.periodMonths.trans hmonths

/-- A credit is not larger than the value of the time it is for. -/
theorem Credited.amount_le (h : Credited cfg world c op credit) : credit.amount ≤ credit.value := by
  cases h with
  | mk data plan _ _ price =>
    have hmax := le_max_right 0 (price - c.state.switchProration data.userId plan.id world.now)
    linarith

variable {k j : ℕ} {credit : Credit} {id : Uuid}

/-- An order with a credit keeps its terms. -/
theorem CreditedAt.row (h : CreditedAt cfg c events k credit) (hkj : k < j) :
    ∃ row, (stateAt cfg c events j).state.orders.find? credit.order = some row ∧
      row.userId = credit.user ∧ row.orderType = .planPurchase ∧
      row.planId = some credit.plan ∧ row.periodMonths = credit.months := by
  obtain ⟨op, world, hop, hcredited⟩ := h
  obtain ⟨-, -, -, row, hrow, huser, htype, hplan, hmonths⟩ := hcredited.placed
  rw [← stateAt_succ hop] at hrow
  obtain ⟨later, hlater, hterms⟩ := (history_stateAt (Nat.succ_le_of_lt hkj)).terms hrow
  have same := PaymentOrder.sameTerms hterms
  exact ⟨later, hlater, same.userId.trans huser, same.orderType.trans htype,
    same.planId.trans hplan,
    same.periodMonths.trans hmonths⟩

theorem CreditedAt.sub (h : CreditedAt cfg c events k credit) :
    (stateAt cfg c events k).state.subscriptions.find? credit.sub.id = some credit.sub ∧
      credit.sub.planId ≠ some credit.plan := by
  obtain ⟨op, world, -, hcredited⟩ := h
  exact ⟨hcredited.placed.1, hcredited.placed.2.1⟩

/-- The order did not exist before. -/
theorem CreditedAt.fresh (h : CreditedAt cfg c events k credit) :
    (stateAt cfg c events k).state.orders.find? credit.order = none := by
  obtain ⟨op, world, -, hcredited⟩ := h
  exact find?_order_of_fresh hcredited.placed.2.2.1

/-! ## Fulfilled orders -/

theorem FulfilledAt.planFulfilment (hops : ∀ e ∈ events, e.1.IsOrdering)
    (h : FulfilledAt cfg c events j id) :
    ∃ op world, events[j]? = some (op, world) ∧
      PlanFulfilment cfg world.now (stateAt cfg c events j).state op
        (stateAt cfg c events (j + 1)).state id := by
  cases hop : events[j]? with
  | none =>
    have hsame : stateAt cfg c events (j + 1) = stateAt cfg c events j := by
      simp only [stateAt, take_add_one, hop, toList_none, append_nil]
    unfold FulfilledAt at h
    rw [hsame] at h
    exact absurd h (lt_irrefl _)
  | some event =>
    refine ⟨event.1, event.2, rfl, ?_⟩
    rw [stateAt_succ hop]
    refine Operation.planFulfilment (hops event (mem_of_getElem? hop)) cfg event.2 _ ?_
    unfold FulfilledAt at h
    rw [stateAt_succ hop] at h
    exact h.ne'

/-- An order that was placed with a credit is fulfilled when it is paid, by delivering its
plan. -/
theorem FulfilledAt.delivers (hops : ∀ e ∈ events, e.1.IsOrdering)
    (h : FulfilledAt cfg c events j credit.order) (hcredit : CreditedAt cfg c events k credit)
    (hkj : k ≤ j) :
    PaidAt cfg c events k j credit ∧
      ∃ op world order plan, events[j]? = some (op, world) ∧ order.userId = credit.user ∧
        order.orderType = .planPurchase ∧ plan.id = credit.plan ∧
        order.periodMonths = credit.months ∧
        Delivers (stateAt cfg c events j).state order plan world.now
          (stateAt cfg c events (j + 1)).state := by
  obtain ⟨op, world, hop, hfulfilment⟩ := h.planFulfilment hops
  rcases hkj.eq_or_lt with rfl | hlt
  · -- The order is paid as it is placed, so its provider is the balance.
    obtain ⟨op', world', hop', hcredited⟩ := hcredit
    obtain ⟨rfl, rfl⟩ := Prod.mk.inj (mem_unique hop hop')
    cases hcredited with
    | mk _ _ _ _ _ _ _ htype hplanId =>
      cases hfulfilment with
      | paid _ _ _ hpays => cases hpays
      | bought _ order plan' hdata hbalance _ _ hasks hmonths hplanId' hdelivers =>
        cases hdata
        exact ⟨.inl ⟨rfl, hbalance⟩, _, world, order, plan', hop, hasks.userId,
          hasks.orderType.trans htype, mem_unique hplanId' hplanId, hmonths,
          hdelivers⟩
  · obtain ⟨row, hrow, huser, htype, hplan, hmonths⟩ := hcredit.row hlt
    cases hfulfilment with
    | bought _ _ _ _ _ _ hfresh =>
      rw [find?_order_of_fresh hfresh] at hrow
      cases hrow
    | paid order plan providerName hpays hpending hid hplanId hdelivers =>
      obtain rfl : order = row := by
        have hfound := hpays.find?
        rw [hid, hrow] at hfound
        exact (some.inj hfound).symm
      exact ⟨.inr ⟨hlt, op, world, order, providerName, hop, hpays, hpending, hid⟩, op, world,
        order, plan, hop, huser, htype, mem_unique hplanId hplan, hmonths,
        hdelivers⟩

/-- While no step switches the subscription, it has its plan. -/
theorem planOf_of_unswitched (hkj : k ≤ j)
    (h : ∀ l, k ≤ l → l < j → ¬ SwitchedAt cfg c events l id) :
    (stateAt cfg c events j).state.planOf id = (stateAt cfg c events k).state.planOf id := by
  induction j, hkj using Nat.le_induction with
  | base => rfl
  | succ j hkj ih =>
    have hstep := not_not.mp (h j hkj (Nat.lt_succ_self j))
    exact hstep.trans (ih fun l hkl hlj => h l hkl (Nat.lt_succ_of_lt hlj))

/-! ## Runs -/

/-- What the purchase of another plan would take the time of: no subscription of the user
is running for that plan, and `sub` is the latest one. -/
def Database.GivesUp (db : Database) (user plan sub : Uuid) : Prop :=
  db.activeSubscriptionForPlan user plan = none ∧
    ∃ latest, db.latestSubscription user = some latest ∧ latest.id = sub

section

variable (cfg c events)

/-- When an order with a credit is paid, the credited subscription still is the one to be
given up, and was not switched since the order was placed. -/
def CreditsKept : Prop :=
  ∀ k j credit, CreditedAt cfg c events k credit → PaidAt cfg c events k j credit →
    (∀ l, k ≤ l → l < j → ¬ SwitchedAt cfg c events l credit.sub.id) ∧
      (stateAt cfg c events j).state.GivesUp credit.user credit.plan credit.sub.id

/-- The `j`-th step ends the credited time: the subscription is on the plan that was bought,
for a period that starts now. -/
def EndedAt (j : ℕ) (credit : Credit) : Prop :=
  ∃ op world sub, events[j]? = some (op, world) ∧
    (stateAt cfg c events (j + 1)).state.subscriptions.find? credit.sub.id = some sub ∧
    sub.planId = some credit.plan ∧
    sub.expiresAt = some (world.now + days (periodDays credit.months))

end

theorem endedAt_of_fulfilled (hops : ∀ e ∈ events, e.1.IsOrdering)
    (hkept : CreditsKept cfg c events) (hcredit : CreditedAt cfg c events k credit) (hkj : k ≤ j)
    (h : FulfilledAt cfg c events j credit.order) :
    EndedAt cfg c events j credit ∧ SwitchedAt cfg c events j credit.sub.id := by
  obtain ⟨hpaid, op, world, order, plan, hop, huser, htype, hplan, hmonths, hdelivers⟩ :=
    h.delivers hops hcredit hkj
  obtain ⟨hunswitched, hnone, latest, hlatest, hid⟩ := hkept k j credit hcredit hpaid
  obtain ⟨hsub, hne⟩ := hcredit.sub
  obtain ⟨-, hrow⟩ := find?_of_latestSubscription hlatest
  have hsame : latest.planId = credit.sub.planId := by
    have hplanOf := planOf_of_unswitched hkj hunswitched
    unfold Database.planOf at hplanOf
    rw [hsub, ← hid, hrow] at hplanOf
    exact some.inj hplanOf
  have hother : latest.planId ≠ some plan.id := by
    rw [hsame, hplan]
    exact hne
  rw [← huser, ← hplan] at hnone
  rw [← huser] at hlatest
  have hafter := hdelivers latest true (by
    simp [Database.purchaseTarget, renewalTarget_of_planPurchase htype, hnone, hlatest, hother])
  have hended : (stateAt cfg c events (j + 1)).state.planOf latest.id = some (some plan.id) := by
    unfold Database.planOf
    rw [hafter]
    rfl
  have hstarted : (stateAt cfg c events j).state.planOf latest.id = some latest.planId := by
    unfold Database.planOf
    rw [hrow]
    rfl
  refine ⟨⟨op, world, _, hop, hid ▸ hafter, congrArg some hplan, ?_⟩, ?_⟩
  · show some (world.now + days (periodDays order.months)) = _
    unfold PaymentOrder.months
    rw [hmonths]
    split
    · rename_i hzero
      rw [hzero]
      rfl
    · rfl
  · unfold SwitchedAt
    rw [← hid, hended, hstarted]
    exact fun heq => hother (some.inj heq).symm

/-- Two orders with a credit for one subscription, which was not switched between them, are
not both fulfilled. -/
theorem not_fulfilled_of_kept (hops : ∀ e ∈ events, e.1.IsOrdering)
    (hkept : CreditsKept cfg c events) (hcredit : CreditedAt cfg c events k credit)
    (hother : CreditedAt cfg c events l other) (hsub : other.sub.id = credit.sub.id) (hkl : k < l)
    (hbetween : ∀ m, k ≤ m → m < l → ¬ SwitchedAt cfg c events m credit.sub.id) (hkj : k ≤ j)
    (hfulfilled : FulfilledAt cfg c events j credit.order) (hlj : l ≤ j') :
    ¬ FulfilledAt cfg c events j' other.order := by
  intro hfulfilled'
  obtain ⟨-, hswitched⟩ := endedAt_of_fulfilled hops hkept hcredit hkj hfulfilled
  obtain ⟨-, hswitched'⟩ := endedAt_of_fulfilled hops hkept hother hlj hfulfilled'
  have hlater : l ≤ j := not_lt.mp fun hlt => hbetween j hkj hlt hswitched
  obtain ⟨hunswitched, -⟩ := hkept k j credit hcredit (hfulfilled.delivers hops hcredit hkj).1
  obtain ⟨hunswitched', -⟩ := hkept l j' other hother (hfulfilled'.delivers hops hother hlj).1
  rw [hsub] at hunswitched' hswitched'
  rcases lt_trichotomy j j' with hlt | rfl | hlt
  · exact hunswitched' j hlater hlt hswitched
  · -- One step fulfils one order, but the second was not there when the first was placed.
    obtain ⟨row, hrow, -⟩ := hcredit.row (hkl.trans_le hlater)
    obtain ⟨op, world, hop, hfulfilment⟩ := hfulfilled.planFulfilment hops
    obtain ⟨op', world', hop', hfulfilment'⟩ := hfulfilled'.planFulfilment hops
    obtain ⟨rfl, rfl⟩ := Prod.mk.inj (mem_unique hop hop')
    have hsame : credit.order = other.order := hfulfilment.unique hfulfilment' hrow
    obtain ⟨early, hearly, -⟩ := hcredit.row hkl
    rw [hsame, hother.fresh] at hearly
    cases hearly
  · exact hunswitched j' (hkl.le.trans hlj) hlt hswitched'

/-- **Proration credit is used at most once**, in every run of requests and payments in
which an order with a credit is paid only while the credited subscription still is the one
to be given up: the order ends the credited time, and the orders with a credit for one
paid period of a subscription get together no more than its value when the first of them
was placed. -/
theorem creditedOnce_of_kept (cfg : Settings) (c : Committed engine)
    (events : List (Operation × World)) (hops : ∀ e ∈ events, e.1.IsOrdering)
    (hkept : CreditsKept cfg c events) :
    (∀ k j credit, CreditedAt cfg c events k credit → k ≤ j →
      FulfilledAt cfg c events j credit.order → EndedAt cfg c events j credit) ∧
    ∀ (sub : Uuid) (steps : Finset ℕ) (credit : ℕ → Credit),
      (∀ k ∈ steps, CreditedAt cfg c events k (credit k) ∧ (credit k).sub.id = sub ∧
        ∃ j, k ≤ j ∧ FulfilledAt cfg c events j (credit k).order) →
      (∀ k ∈ steps, ∀ l ∈ steps, ∀ m, k ≤ m → m < l → ¬ SwitchedAt cfg c events m sub) →
      ∀ first ∈ steps, (∀ k ∈ steps, first ≤ k) →
        ∑ k ∈ steps, (credit k).amount ≤ (credit first).value := by
  refine ⟨fun k j credit hcredit hkj h => (endedAt_of_fulfilled hops hkept hcredit hkj h).1, ?_⟩
  intro sub steps credit hsteps hbetween first hfirst hleast
  obtain ⟨hcredit, hsub, j, hkj, hfulfilled⟩ := hsteps first hfirst
  have honly : steps = {first} := by
    refine Finset.eq_singleton_iff_unique_mem.mpr ⟨hfirst, fun l hl => ?_⟩
    obtain ⟨hother, hsub', j', hlj, hfulfilled'⟩ := hsteps l hl
    by_contra hne
    have hlt : first < l := lt_of_le_of_ne (hleast l hl) (Ne.symm hne)
    have hspan : ∀ m, first ≤ m → m < l → ¬ SwitchedAt cfg c events m (credit first).sub.id := by
      rw [hsub]
      exact hbetween first hfirst l hl
    exact not_fulfilled_of_kept hops hkept hcredit hother (hsub'.trans hsub.symm) hlt hspan hkj
      hfulfilled hlj hfulfilled'
  obtain ⟨op, world, -, hcredited⟩ := hcredit
  rw [honly, Finset.sum_singleton]
  exact hcredited.amount_le

end

namespace Scenario

/-- A plan that costs more. -/
def dearer : Plan := { plan with id := 8, name := "Pro", priceRub := 200 }

/-- User 1 has paid for the next thirty days. -/
def paidUp : Subscription := { running with expiresAt := some (days 30) }

/-- User 1 runs the plan, and there is a dearer one. -/
def upgradable : Committed engine where
  state :=
    { database 0 with
      plans := (Table.empty.insert plan).insert dearer
      subscriptions := Table.empty.insert paidUp }
  log := []

/-- The dearer plan, paid with Stars. -/
def upgrade : OrderCreateIn where
  userId := 1
  planId := some 8
  provider := .stars

/-- The credit for the thirty days. -/
def upgradeCredit (order : Uuid) : Credit where
  order := order
  user := 1
  plan := 8
  months := 1
  provider := .stars
  sub := paidUp
  amount := 100
  value := 100

/-- One order for the dearer plan is placed and paid. -/
def upgradeOnce : List (Operation × World) :=
  [(.createOrder upgrade, world), (.confirmStarsPayment 5, world)]

/-- Two orders for the dearer plan are placed, and then both are paid. -/
def upgradeTwice : List (Operation × World) :=
  [(.createOrder upgrade, world), (.createOrder upgrade, world),
    (.confirmStarsPayment 5, world), (.confirmStarsPayment 7, world)]

end Scenario

open Scenario in
/-- Whoever orders the dearer plan while the thirty days run gets the credit. -/
theorem credited_upgrade (hplan : c.state.plans.find? 8 = some dearer)
    (hswitch : c.state.switchedPlan 1 8 0 = some (paidUp, plan))
    (hcreated : (request (createOrder settings upgrade)
      (world.session c.state) c).1.toOption.map PaymentOrder.id = some order) :
    Credited settings world c (.createOrder upgrade) (upgradeCredit order) := by
  have hvalue : c.state.switchProration 1 8 0 = 100 := by
    unfold Database.switchProration
    rw [hswitch]
    decide +kernel
  generalize hrequest : request (createOrder settings upgrade) (world.session c.state) c = done
    at hcreated
  obtain ⟨value, c'⟩ := done
  cases value with
  | error => cases hcreated
  | ok placed =>
    have hid : placed.id = order := some.inj hcreated
    have hreduced : max 0 (200 - c.state.switchProration 1 8 0) < (200 : Money) := by
      rw [hvalue]
      decide +kernel
    have hamount : (200 : Money) - max 0 (200 - 100) = 100 := by decide +kernel
    have h : Credited settings world c (.createOrder upgrade) _ :=
      .mk upgrade dearer paidUp plan 200 placed c' rfl rfl hplan (by decide +kernel)
        (by decide +kernel) hswitch hrequest hreduced
    simpa only [upgradeCredit, upgrade, dearer, hid, world, hvalue, hamount] using h

open Scenario in
theorem creditsKept_upgradeOnce : CreditsKept settings upgradable upgradeOnce := by
  intro k j credit hcredit hpaid
  obtain ⟨op, world', hop, hcredited⟩ := hcredit
  obtain ⟨hk, rfl⟩ : k = 0 ∧ op = .createOrder upgrade := by
    cases hcredited with
    | mk =>
      match k with
      | 0 => exact ⟨rfl, (congrArg Prod.fst (some.inj hop)).symm⟩
      | 1 => cases hop
      | k + 2 => cases hop
  subst hk
  cases hcredited with
  | mk _ plan' sub _ _ _ _ _ hplanId _ _ _ hswitch =>
    rcases hpaid with ⟨-, hbalance⟩ | ⟨hlt, op', world'', order, providerName, hop', hpays, -, -⟩
    · cases hbalance
    · obtain rfl : j = 1 := by
        match j with
        | 0 => cases hlt
        | 1 => rfl
        | j + 2 => cases hop'
      cases hop
      have hbought : plan'.id = 8 := (some.inj hplanId).symm
      have hpaidUp : Database.switchedPlan (stateAt settings upgradable upgradeOnce 0).state 1 8 0 =
          some (paidUp, plan) := by decide +kernel
      have hsub : sub = paidUp := by
        rw [hbought] at hswitch
        exact congrArg Prod.fst (mem_unique hswitch hpaidUp)
      subst hsub
      refine ⟨fun l _ hl => ?_, ?_, paidUp, ?_, rfl⟩
      · obtain rfl : l = 0 := Nat.lt_one_iff.mp hl
        show ¬ Database.planOf _ 3 ≠ Database.planOf _ 3
        decide +kernel
      · show activeSubscriptionForPlan _ 1 plan'.id = none
        rw [hbought]
        decide +kernel
      · show latestSubscription _ 1 = some paidUp
        decide +kernel

open Scenario in
theorem creditedOnce_of_upgrade : EndedAt settings upgradable upgradeOnce 1 (upgradeCredit 5) := by
  refine (creditedOnce_of_kept settings upgradable upgradeOnce ?_ creditsKept_upgradeOnce).1 0 1
    (upgradeCredit 5) ⟨_, _, rfl, credited_upgrade rfl ?_ ?_⟩ (by decide) ?_
  · simp [upgradeOnce, Operation.IsOrdering, Operation.IsPayment]
  · decide +kernel
  · decide +kernel
  · show Database.purchases _ 5 < Database.purchases _ 5
    decide +kernel

open Scenario in
/-- Both orders were credited the same thirty days, and the second found them gone. -/
theorem upgradeTwice_credits_twice :
    CreditedAt settings upgradable upgradeTwice 0 (upgradeCredit 5) ∧
      CreditedAt settings upgradable upgradeTwice 1 (upgradeCredit 7) ∧
      ¬ SwitchedAt settings upgradable upgradeTwice 0 3 ∧
      FulfilledAt settings upgradable upgradeTwice 2 5 ∧
      FulfilledAt settings upgradable upgradeTwice 3 7 ∧
      (upgradeCredit 5).value < (upgradeCredit 5).amount + (upgradeCredit 7).amount := by
  refine ⟨⟨_, _, rfl, credited_upgrade rfl ?_ ?_⟩, ⟨_, _, rfl, credited_upgrade ?_ ?_ ?_⟩, ?_, ?_, ?_,
    ?_⟩
  · decide +kernel
  · decide +kernel
  · decide +kernel
  · decide +kernel
  · decide +kernel
  · show ¬ Database.planOf _ 3 ≠ Database.planOf _ 3
    decide +kernel
  · show Database.purchases _ 5 < Database.purchases _ 5
    decide +kernel
  · show Database.purchases _ 7 < Database.purchases _ 7
    decide +kernel
  · decide +kernel

end VpnControl.Billing
