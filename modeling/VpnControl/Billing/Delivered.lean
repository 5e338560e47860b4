/-
# Completed orders are delivered

A completed order was debited and delivered just before it was completed, or its
payment was left on the balance. Both are read off the log at the point where the life
of the order says it was completed: the state before and after the delivery is the
replay of the log up to there.
-/

import VpnControl.Billing.Refunds

namespace VpnControl.Billing

open Txn List Option Table Write
open Database PaymentOrder

variable {before ws : List Write} {fresh id : Uuid} {order : PaymentOrder} {start : Database}
  {c origin : Committed engine} {type : TransactionType} {db : Database}

/-! ## Rows that stay -/

/-- Users are not deleted. -/
theorem find?_user_foldl (h : db.users.find? id ≠ none) :
    (ws.foldl Database.apply db).users.find? id ≠ none := by
  refine foldlRecOn (motive := fun db : Database => db.users.find? id ≠ none) ws _ h ?_
  intro db h w _
  cases w with
  | setBalance _ balance =>
    rw [← isSome_iff_ne_none] at h ⊢
    exact (isSome_find?_modify (fun row : User => { row with balance }) fun _ => rfl).trans h
  | _ => exact h

/-- A subscription comes into being by an insertion. -/
theorem find?_subscription_foldl_eq_none (h : db.subscriptions.find? id = none)
    (hws : ∀ row, insertSubscription row ∉ ws) :
    (ws.foldl Database.apply db).subscriptions.find? id = none := by
  refine foldlRecOn (motive := fun db : Database => db.subscriptions.find? id = none) ws _ h ?_
  intro db h w hw
  cases w with
  | updateSubscription _ patch => exact (find?_modify patch.set fun _ => rfl).trans (congrArg _ h)
  | insertSubscription row => exact absurd hw (hws row)
  | _ => exact h

/-! ## What a delivery does -/

variable (order : PaymentOrder) (sub : Uuid) (before after : Database) in
/-- What delivering an order does to its subscription, and the type of the ledger row
that pays for it. -/
inductive Supplies : TransactionType → Prop
  | extended (plan : Plan) (existing : Subscription) (planChanged : Bool) (now : Time)
      (htype : order.orderType ≠ .deviceSlots) (hplan : order.planId = some plan.id)
      (howner : existing.userId = order.userId)
      (hbefore : before.subscriptions.find? sub = some existing)
      (hafter : after.subscriptions.find? sub =
        some ((extensionPatch existing planChanged plan order now).set existing)) :
      Supplies .purchase
  | created (plan : Plan) (now : Time) (htype : order.orderType ≠ .deviceSlots)
      (hplan : order.planId = some plan.id) (hbefore : before.subscriptions.find? sub = none)
      (hafter : after.subscriptions.find? sub =
        some ((purchasedSubscription order.userId plan order now).row sub)) :
      Supplies .purchase
  | slots (existing : Subscription) (htype : order.orderType = .deviceSlots)
      (hbefore : before.subscriptions.find? sub = some existing)
      (hafter : after.subscriptions.find? sub = some
        { existing with paidDeviceSlots := existing.paidDeviceSlots + order.deviceSlotsQty }) :
      Supplies .deviceSlotPurchase

/-- A delivery depends on the terms of the order. -/
theorem Supplies.of_terms
    (h : Supplies order sub first second type) (hterms : order'.terms = order.terms) :
    Supplies order' sub first second type := by
  obtain ⟨-, huser, -, -, -, htypes, hplans, -, hqty⟩ := PaymentOrder.sameTerms hterms
  have hmonths : order'.months = order.months := (congrArg PaymentOrder.months hterms :)
  cases h with
  | extended plan existing planChanged now htype hplan howner hbefore hafter =>
    refine .extended plan existing planChanged now (htypes ▸ htype) (hplans.trans hplan)
      (howner.trans huser.symm) hbefore ?_
    rw [hafter, extensionPatch, extensionPatch, extendedExpiry, extendedExpiry, hmonths, hqty]
  | created plan now htype hplan hbefore hafter =>
    refine .created plan now (htypes ▸ htype) (hplans.trans hplan) hbefore ?_
    rw [hafter, purchasedSubscription, purchasedSubscription, hmonths, hqty, huser]
  | slots existing htype hbefore hafter =>
    exact .slots existing (htypes.trans htype) hbefore (hqty ▸ hafter)

theorem extensionPatch_isActive :
    (extensionPatch existing planChanged plan order now).isActive = some true := by
  unfold extensionPatch
  dsimp only
  split
  · rfl
  · split <;> rfl

theorem activate_set_of_isActive (h : sub.isActive = true) :
    SubscriptionInternalUpdate.set { isActive := some true } sub = sub := by
  cases sub
  cases h
  rfl

theorem PlanDelivery.supplies
    (h : PlanDelivery (· = origin) before fresh user plan order now sub ws)
    (huser : user = order.userId) (htype : order.orderType ≠ .deviceSlots)
    (hplan : order.planId = some plan.id) (hnone : ∀ id, fresh ≤ id →
      (before.foldl Database.apply origin.state).subscriptions.find? id = none) :
    Supplies order sub (before.foldl Database.apply origin.state)
      ((before ++ ws).foldl Database.apply origin.state) .purchase := by
  rw [foldl_append]
  cases h with
  | extended existing planChanged hseen howner =>
    obtain ⟨c', rfl, hrow⟩ := hseen
    refine .extended plan existing planChanged now htype hplan (howner.trans huser) hrow ?_
    rw [foldl_cons, foldl_cons, foldl_cons, foldl_nil, find?_updateSubscription_self]
    have hpatched := find?_updateSubscription_self
      (before.foldl Database.apply c'.state) existing.id
      (extensionPatch existing planChanged plan order now)
    rw [hrow] at hpatched
    have hactive : ((extensionPatch existing planChanged plan order now).set existing).isActive =
        true := by
      simp [SubscriptionInternalUpdate.set, extensionPatch_isActive]
    have hkept := congrArg (Option.map (SubscriptionInternalUpdate.set { isActive := some true }))
      hpatched
    rw [Option.map_some, Option.map_some, activate_set_of_isActive hactive] at hkept
    exact hkept
  | created _ hfresh =>
    have hbefore := hnone sub hfresh
    refine .created plan now htype hplan hbefore ?_
    rw [← huser]
    exact find?_insert_self hbefore

theorem SlotDelivery.supplies (h : SlotDelivery (· = origin) before order ws)
    (htype : order.orderType = .deviceSlots) (hsub : order.subscriptionId = some sub)
    (hfound : origin.state.subscriptions.find? sub ≠ none) :
    Supplies order sub (before.foldl Database.apply origin.state)
      ((before ++ ws).foldl Database.apply origin.state) .deviceSlotPurchase := by
  rw [foldl_append]
  cases h with
  | added existing hexisting hseen =>
    obtain ⟨c', rfl, hrow⟩ := hseen
    obtain rfl : existing.id = sub := mem_unique hexisting hsub
    refine .slots existing htype hrow ?_
    rw [foldl_cons, foldl_nil, find?_updateSubscription_self, hrow]
    rfl
  | missing hnone =>
    obtain ⟨c', rfl, hmissing⟩ := hnone sub hsub
    obtain ⟨existing, hexisting⟩ := ne_none_iff_exists'.mp hfound
    obtain ⟨existing', hexisting', -⟩ := find?_subscription_foldl hexisting
    cases hmissing.symm.trans hexisting'

/-! ## Completed orders -/

/-- The order was delivered: at some point of the log it was debited, its subscription
was supplied, and it was completed. -/
inductive Delivered (start : Database) (c : Committed engine) (order : PaymentOrder) : Prop
  | mk (sub : Subscription) (debit : BalanceTransaction) (type : TransactionType)
      (completed : OrderInternalUpdate) (pre delivery post : List Write)
      (hsub : order.subscriptionId = some sub.id)
      (hfound : c.state.subscriptions.find? sub.id = some sub)
      (howner : order.orderType ≠ .deviceSlots → sub.userId = order.userId)
      (hdebit : debit ∈ c.state.transactions)
      (hposts : Posts debit order.userId (-order.amountRub) type (some order.id))
      (hlog : c.log = pre ++ (posting debit ++ (delivery ++
        .updateOrder order.id completed :: post)))
      (hcompleted : completed.status = some .completed)
      (hsupplies : Supplies order sub.id ((pre ++ posting debit).foldl Database.apply start)
        ((pre ++ posting debit ++ delivery).foldl Database.apply start) type)

/-- The plan can be bought. -/
def Database.ForSale (db : Database) (plan : Uuid) : Prop :=
  ∃ row, db.plans.find? plan = some row ∧ row.isActive ∧ 0 < row.priceRub

/-- The payment of the order was left on the balance: the credited balance did not cover
the order, or its plan was not for sale when the order was completed. -/
inductive Unspent (start : Database) (c : Committed engine) (order : PaymentOrder) : Prop
  | mk (payment : BalanceTransaction) (completed : OrderInternalUpdate) (pre post : List Write)
      (hgateway : order.provider ≠ .balance ∧ order.provider ≠ .free)
      (hposts : Posts payment order.userId order.amountRub .payment (some order.id))
      (hrows : c.state.orderRows order.id = [payment])
      (hlog : c.log = pre ++ .updateOrder order.id completed :: post)
      (hcompleted : completed.status = some .completed)
      (hwithheld : payment.balanceAfter < order.amountRub ∨
        order.orderType ≠ .deviceSlots ∧ ∃ plan, order.planId = some plan ∧
          ¬ (pre.foldl Database.apply start).ForSale plan)

theorem Supplies.owner
    (h : Supplies order sub first second type) : ∃ row, second.subscriptions.find? sub = some row ∧
      (order.orderType ≠ .deviceSlots → row.userId = order.userId) := by
  cases h with
  | extended _ _ _ _ _ _ howner _ hafter => exact ⟨_, hafter, fun _ => howner⟩
  | created _ _ _ _ _ hafter => exact ⟨_, hafter, fun _ => rfl⟩
  | slots _ htype _ hafter => exact ⟨_, hafter, fun hne => absurd htype hne⟩

section

variable {placed : PaymentOrder} {post : List Write}

theorem Delivered.of_log (hreplay : c.state = c.log.foldl Database.apply start)
    (horigin : origin.state = origin.log.foldl Database.apply start)
    (hlog : c.log = origin.log ++ (before ++ (posting debit ++ (delivery ++
      .updateOrder placed.id completed :: post))))
    (hcompleted : completed.status = some .completed)
    (hposts : Posts debit placed.userId (-placed.amountRub) type (some placed.id))
    (hsupplies : Supplies placed sub ((before ++ posting debit).foldl Database.apply origin.state)
      ((before ++ posting debit ++ delivery).foldl Database.apply origin.state) type)
    (hterms : order.terms = placed.terms) (hsub : order.subscriptionId = some sub) :
    Delivered start c order := by
  obtain ⟨hid, huser, hamount, -⟩ := PaymentOrder.sameTerms hterms
  have hsupplies := hsupplies.of_terms hterms
  obtain ⟨supplied, hsupplied, howner⟩ := hsupplies.owner
  have hstate : c.state = (.updateOrder placed.id completed :: post).foldl Database.apply
      ((before ++ posting debit ++ delivery).foldl Database.apply origin.state) := by
    rw [hreplay, hlog, foldl_origin horigin, ← foldl_append]
    simp only [append_assoc]
  obtain ⟨row, hrow, hkept⟩ := find?_subscription_foldl hsupplied
  rw [← hstate] at hrow
  obtain rfl : row.id = sub := key_of_find? hrow
  refine .mk row debit type completed (origin.log ++ before) delivery post hsub hrow
    (fun hne => hkept.trans (howner hne)) ?_ ?_ ?_ hcompleted ?_
  · rw [hreplay, transactions_foldl, hlog]
    refine mem_append_right _ (mem_filterMap.mpr ⟨.insertTransaction debit, ?_, rfl⟩)
    simp [posting]
  · rw [huser, hamount, hid]
    exact hposts
  · rw [hlog, hid, append_assoc]
  · rw [append_assoc, append_assoc, append_assoc, foldl_origin horigin,
      foldl_origin horigin, ← append_assoc]
    exact hsupplies

/-- A settled order is delivered, or its payment is left on the balance. -/
theorem Settlement.delivered (h : Settlement (· = origin) [] origin.state.freshUuid placed user ws)
    (hreplay : c.state = c.log.foldl Database.apply start)
    (horigin : origin.state = origin.log.foldl Database.apply start)
    (hlog : c.log = origin.log ++ (ws ++ post)) (hwaiting : Waiting placed origin.state)
    (huser : user.id = placed.userId) (hseen : origin.state.users.find? placed.userId ≠ none)
    (hrows : c.state.orderRows placed.id = rowsOf placed.id ws)
    (hfinal : order = placed.patched (ws.filterMap (orderPatch? placed.id)))
    (htopUp : placed.orderType ≠ .topUp) : Delivered start c order ∨ Unspent start c order := by
  have hterms : order.terms = placed.terms := by rw [hfinal, terms_patched]
  obtain ⟨now, fee, payment, promo, delivery, reward, hpayment, hbalance, hpromo, hdelivery,
    hreward⟩ := h
  let paid : Write := .updateOrder placed.id
    { status := some .paid, paidAt := some now, feeRub := fee
      netRub := fee.map (placed.amountRub - ·) }
  let completed : Write := .updateOrder placed.id
    { status := some .completed, completedAt := some now }
  have hnew : ∀ row, .insertSubscription row ∉ paid :: (posting payment ++ promo) := by
    intro row
    rcases hpromo with rfl | ⟨activation, -, rfl⟩ <;> simp [paid, posting]
  cases hdelivery with
  | plan _ debit _ delivered htype hplan hposts hdelivered =>
    have hlog' : c.log = origin.log ++ (paid :: (posting payment ++ promo) ++
        (posting debit ++ (delivered ++ completed :: (reward ++ post)))) := by
      rw [hlog]
      simp [paid, completed]
    have hnone : ∀ id, origin.state.freshUuid ≤ id →
        ((paid :: (posting payment ++ promo) ++ posting debit).foldl Database.apply
          origin.state).subscriptions.find? id = none := by
      intro id hid
      refine find?_subscription_foldl_eq_none (find?_subscription_of_fresh hid) fun row hrow => ?_
      rcases mem_append.mp hrow with hrow | hrow
      · exact hnew row hrow
      · simp [posting] at hrow
    refine .inl (.of_log hreplay horigin hlog' rfl (huser ▸ hposts)
      (hdelivered.supplies huser htype hplan hnone) hterms ?_)
    rw [hfinal]
    simp [orderPatch?, hpromo.patches, reward_patches hreward, hdelivered.patches,
      OrderInternalUpdate.set]
  | slots debit delivered htype hposts hdelivered =>
    have hlog' : c.log = origin.log ++ (paid :: (posting payment ++ promo) ++
        (posting debit ++ (delivered ++ completed :: (reward ++ post)))) := by
      rw [hlog]
      simp [paid, completed]
    obtain ⟨sub, hsub, hfound⟩ := hwaiting.slots htype
    refine .inl (.of_log hreplay horigin hlog' rfl (huser ▸ hposts)
      (hdelivered.supplies htype hsub hfound) hterms ?_)
    rw [hfinal]
    simp [orderPatch?, hpromo.patches, reward_patches hreward, hdelivered.patches,
      OrderInternalUpdate.set, hsub]
  | withheld hwithheld =>
    obtain ⟨hid, howner, hamount, hprovider, -, htypes, hplans, -, -⟩ :=
      PaymentOrder.sameTerms hterms
    refine .inr (.mk payment { status := some .completed, completedAt := some now }
      (origin.log ++ paid :: (posting payment ++ promo)) (reward ++ post)
      (hprovider ▸ hwaiting.gateway) ?_ ?_ ?_ rfl ?_)
    · rw [howner, hamount, hid]
      exact huser ▸ hpayment
    · rw [hid, hrows, rowsOf_settlement hpayment hpromo hreward]
      rfl
    · rw [hlog, hid]
      simp [paid]
    · rw [hamount, htypes, hplans, foldl_origin horigin]
      cases hwithheld with
      | noUser hnone =>
        obtain ⟨c', rfl, hnone⟩ := hnone
        exact absurd (huser ▸ hnone) (find?_user_foldl hseen)
      | unaffordable hlow => exact .inl hlow
      | noPlan _ hnone =>
        refine absurd hnone (hwaiting.plan ?_)
        cases hplaced : placed.orderType <;> simp_all
      | notForSale htype plan hplan hsale =>
        obtain ⟨c', rfl, hsale⟩ := hsale
        refine .inr ⟨htype, plan, hplan, ?_⟩
        rintro ⟨row, hrow, hactive⟩
        exact hsale row hrow hactive

/-- An order that was bought from the balance is delivered. -/
theorem Placed.delivered (h : Placed (· = origin) [] origin.state.freshUuid data placed ws)
    (hreplay : c.state = c.log.foldl Database.apply start)
    (horigin : origin.state = origin.log.foldl Database.apply start)
    (hlog : c.log = origin.log ++ (ws ++ post)) (hpaid : placed.status = .paid)
    (hfinal : order = placed.patched (ws.filterMap (orderPatch? placed.id)))
    (hprice : placed.amountRub ≠ 0 ∨ placed.orderType = .deviceSlots) :
    Delivered start c order := by
  have hterms : order.terms = placed.terms := by rw [hfinal, terms_patched]
  cases h with
  | topUp | slots | plan =>
    subst_vars
    cases hpaid
  | balanceSlots _ sub _ id _ now _ debit delivery _ _ _ hseen _ _ _ horder hposts hdelivery =>
    have hlog' : c.log = origin.log ++ ([.insertOrder placed] ++ (posting debit ++ (delivery ++
        .updateOrder placed.id
          { status := some .completed, paidAt := some now, completedAt := some now } ::
        post))) := by
      rw [hlog]
      simp
    have howner : data.userId = placed.userId := by rw [horder]; rfl
    have hslots : placed.orderType = .deviceSlots := by rw [horder]; rfl
    have hnamed : placed.subscriptionId = some sub := by rw [horder]; rfl
    obtain ⟨c', rfl, hfound⟩ := hseen
    refine .of_log hreplay horigin hlog' rfl (howner ▸ hposts)
      (hdelivery.supplies hslots hnamed hfound) hterms ?_
    rw [hfinal]
    simp [filterMap_cons, orderPatch?, hdelivery.patches, OrderInternalUpdate.set, hnamed]
  | balancePlan plan quote externalId id created now _ debit sub delivery promo htype hbalance
      hplan hseen hquote hfits hfresh horder hposts hdelivery hpromo =>
      have hlog' : c.log = origin.log ++ ([.insertOrder placed] ++ (posting debit ++ (delivery ++
          .updateOrder placed.id
            { status := some .completed, paidAt := some now, completedAt := some now } ::
          (promo ++ post)))) := by
        rw [hlog]
        simp
      have howner : data.userId = placed.userId := by rw [horder]; rfl
      have hplanType : placed.orderType ≠ .deviceSlots := by
        rintro heq
        have hdata : data.orderType = .deviceSlots := by rw [horder] at heq; exact heq
        simp [hdata] at htype
      have hnamed : placed.planId = some plan.id := by rw [horder]; exact hplan
      have hnone : ∀ id, origin.state.freshUuid ≤ id →
          (([insertOrder placed] ++ posting debit).foldl Database.apply
            origin.state).subscriptions.find? id = none := by
        intro id hid
        exact find?_subscription_foldl_eq_none (find?_subscription_of_fresh hid) (by simp [posting])
      refine .of_log hreplay horigin hlog' rfl (howner ▸ hposts)
        (hdelivery.supplies howner hplanType hnamed hnone) hterms ?_
      rw [hfinal]
      simp [filterMap_cons, orderPatch?, hdelivery.patches, hpromo.patches, OrderInternalUpdate.set]
  | trial _ _ _ _ _ _ _ _ _ horder =>
    rcases hprice with hprice | hslots
    · exact absurd (by rw [horder]; rfl) hprice
    · rw [horder] at hslots
      cases hslots

end

/-- The plan is taken off sale between the order and its payment. -/
def paidAfterClosing : Committed engine :=
  let placed := (Operation.run Scenario.settings (.createOrder Scenario.invoice) Scenario.world
    ⟨Scenario.database 0, []⟩).2
  let closed := (Operation.run Scenario.settings
    (.updatePlan { Scenario.plan with isActive := false }) Scenario.world placed).2
  (Operation.run Scenario.settings
    (.processWebhook "crypto" (Scenario.postback [("amount", .int 100)])) Scenario.world closed).2

def foreignSubscription : Subscription where
  id := 3
  userId := 9
  planId := some 7
  isActive := true
  expiresAt := some 1000
  maxDevices := some 1
  paidDeviceSlots := 0
  periodMonths := 1
  autoRenew := false

def foreignSlotOrder : OrderCreateIn where
  userId := 1
  provider := .balance
  orderType := .deviceSlots
  deviceSlotsQty := 1
  subscriptionId := some 3

def foreignSlot : Committed engine :=
  let start : Database :=
    { Scenario.database 100 with subscriptions := Table.empty.insert foreignSubscription }
  (Operation.run Scenario.settings (.createOrder foreignSlotOrder) Scenario.world ⟨start, []⟩).2

end VpnControl.Billing
