/-
# What a purchase does to the subscriptions

A fulfilled order extends one subscription, creates one or adds device slots to one. Row
by row, `SubChange` says what became of a subscription that existed when an operation
started, and for which order. Whoever reasons about subscriptions over a run needs no
other fact about the operations.
-/

import VpnControl.Billing.OrderSteps
import VpnControl.Billing.Placing

namespace VpnControl.Billing

open Txn Operation
open Table

variable {cfg : Settings} {world : World} {s s' : Store} {plan : Plan} {order : PaymentOrder}
  {user : Uuid} {now : Time} {sub : Subscription} {id : Uuid} {op : Operation}
  {data : OrderCreateIn} {sub' : Subscription} {db db' : Database} {strict : Bool}

/-! ## Deliveries -/

theorem set_active_extensionPatch (existing : Subscription) (planChanged : Bool) (plan : Plan)
    (order : PaymentOrder) (now : Time) :
    SubscriptionInternalUpdate.set { isActive := some true }
        ((extensionPatch existing planChanged plan order now).set existing) =
      (extensionPatch existing planChanged plan order now).set existing := by
  have hactive : (extensionPatch existing planChanged plan order now).isActive = some true := by
    unfold extensionPatch
    dsimp only
    split
    · rfl
    · split <;> rfl
  simp [SubscriptionInternalUpdate.set, hactive]

theorem find?_of_extendSubscription (hrow : s.db.subscriptions.find? existing.id = some existing)
    (h : direct world (extendSubscription existing planChanged plan order now) s = (.ok (), s'))
    (id : Uuid) :
    s'.db.subscriptions.find? id = if id = existing.id
      then some ((extensionPatch existing planChanged plan order now).set existing)
      else s.db.subscriptions.find? id := by
  let patch := extensionPatch existing planChanged plan order now
  let extended := (s.db.apply (.updateSubscription existing.id patch)).apply
    (.updateOrder order.id { subscriptionId := some existing.id })
  have hextended : extended.subscriptions.find? existing.id = some (patch.set existing) := by
    have hself := find?_updateSubscription_self s.db existing.id patch
    rw [hrow] at hself
    exact hself
  have hdb : s'.db = extended.apply (.updateSubscription existing.id { isActive := some true }) := by
    unfold extendSubscription activate updateSubscription updateOrder getSubscription at h
    rw [direct_execute_bind, direct_execute_bind, direct_select_bind] at h
    simp only [hextended, direct_execute_bind, patch, extended] at h
    obtain ⟨restored, mid, hrestored, h⟩ := direct_bind_ok.mp h
    cases hrestored
    split at h
    · cases h
    · cases h
      rfl
  rw [hdb]
  by_cases hid : id = existing.id
  · subst hid
    rw [find?_updateSubscription_self, hextended, if_pos rfl, Option.map_some]
    exact congrArg some (set_active_extensionPatch existing planChanged plan order now)
  · rw [if_neg hid]
    have hlast := find?_updateSubscription_of_ne extended hid { isActive := some true }
    exact hlast.trans (find?_updateSubscription_of_ne s.db hid patch)

theorem find?_of_createPurchased
    (h : direct world (createPurchased user plan order now) s = (.ok (), s')) :
    s'.db.subscriptions =
      s.db.subscriptions.insert ((purchasedSubscription user plan order now).row s.nextUuid) := by
  unfold createPurchased createSubscriptionRow at h
  obtain ⟨sub, created, hcreated, h⟩ := direct_bind_ok.mp h
  split at hcreated
  · cases hcreated
  · rw [direct_uuid4_bind, direct_execute_bind] at hcreated
    cases hcreated
    cases h
    rfl

theorem find?_of_deliverPlan (h : direct world (deliverPlan user plan order now) s = (.ok (), s'))
    (hsub : s.db.subscriptions.find? id = some sub) :
    s'.db.subscriptions.find? id = some sub ∨ ∃ planChanged,
      s.db.purchaseTarget user plan order = some (sub, planChanged) ∧
      s'.db.subscriptions.find? id =
        some ((extensionPatch sub planChanged plan order now).set sub) := by
  unfold deliverPlan at h
  rw [direct_bind, direct_purchaseTarget] at h
  cases htarget : s.db.purchaseTarget user plan order with
  | none =>
    simp only [htarget] at h
    rw [find?_of_createPurchased h]
    left
    by_cases hid : id = s.nextUuid
    · have htaken : s.db.subscriptions.find?
          (Row.key ((purchasedSubscription user plan order now).row s.nextUuid)) = some sub := by
        rw [← hsub, hid]
        rfl
      rw [insert_of_find? htaken, hsub]
    · rw [Table.find?_insert_of_ne hid, hsub]
  | some target =>
    obtain ⟨existing, planChanged⟩ := target
    simp only [htarget] at h
    have hrow := (find?_of_purchaseTarget htarget).2
    have hfind := find?_of_extendSubscription hrow h id
    by_cases hid : id = existing.id
    · subst hid
      obtain rfl : existing = sub := Option.mem_unique hrow hsub
      rw [if_pos rfl] at hfind
      exact .inr ⟨planChanged, rfl, hfind⟩
    · rw [if_neg hid] at hfind
      exact .inl (hfind.trans hsub)

/-! ## Payment from the balance -/

/-- The tables once a balance is posted. -/
def posted (row : BalanceTransaction) (s : Store) : Store where
  db := (s.db.apply (.setBalance row.userId row.balanceAfter)).apply (.insertTransaction row)
  nextUuid := s.nextUuid + 1

/-- A purchase debits the price and delivers, or it does nothing. -/
theorem posted_of_payFromBalance
    (h : direct world (payFromBalance user order type description strict deliver) s =
      (.ok (), s')) :
    (∃ holder row, s.db.users.find? user = some holder ∧ order.amountRub ≤ holder.balance ∧
      Posts row user (-order.amountRub) type (some order.id) ∧
      row.balanceAfter = holder.balance - order.amountRub ∧
      direct world (deliver user) (posted row s) = (.ok (), s')) ∨
    (strict = false ∧ s' = s) := by
  unfold payFromBalance at h
  rw [direct_lockUser_bind] at h
  have hinsufficient : direct world (insufficientBalance strict) s = (.ok (), s') →
      strict = false ∧ s' = s := by
    intro h
    cases strict with
    | true => cases h
    | false =>
      cases h
      exact ⟨rfl, rfl⟩
  cases hholder : s.db.users.find? user with
  | none =>
    simp only [hholder] at h
    exact .inr (hinsufficient h)
  | some holder =>
    obtain rfl : holder.id = user := key_of_find? hholder
    simp only [hholder] at h
    split at h
    · exact .inr (hinsufficient h)
    · rename_i hcovers
      unfold updateUserBalance recordTransaction at h
      rw [direct_execute_bind] at h
      obtain ⟨⟨⟩, recorded, hrecorded, h⟩ := direct_bind_ok.mp h
      cases hrecorded
      let row : BalanceTransaction :=
        { id := s.nextUuid, userId := holder.id, amount := -order.amountRub
          balanceAfter := holder.balance - order.amountRub, type := type, orderId := some order.id
          description := some description }
      exact .inl ⟨holder, row, rfl, not_lt.mp hcovers, ⟨rfl, rfl, rfl, rfl⟩, rfl, h⟩

theorem find?_of_addDeviceSlots (h : direct world (addDeviceSlots order) s = (.ok (), s'))
    (hsub : s.db.subscriptions.find? id = some sub) :
    s'.db.subscriptions.find? id = some sub ∨ order.subscriptionId = some sub.id ∧
      s'.db.subscriptions.find? id =
        some { sub with paidDeviceSlots := sub.paidDeviceSlots + order.deviceSlotsQty } := by
  unfold addDeviceSlots at h
  split at h
  · cases h
    exact .inl hsub
  · rename_i named hnamed
    unfold getSubscription at h
    rw [direct_select_bind] at h
    cases hfound : s.db.subscriptions.find? named with
    | none =>
      simp only [hfound] at h
      cases h
      exact .inl hsub
    | some target =>
      obtain rfl : target.id = named := key_of_find? hfound
      simp only [hfound] at h
      cases h
      by_cases hid : id = target.id
      · subst hid
        obtain rfl : target = sub := Option.mem_unique hfound hsub
        refine .inr ⟨hnamed, ?_⟩
        refine (find?_updateSubscription_self s.db target.id _).trans ?_
        rw [hfound]
        rfl
      · exact .inl ((find?_updateSubscription_of_ne s.db hid _).trans hsub)

/-! ## Fulfilment -/

variable (db : Database) (order : PaymentOrder) (now : Time) (sub : Subscription) in
/-- What the fulfilment of an order makes of a subscription. -/
inductive SubChange : Subscription → Prop
  | same : SubChange sub
  | extended (plan : Plan) (planChanged : Bool) (htype : order.orderType ≠ .deviceSlots)
      (hplanId : order.planId = some plan.id) (hplan : db.plans.find? plan.id = some plan)
      (htarget : db.purchaseTarget order.userId plan order = some (sub, planChanged)) :
      SubChange ((extensionPatch sub planChanged plan order now).set sub)
  | slots (htype : order.orderType = .deviceSlots) (hsub : order.subscriptionId = some sub.id) :
      SubChange
        { sub with paidDeviceSlots := sub.paidDeviceSlots + order.deviceSlotsQty }

theorem purchaseTarget_congr (h : db.subscriptions = db'.subscriptions)
    (user : Uuid) (plan : Plan) (order : PaymentOrder) :
    db.purchaseTarget user plan order = db'.purchaseTarget user plan order := by
  unfold Database.purchaseTarget Database.renewalTarget Database.activeSubscriptionForPlan
    Database.latestSubscription Database.activeSubscriptions
  rw [h]

theorem SubChange.congr
    (hsubs : db.subscriptions = db'.subscriptions) (hplans : db.plans = db'.plans)
    (h : SubChange db order now sub sub') : SubChange db' order now sub sub' := by
  cases h with
  | same => exact .same
  | extended plan planChanged htype hplanId hplan htarget =>
    rw [hplans] at hplan
    rw [purchaseTarget_congr hsubs] at htarget
    exact .extended plan planChanged htype hplanId hplan htarget
  | slots htype hsub => exact .slots htype hsub

/-- A plan that is bought changes its target. -/
theorem subChange_of_autoPurchase (htype : order.orderType ≠ .deviceSlots)
    (hplanId : order.planId = some plan.id) (hplan : s.db.plans.find? plan.id = some plan)
    (h : direct world (autoPurchase order.userId plan order now strict) s = (.ok (), s'))
    (hsub : s.db.subscriptions.find? id = some sub) :
    ∃ sub', s'.db.subscriptions.find? id = some sub' ∧ SubChange s.db order now sub sub' := by
  rcases posted_of_payFromBalance h with ⟨holder, row, -, -, -, -, hdeliver⟩ | ⟨-, rfl⟩
  · have hposted : (posted row s).db.subscriptions.find? id = some sub := hsub
    rcases find?_of_deliverPlan hdeliver hposted with hsame | ⟨planChanged, htarget, hset⟩
    · exact ⟨sub, hsame, .same⟩
    · exact ⟨_, hset, .extended plan planChanged htype hplanId hplan htarget⟩
  · exact ⟨sub, hsub, .same⟩

theorem subChange_of_fulfillDeviceSlots (now : Time) (htype : order.orderType = .deviceSlots)
    (h : direct world (fulfillDeviceSlots user order strict) s = (.ok (), s'))
    (hsub : s.db.subscriptions.find? id = some sub) :
    ∃ sub', s'.db.subscriptions.find? id = some sub' ∧ SubChange s.db order now sub sub' := by
  rcases posted_of_payFromBalance h with ⟨holder, row, -, -, -, -, hdeliver⟩ | ⟨-, rfl⟩
  · have hposted : (posted row s).db.subscriptions.find? id = some sub := hsub
    rcases find?_of_addDeviceSlots hdeliver hposted with hsame | ⟨hnamed, hset⟩
    · exact ⟨sub, hsame, .same⟩
    · exact ⟨_, hset, .slots htype hnamed⟩
  · exact ⟨sub, hsub, .same⟩

theorem subChange_of_deliverOrder (haccount : account.id = order.userId)
    (h : direct world (deliverOrder account order now) s = (.ok (), s'))
    (hsub : s.db.subscriptions.find? id = some sub) :
    ∃ sub', s'.db.subscriptions.find? id = some sub' ∧ SubChange s.db order now sub sub' := by
  unfold deliverOrder at h
  split at h
  · rename_i htype
    exact subChange_of_fulfillDeviceSlots now htype h hsub
  · rename_i htype
    split at h
    · cases h
      exact ⟨sub, hsub, .same⟩
    · rename_i planId hplanId
      unfold getPlan at h
      rw [direct_select_bind] at h
      cases hplan : s.db.plans.find? planId with
      | none =>
        simp only [hplan] at h
        cases h
        exact ⟨sub, hsub, .same⟩
      | some plan =>
        obtain rfl : plan.id = planId := key_of_find? hplan
        simp only [hplan] at h
        split at h
        · rw [haccount] at h
          exact subChange_of_autoPurchase htype hplanId hplan h hsub
        · cases h
          exact ⟨sub, hsub, .same⟩

/-! ## Operations -/

theorem guarded_of_quoteOrder (h : direct world (quoteOrder data plan) s = (.ok quote, s'))
    (htype : data.orderType = .planPurchase) :
    s.db.downgrades data.userId plan world.now = false := by
  unfold quoteOrder at h
  split at h
  · cases h
  · obtain ⟨⟨⟩, guarded, hguarded, -⟩ := direct_bind_ok.mp h
    rw [direct_guardNoDowngrade] at hguarded
    split at hguarded
    · cases hguarded
    · rename_i hopen
      simpa [htype] using hopen

/-- The order that a request asks for. -/
structure OrderCreateIn.Asks (data : OrderCreateIn) (order : PaymentOrder) : Prop where
  userId : order.userId = data.userId
  orderType : order.orderType = data.orderType
  deviceSlotsQty : order.deviceSlotsQty = data.deviceSlotsQty
  subscriptionId : order.subscriptionId = data.subscriptionId

/-- The order that an operation fulfils: a pending order that it pays, or an order that it
places and pays from the balance, which has passed the checks of its placement. -/
inductive Fulfils (cfg : Settings) (now : Time) (db : Database) : Operation → PaymentOrder → Prop
  | paid (op : Operation) (order : PaymentOrder) (providerName : String)
      (hpays : Pays cfg db op order providerName) (hpending : order.status = .pending) :
      Fulfils cfg now db op order
  | boughtPlan (data : OrderCreateIn) (plan : Plan) (order : PaymentOrder)
      (htype : data.orderType ∈ [.planPurchase, .subscriptionRenewal])
      (hbalance : data.provider = .balance) (hasks : data.Asks order)
      (hmonths : order.periodMonths = data.periodMonths) (hdata : data.planId = some plan.id)
      (hplanId : order.planId = some plan.id) (hplan : db.plans.find? plan.id = some plan)
      (hguard : data.orderType = .planPurchase → db.downgrades data.userId plan now = false) :
      Fulfils cfg now db (.createOrder data) order
  | boughtSlots (data : OrderCreateIn) (sub : Subscription) (plan : Plan) (order : PaymentOrder)
      (htype : data.orderType = .deviceSlots) (hbalance : data.provider = .balance)
      (hasks : data.Asks order) (hsub : data.subscriptionId = some sub.id)
      (hrow : db.subscriptions.find? sub.id = some sub)
      (hplan : sub.planId.bind db.plans.find? = some plan)
      (hlimit : data.deviceSlotsQty ≤
        plan.maxDevices - plan.includedDevices - sub.paidDeviceSlots) :
      Fulfils cfg now db (.createOrder data) order

variable (cfg : Settings) (now : Time) (db : Database) (op : Operation) (sub : Subscription) in
/-- What an operation makes of a subscription. -/
inductive OpChange : Subscription → Prop
  | same : OpChange sub
  | fulfilled (order : PaymentOrder) (sub' : Subscription) (h : Fulfils cfg now db op order)
      (hchange : SubChange db order now sub sub') : OpChange sub'
  | trial (data : OrderCreateIn) (expiresAt : Time) (hop : op = .createOrder data)
      (hfree : data.provider = .free) :
      OpChange { sub with expiresAt := some expiresAt, isActive := true }

/-- A write that leaves the subscriptions and the plans alone. -/
def Write.SparesSubscriptions : Write → Prop
  | .insertSubscription _ => False
  | .updateSubscription _ _ => False
  | .updatePlan _ => False
  | _ => True

/-- A method that spares the subscriptions leaves them and the plans as they are. -/
theorem direct_sparesSubscriptions {p : Service α} (hp : Writes Write.SparesSubscriptions p)
    (h : direct world p s = (result, s')) :
    s'.db.subscriptions = s.db.subscriptions ∧ s'.db.plans = s.db.plans := by
  have hsame := direct_unchanged (fun db => (db.subscriptions, db.plans))
    (fun w _ hw => by cases w <;> first | rfl | cases hw) hp h
  exact ⟨congrArg Prod.fst hsame, congrArg Prod.snd hsame⟩

theorem sparesSubscriptions_recordPromoActivation :
    Writes Write.SparesSubscriptions (recordPromoActivation order) :=
  .recordPromoActivation (fun _ _ => trivial) fun _ => trivial

theorem sparesSubscriptions_rewardReferral :
    Writes Write.SparesSubscriptions (rewardReferral cfg order providerName) :=
  (reward_rewardReferral cfg).mono fun w _ => by cases w <;> trivial

/-- A settled payment changes the subscriptions as the delivery of its order does. -/
theorem subChange_of_settled (h : Settled cfg world order providerName s s')
    (hsub : s.db.subscriptions.find? id = some sub) :
    ∃ sub', s'.db.subscriptions.find? id = some sub' ∧ SubChange s.db order world.now sub sub' := by
  obtain ⟨account, fee, payment, recorded, delivered, huser, -, hrecorded, hdelivered, hreward⟩ := h
  obtain ⟨hsubs, hplans⟩ :=
    direct_sparesSubscriptions (sparesSubscriptions_recordPromoActivation) hrecorded
  have hsub' : recorded.db.subscriptions.find? id = some sub := by
    rw [hsubs]
    exact hsub
  obtain ⟨sub', hfound, hchange⟩ := subChange_of_deliverOrder (key_of_find? huser) hdelivered hsub'
  obtain ⟨hlast, -⟩ := direct_sparesSubscriptions (sparesSubscriptions_rewardReferral) hreward
  refine ⟨sub', ?_, hchange.congr hsubs hplans⟩
  rw [hlast]
  exact hfound

theorem find?_of_autoPurchaseFree
    (h : direct world (autoPurchaseFree user plan order now) s = (.ok (), s'))
    (hsub : s.db.subscriptions.find? id = some sub) :
    s'.db.subscriptions.find? id = some sub ∨ ∃ expiresAt, s'.db.subscriptions.find? id =
      some { sub with expiresAt := some expiresAt, isActive := true } := by
  unfold autoPurchaseFree at h
  rw [direct_select_bind] at h
  cases hfound : s.db.activeSubscriptionForPlan user plan.id with
  | some existing =>
    simp only [hfound] at h
    cases h
    by_cases hid : id = existing.id
    · subst hid
      refine .inr ⟨existing.expiresAt.getD now + days plan.durationDays,
        (find?_updateSubscription_self s.db existing.id _).trans ?_⟩
      rw [hsub]
      rfl
    · exact .inl ((find?_updateSubscription_of_ne s.db hid _).trans hsub)
  | none =>
    simp only [hfound] at h
    unfold createSubscriptionRow at h
    split at h
    · cases h
    · cases h
      left
      by_cases hid : id = s.nextUuid
      · subst hid
        exact (congrArg (Table.find? · s.nextUuid) (insert_of_find? hsub)).trans hsub
      · exact (Table.find?_insert_of_ne hid).trans hsub

theorem SubChange.of_inserted (h : SubChange (inserted order s).db order now sub sub') :
    SubChange s.db order now sub sub' := by
  have hsubs : (inserted order s).db.subscriptions = s.db.subscriptions := rfl
  exact h.congr hsubs rfl

theorem subChange_of_placing (h : Placing cfg world data s order s')
    (hsub : s.db.subscriptions.find? id = some sub) :
    ∃ sub', s'.db.subscriptions.find? id = some sub' ∧ (sub' = sub ∨
      Fulfils cfg world.now s.db (.createOrder data) order ∧
        SubChange s.db order world.now sub sub' ∨
      data.provider = .free ∧ ∃ expiresAt,
        sub' = { sub with expiresAt := some expiresAt, isActive := true }) := by
  cases h with
  | topUp | slotsWaiting | planWaiting =>
    rename_i hdb
    refine ⟨sub, ?_, .inl rfl⟩
    rw [hdb]
    exact hsub
  | slots target plan user order bought s' htype hbalance hnamed hrow hplan hlimit hprice hfits
      huser horder hbought hdone =>
      have hasks : data.Asks order := by
        subst horder
        exact ⟨rfl, htype.symm, rfl, hnamed.symm⟩
      have hfulfils : Fulfils cfg world.now s.db (.createOrder data) order :=
        .boughtSlots data target plan order htype hbalance hasks hnamed hrow hplan hlimit
      obtain ⟨sub', hfound, hchange⟩ := subChange_of_fulfillDeviceSlots world.now
        (hasks.orderType.trans htype) hbought hsub
      subst hdone
      exact ⟨sub', hfound, .inr (.inl ⟨hfulfils, hchange.of_inserted (s := drawn s)⟩)⟩
  | plan plan quote user order bought s' htype hbalance hplanId hplan hquote hfits huser horder
      hbought hrecorded =>
      have hasks : data.Asks order := by
        subst horder
        exact ⟨rfl, rfl, rfl, rfl⟩
      have hplanned : order.planId = some plan.id := by
        subst horder
        exact hplanId
      have hfulfils : Fulfils cfg world.now s.db (.createOrder data) order :=
        .boughtPlan data plan order htype hbalance hasks (by subst horder; rfl) hplanId hplanned hplan
          (guarded_of_quoteOrder hquote)
      have hslots : order.orderType ≠ .deviceSlots := by
        rw [hasks.orderType]
        intro heq
        simp [heq] at htype
      have huserId : user.id = order.userId := (key_of_find? huser).trans hasks.userId.symm
      rw [huserId] at hbought
      have hplaced : (inserted order (drawn s)).db.plans.find? plan.id = some plan := hplan
      obtain ⟨sub', hfound, hchange⟩ :=
        subChange_of_autoPurchase hslots hplanned hplaced hbought hsub
      obtain ⟨hlast, -⟩ :=
        direct_sparesSubscriptions (sparesSubscriptions_recordPromoActivation) hrecorded
      refine ⟨sub', ?_, .inr (.inl ⟨hfulfils, hchange.of_inserted (s := drawn s)⟩)⟩
      rw [hlast]
      exact hfound
  | trial _ _ _ _ _ hfree _ _ _ _ _ hdelivered hdone =>
    subst hdone
    rcases find?_of_autoPurchaseFree hdelivered hsub with hsame | ⟨expiresAt, hset⟩
    · exact ⟨sub, hsame, .inl rfl⟩
    · exact ⟨_, hset, .inr (.inr ⟨hfree, expiresAt, rfl⟩)⟩

/-- The operations that orders are placed and paid by. -/
def Operation.IsOrdering (op : Operation) : Prop :=
  op.IsPayment ∨ ∃ data, op = .createOrder data

section

variable (hop : op.IsOrdering) (cfg : Settings) (world : World) (c : Committed engine)

include hop

/-- What ordering and paying do to the tables. A request that fails does nothing. -/
theorem Operation.IsOrdering.step :
    ∃ s', (op.run cfg world c).2.state = s'.db ∧ (PaymentStep cfg world op (storeOf c) s' ∨
      ∃ data order, op = .createOrder data ∧ Placing cfg world data (storeOf c) order s') := by
  rcases op.run_cases cfg world c with ⟨s', hdirect, hstate⟩ | hstate
  · refine ⟨s', hstate, ?_⟩
    rcases hop with hpayment | ⟨data, rfl⟩
    · exact .inl (paymentStep_of_direct hpayment hdirect)
    · obtain ⟨value, mid, hcreate, hreturn⟩ := direct_bind_ok.mp hdirect
      cases hreturn
      obtain ⟨order, hplacing, -⟩ := placing_of_createOrder hcreate
      exact .inr ⟨data, order, rfl, hplacing⟩
  · exact ⟨storeOf c, hstate, .inl .nothing⟩

/-- **What ordering and paying make of a subscription.** -/
theorem Operation.opChange (hsub : c.state.subscriptions.find? id = some sub) :
    ∃ sub', (op.run cfg world c).2.state.subscriptions.find? id = some sub' ∧
      OpChange cfg world.now c.state op sub sub' := by
  obtain ⟨s', hstate, hstep | ⟨data, order, rfl, hplacing⟩⟩ := hop.step cfg world c <;> rw [hstate]
  · cases hstep with
    | nothing => exact ⟨sub, hsub, .same⟩
    | noted => exact ⟨sub, hsub, .same⟩
    | settled order providerName _ hpays hpending hsettled =>
      obtain ⟨sub', hfound, hchange⟩ := subChange_of_settled hsettled hsub
      exact ⟨sub', hfound, .fulfilled order sub' (.paid op order providerName hpays hpending)
        hchange⟩
  · obtain ⟨sub', hfound, rfl | ⟨hfulfils, hchange⟩ | ⟨hfree, expiresAt, rfl⟩⟩ :=
      subChange_of_placing hplacing hsub
    · exact ⟨sub', hfound, .same⟩
    · exact ⟨sub', hfound, .fulfilled order sub' hfulfils hchange⟩
    · exact ⟨_, hfound, .trial data expiresAt rfl hfree⟩

/-- What ordering and paying write is about one order. -/
theorem Operation.settles : ∃ id ws, (op.run cfg world c).2 = c.extend ws ∧
      ∀ w ∈ ws, (∃ order, w = .insertOrder order ∧ order.id = id) ∨ w.Settles id := by
  have hwrites : Outcome (· = c) (Tx.start (world.session c.state)) (op.program cfg) fun _ ws =>
      ∃ id, ∀ w ∈ ws, (∃ order, w = .insertOrder order ∧ order.id = id) ∨ w.Settles id := by
    rcases hop with hpayment | ⟨data, rfl⟩
    · cases op with
      | processWebhook providerName request =>
        refine (outcome_processWebhook cfg).mono ?_
        rintro - ws ⟨webhook, order, -, -, -, haccepted⟩
        exact ⟨order.id, fun w hw => .inr (haccepted.settles w hw)⟩
      | confirmStarsPayment orderId =>
        refine (outcome_confirmStarsPayment cfg).mono ?_
        rintro - ws ⟨order, -, -, hsettled⟩
        exact ⟨order.id, fun w hw => .inr (hsettled.settles w hw)⟩
      | _ => cases hpayment
    · refine .bind (creates_createOrder cfg) ?_
      rintro value ws mid - ⟨order, hplaced, -⟩
      refine outcome_pure ⟨order.id, fun w hw => ?_⟩
      rw [List.append_nil] at hw
      rcases hplaced.settles w hw with rfl | hsettles
      · exact .inl ⟨order, rfl, rfl⟩
      · exact .inr hsettles
  rcases Outcome.request hwrites with ⟨value, ws, hrun, id, hws⟩ | ⟨error, hrun⟩
  · exact ⟨id, ws, by rw [run, hrun], hws⟩
  · exact ⟨0, [], by rw [run, hrun, Committed.extend_nil], by simp⟩

/-- Ordering and paying leave the plans alone. -/
theorem Operation.plans_eq : (op.run cfg world c).2.state.plans = c.state.plans := by
  obtain ⟨id, ws, hrun, hws⟩ := settles hop cfg world c
  rw [hrun]
  refine Database.foldl_unchanged Database.plans (fun w hw db => ?_)
  rcases hws w hw with ⟨order, rfl, -⟩ | hsettles
  · rfl
  · cases w <;> first | rfl | cases hsettles

end

end VpnControl.Billing
