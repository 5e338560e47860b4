/-
# How an order is placed

The stages of `create_order` on plain tables. An order waits for its payment, or it is
bought at once from the balance or for free. `Placing` keeps, for each of these, what was
looked up and the tables between the stages.
-/

import VpnControl.Billing.Placement
import VpnControl.Billing.Serial

namespace VpnControl.Billing

open Txn List Table Database

variable {cfg : Settings} {world : World} {s s' : Store} {data : OrderCreateIn}
  {value : PaymentOrder} {plan : Plan}

/-! ## Stages -/

/-- The tables once an order is inserted. The order takes the next identifier. -/
def inserted (order : PaymentOrder) (s : Store) : Store where
  db := s.db.apply (.insertOrder order)
  nextUuid := s.nextUuid + 1

/-- The tables once an order that was bought at once is completed. -/
def boughtAtOnce (world : World) (order : PaymentOrder) (s : Store) : Store where
  db := s.db.apply (.updateOrder order.id
    { status := some .completed, paidAt := some world.now, completedAt := some world.now })
  nextUuid := s.nextUuid

/-- The next identifier is drawn. -/
def drawn (s : Store) : Store := { s with nextUuid := s.nextUuid + 1 }

/-- How an order was placed: it waits for its payment, or it was bought from the balance
or for free, and then the stages of that purchase. -/
inductive Placing (cfg : Settings) (world : World) (data : OrderCreateIn) (s : Store) :
    PaymentOrder → Store → Prop
  | topUp (amountRub : Money) (externalId : String) (expiresAt : Time) (id : Uuid)
      (order : PaymentOrder) (s' : Store) (htype : data.orderType = .topUp)
      (hgateway : data.provider ≠ .balance ∧ data.provider ≠ .free) (hamount : 0 < amountRub)
      (hfresh : s.nextUuid ≤ id)
      (horder : order = OrderInternalCreate.row
        { userId := data.userId
          amountRub := amountRub
          provider := data.provider
          externalId := externalId
          expiresAt := some expiresAt
          orderType := .topUp } id world.now)
      (hdb : s'.db = s.db.apply (.insertOrder order)) : Placing cfg world data s order s'
  | slotsWaiting (sub : Subscription) (plan : Plan) (externalId : String) (expiresAt : Time)
      (id : Uuid) (order : PaymentOrder) (s' : Store) (htype : data.orderType = .deviceSlots)
      (hgateway : data.provider ≠ .balance ∧ data.provider ≠ .free)
      (hsub : data.subscriptionId = some sub.id)
      (hrow : s.db.subscriptions.find? sub.id = some sub)
      (hplan : sub.planId.bind s.db.plans.find? = some plan)
      (hprice : 0 < plan.devicePriceRub) (hfits : fitsInteger data.deviceSlotsQty)
      (hfresh : s.nextUuid ≤ id)
      (horder : order = (slotOrder data (data.deviceSlotsQty * plan.devicePriceRub) .pending
        externalId (some expiresAt) none).row id world.now)
      (hdb : s'.db = (s.db.apply (.insertOrder order)).apply
        (.updateOrder order.id { subscriptionId := some sub.id })) :
      Placing cfg world data s order s'
  | planWaiting (plan : Plan) (quote : OrderQuote) (externalId : String) (expiresAt : Time)
      (id : Uuid) (order : PaymentOrder) (s' : Store)
      (htype : data.orderType ∈ [.planPurchase, .subscriptionRenewal])
      (hgateway : data.provider ≠ .balance ∧ data.provider ≠ .free)
      (hplanId : data.planId = some plan.id) (hplan : s.db.plans.find? plan.id = some plan)
      (hquote : direct world (quoteOrder data plan) s = (.ok quote, s))
      (hfits : fitsInteger data.deviceSlotsQty) (hfresh : s.nextUuid ≤ id)
      (horder : order = (planOrder data quote .pending externalId (some expiresAt)).row id
        world.now)
      (hdb : s'.db = s.db.apply (.insertOrder order)) : Placing cfg world data s order s'
  | slots (sub : Subscription) (plan : Plan) (user : User) (order : PaymentOrder)
      (bought s' : Store) (htype : data.orderType = .deviceSlots)
      (hbalance : data.provider = .balance) (hsub : data.subscriptionId = some sub.id)
      (hrow : s.db.subscriptions.find? sub.id = some sub)
      (hplan : sub.planId.bind s.db.plans.find? = some plan)
      (hlimit : data.deviceSlotsQty ≤ plan.maxDevices - plan.includedDevices - sub.paidDeviceSlots)
      (hprice : 0 < plan.devicePriceRub) (hfits : fitsInteger data.deviceSlotsQty)
      (huser : s.db.users.find? data.userId = some user)
      (horder : order = (slotOrder data (data.deviceSlotsQty * plan.devicePriceRub) .paid
        s!"balance_{s.nextUuid}" none (some sub.id)).row (s.nextUuid + 1) world.now)
      (hbought : direct world (fulfillDeviceSlots user.id order true)
        (inserted order (drawn s)) = (.ok (), bought))
      (hdone : s' = boughtAtOnce world order bought) : Placing cfg world data s order s'
  | plan (plan : Plan) (quote : OrderQuote) (user : User) (order : PaymentOrder)
      (bought s' : Store) (htype : data.orderType ∈ [.planPurchase, .subscriptionRenewal])
      (hbalance : data.provider = .balance) (hplanId : data.planId = some plan.id)
      (hplan : s.db.plans.find? plan.id = some plan)
      (hquote : direct world (quoteOrder data plan) s = (.ok quote, s))
      (hfits : fitsInteger data.deviceSlotsQty)
      (huser : s.db.users.find? data.userId = some user)
      (horder : order = balancePlanRow world data quote s.nextUuid)
      (hbought : direct world (autoPurchase user.id plan order world.now true)
        (inserted order (drawn s)) = (.ok (), bought))
      (hrecorded : direct world (recordPromoActivation order)
        (boughtAtOnce world order bought) = (.ok (), s')) : Placing cfg world data s order s'
  | trial (plan : Plan) (user : User) (order : PaymentOrder) (delivered s' : Store)
      (hfree : data.provider = .free) (hplanId : data.planId = some plan.id)
      (hplan : s.db.plans.find? plan.id = some plan) (hprice : plan.priceRub ≤ 0)
      (huser : s.db.users.find? data.userId = some user)
      (horder : order = OrderInternalCreate.row
        { userId := data.userId
          planId := some plan.id
          amountRub := 0
          provider := .free
          status := .paid
          externalId := s!"free_{s.nextUuid}" } (s.nextUuid + 1) world.now)
      (hdelivered : direct world (autoPurchaseFree user.id plan order world.now)
        (inserted order (drawn s)) = (.ok (), delivered))
      (hdone : s' = boughtAtOnce world order delivered) : Placing cfg world data s order s'

/-- After the order was inserted, only writes are made that fulfilment makes. -/
theorem Placing.writes (h : Placing cfg world data s order s') : ∃ ws : List Write,
    s'.db = ws.foldl apply (s.db.apply (.insertOrder order)) ∧
      ∀ W, Fulfilling W order.id → ∀ w ∈ ws, W w := by
  -- a purchase and its completion
  have hcomplete : ∀ {p : Service Unit} {bought : Store},
      direct world p (inserted order (drawn s)) = (.ok (), bought) →
      (∀ W, Fulfilling W order.id → Writes W p) → ∃ ws : List Write,
        (boughtAtOnce world order bought).db = ws.foldl apply (s.db.apply (.insertOrder order)) ∧
        ∀ W, Fulfilling W order.id → ∀ w ∈ ws, W w := by
    intro p bought hrun hp
    obtain ⟨ws, hws, hall⟩ := exists_writes_of_direct hrun
    refine ⟨ws ++ [.updateOrder order.id
      { status := some .completed, paidAt := some world.now, completedAt := some world.now }],
      ?_, fun W hW => ?_⟩
    · rw [foldl_append]
      exact congrArg (fun db : Database => db.apply (.updateOrder _ _)) hws
    · exact forall_mem_append.mpr ⟨hall W (hp W hW), forall_mem_singleton.mpr (hW.order _)⟩
  cases h with
  | topUp _ _ _ _ _ _ _ _ _ _ _ hdb => exact ⟨[], hdb, by simp⟩
  | slotsWaiting _ _ _ _ _ _ _ _ _ _ _ _ _ _ _ _ hdb =>
    exact ⟨[.updateOrder _ _], hdb, fun W hW => forall_mem_singleton.mpr (hW.order _)⟩
  | planWaiting _ _ _ _ _ _ _ _ _ _ _ _ _ _ _ hdb => exact ⟨[], hdb, by simp⟩
  | slots _ _ user _ _ _ _ _ _ _ _ _ _ _ _ _ hbought hdone =>
    exact hdone ▸ hcomplete hbought fun W hW => hW.fulfillDeviceSlots
  | plan plan _ user _ bought _ _ _ _ _ _ _ _ _ hbought hrecorded =>
    obtain ⟨ws, hws, hall⟩ := hcomplete hbought fun W hW => hW.autoPurchase
    obtain ⟨promo, hpromo, hactivates⟩ := exists_writes_of_direct hrecorded
    refine ⟨ws ++ promo, by rw [hpromo, hws, foldl_append], fun W hW => ?_⟩
    exact forall_mem_append.mpr ⟨hall W hW, hactivates W hW.recordPromoActivation⟩
  | trial plan user _ _ _ _ _ _ _ _ _ hdelivered hdone =>
    exact hdone ▸ hcomplete hdelivered fun W hW => hW.autoPurchaseFree

theorem Placing.unchanged {β : Type} (part : Database → β)
    (hpart : ∀ w (db : Database), W w → part (db.apply w) = part db)
    (hinsert : ∀ row, W (.insertOrder row)) (hW : ∀ id, Fulfilling W id)
    (h : Placing cfg world data s order s') : part s'.db = part s.db := by
  obtain ⟨ws, hws, hall⟩ := h.writes
  rw [hws, foldl_unchanged part fun w hw db => hpart w db (hall W (hW order.id) w hw)]
  exact hpart _ _ (hinsert _)

/-! ## Branches -/

/-- A payment is opened with a gateway or as a Stars invoice, and the tables stay. -/
theorem direct_openPayment_ok
    (h : direct world (openPayment cfg data amountRub description) s = (.ok externalId, s')) :
    s'.db = s.db ∧ s.nextUuid ≤ s'.nextUuid ∧ data.provider ≠ .balance ∧ data.provider ≠ .free := by
  unfold openPayment at h
  split at h
  · rename_i hstars
    cases h
    exact ⟨rfl, Nat.le_succ _, by simp [hstars], by simp [hstars]⟩
  split at h
  · cases h
  rename_i hprovider
  obtain ⟨answer, mid, hanswer, h⟩ := direct_bind_ok.mp h
  rw [direct_createPayment] at hanswer
  cases hanswer
  split at h <;> cases h
  exact ⟨rfl, le_refl _, ne_of_getProvider cfg hprovider⟩

/-- A placed order is returned as it was inserted, or as it is read back. -/
def ReadBack (order value : PaymentOrder) (s : Store) : Prop :=
  value = order ∨ s.db.orders.find? order.id = some value

theorem readBack_of_refreshedOrder
    (h : direct world (refreshedOrder order.id) s = (.ok value, s')) :
    s' = s ∧ ReadBack order value s := by
  obtain ⟨row, hrow, h⟩ := direct_some rfl rfl h
  cases h
  exact ⟨rfl, Or.inr hrow⟩

theorem placing_of_topUp (htype : data.orderType = .topUp)
    (h : direct world (createTopUpOrder cfg user data) s = (.ok value, s')) :
    Placing cfg world data s value s' := by
  unfold createTopUpOrder at h
  split at h
  · cases h
  obtain ⟨hamount, h⟩ := direct_guard.mp h
  obtain ⟨expiresAt, first, hfirst, h⟩ := direct_bind_ok.mp h
  cases hfirst
  obtain ⟨externalId, opened, hopened, h⟩ := direct_bind_ok.mp h
  obtain ⟨hdb, hnext, hgateway⟩ := direct_openPayment_ok hopened
  obtain ⟨-, rfl, rfl⟩ := direct_createOrderRow.mp h
  refine .topUp _ externalId _ opened.nextUuid _ _ htype hgateway (not_le.mp hamount) hnext rfl ?_
  rw [hdb]
  rfl

theorem direct_planOfSubscription : direct world (planOfSubscription sub) s =
      (.ok (sub.planId.bind s.db.plans.find?), s) := by
  unfold planOfSubscription
  cases sub.planId <;> rfl

theorem direct_renewalSubscription_ok
    (h : direct world (renewalSubscription data) s = (.ok found, s')) : s' = s := by
  unfold renewalSubscription at h
  split at h
  · cases h
    rfl
  · obtain ⟨sub, -, h⟩ := direct_some rfl rfl h
    obtain ⟨-, h⟩ := direct_guard.mp h
    cases h
    rfl

section

variable {sub : Subscription} (htype : data.orderType = .deviceSlots)
    (hsub : data.subscriptionId = some sub.id) (hrow : s.db.subscriptions.find? sub.id = some sub)
    (hplan : sub.planId.bind s.db.plans.find? = some plan)
    (hlimit : data.deviceSlotsQty ≤ plan.maxDevices - plan.includedDevices - sub.paidDeviceSlots)
    (hprice : 0 < plan.devicePriceRub)

include htype hsub hrow hplan hlimit hprice

theorem placing_of_balanceSlots (hbalance : data.provider = .balance)
    (h : direct world (createBalanceDeviceSlotOrder data.userId sub.id data.deviceSlotsQty
      (data.deviceSlotsQty * plan.devicePriceRub)) s = (.ok value, s')) :
    ∃ order, Placing cfg world data s order s' ∧ ReadBack order value s' := by
  unfold createBalanceDeviceSlotOrder at h
  rw [direct_datetimeNow_bind, direct_uuid4_bind] at h
  obtain ⟨order, placed, hplaced, h⟩ := direct_bind_ok.mp h
  obtain ⟨⟨hfits, -⟩, horder, rfl⟩ := direct_createOrderRow.mp hplaced
  rw [← horder] at h
  obtain ⟨user, huser, h⟩ := direct_some rfl rfl h
  obtain ⟨⟨⟩, bought, hbought, h⟩ := direct_bind_ok.mp h
  obtain ⟨⟨⟩, done, hdone, h⟩ := direct_bind_ok.mp h
  cases hdone
  obtain ⟨rfl, hread⟩ := readBack_of_refreshedOrder h
  refine ⟨order, .slots sub plan user order bought _ htype hbalance hsub hrow hplan hlimit hprice
    hfits huser ?_ hbought rfl, hread⟩
  rw [horder, slotOrder, hbalance]

theorem placing_of_slots
    (h : direct world (placeDeviceSlotOrder cfg data sub.id plan) s = (.ok value, s')) :
    ∃ order, Placing cfg world data s order s' ∧ ReadBack order value s' := by
  unfold placeDeviceSlotOrder at h
  obtain ⟨expiresAt, first, hfirst, h⟩ := direct_bind_ok.mp h
  obtain ⟨-, rfl⟩ : _ ∧ s = first := by simpa [orderExpiry, direct_map] using hfirst
  split at h
  · rename_i hbalance
    exact placing_of_balanceSlots htype hsub hrow hplan hlimit hprice hbalance h
  · obtain ⟨externalId, opened, hopened, h⟩ := direct_bind_ok.mp h
    obtain ⟨hdb, hnext, hgateway⟩ := direct_openPayment_ok hopened
    obtain ⟨order, placed, hplaced, h⟩ := direct_bind_ok.mp h
    obtain ⟨⟨hfits, -⟩, horder, rfl⟩ := direct_createOrderRow.mp hplaced
    rw [← horder] at h
    obtain ⟨⟨⟩, named, hnamed, h⟩ := direct_bind_ok.mp h
    cases hnamed
    obtain ⟨rfl, hread⟩ := readBack_of_refreshedOrder h
    refine ⟨order, .slotsWaiting sub plan externalId expiresAt opened.nextUuid order _ htype hgateway
      hsub hrow hplan hprice hfits hnext horder ?_, hread⟩
    rw [hdb, horder]
    rfl

end

theorem placing_of_deviceSlots (htype : data.orderType = .deviceSlots)
    (h : direct world (createDeviceSlotOrder cfg data) s = (.ok value, s')) :
    ∃ order, Placing cfg world data s order s' ∧ ReadBack order value s' := by
  unfold createDeviceSlotOrder at h
  split at h
  · cases h
  rename_i subId hsub
  obtain ⟨sub, hrow, h⟩ := direct_some rfl rfl h
  obtain rfl : sub.id = subId := key_of_find? hrow
  obtain ⟨-, h⟩ := direct_guard.mp h
  obtain ⟨plan, hplan, h⟩ := direct_some direct_planOfSubscription rfl h
  obtain ⟨hlimit, h⟩ := direct_guard.mp h
  obtain ⟨hprice, h⟩ := direct_guard.mp h
  exact placing_of_slots htype hsub hrow hplan (not_lt.mp hlimit) (not_le.mp hprice) h

/-- The limits of a promo code leave room for one more activation by the user. -/
structure PromoOpen (db : Database) (promo : PromoCode) (user : Uuid) : Prop where
  row : db.promoCodes.find? promo.id = some promo
  total : ∀ limit, promo.maxActivations = some limit → promo.activationCount < limit
  perUser : db.activationCount promo.id user < promo.maxPerUser

theorem direct_checkAudience_ok {plan : Option Uuid}
    (h : direct world (checkAudience promo user plan) s = (.ok (), s')) : s' = s := by
  unfold checkAudience at h
  split at h
  · cases h
    rfl
  · split at h <;> cases h
    rfl
  · rw [direct_datetimeNow_bind, direct_select_bind] at h
    obtain ⟨-, h⟩ := direct_guard.mp h
    split at h <;> cases h
    rfl

def PromoCode.quote (promo : PromoCode) (amountRub : Money) : PromoQuoteOut where
  code := promo.code
  promoCodeId := promo.id
  amountBefore := amountRub
  discountRub := computeDiscount promo amountRub
  amountAfter := max 0 (amountRub - computeDiscount promo amountRub)

theorem direct_validateAndQuote_ok {plan : Option Uuid}
    (h : direct world (validateAndQuote code user plan orderType amountRub) s = (.ok quote, s')) :
    s' = s ∧ ∃ promo, quote = promo.quote amountRub ∧ PromoOpen s.db promo user := by
  unfold validateAndQuote at h
  rw [direct_select_bind] at h
  obtain ⟨found, mid, hfound, h⟩ := direct_bind_ok.mp h
  obtain ⟨hmid, hmem⟩ := direct_scalarOneOrNone_ok hfound
  obtain rfl : s = mid := hmid.symm
  cases found with
  | none => cases h
  | some promo =>
    dsimp only at h
    rw [direct_datetimeNow_bind] at h
    split at h
    · cases h
    obtain ⟨⟨⟩, checked, hchecked, h⟩ := direct_bind_ok.mp h
    obtain rfl : s = checked := (direct_checkAudience_ok hchecked).symm
    obtain ⟨htotal, h⟩ := direct_guard.mp h
    rw [direct_select_bind] at h
    obtain ⟨hperUser, h⟩ := direct_guard.mp h
    cases h
    have hrow := find?_of_mem (mem_of_mem_filter (hmem promo rfl))
    refine ⟨rfl, promo, rfl, hrow, fun limit hlimit => ?_, not_le.mp hperUser⟩
    rw [hlimit] at htotal
    simpa using htotal

theorem direct_applyPromo_ok
    (h : direct world (applyPromo data plan amountRub) s = (.ok quote, s')) :
    s' = s ∧ (0 ≤ amountRub → 0 ≤ quote.amountRub) ∧
      ∀ id, quote.promoCodeId = some id → ∃ promo, promo.id = id ∧
        PromoOpen s.db promo data.userId := by
  unfold applyPromo at h
  split at h
  · cases h
    exact ⟨rfl, id, nofun⟩
  · split at h
    · cases h
      exact ⟨rfl, id, nofun⟩
    · obtain ⟨quoted, mid, hquoted, h⟩ := direct_bind_ok.mp h
      obtain ⟨hmid, promo, rfl, hopen⟩ := direct_validateAndQuote_ok hquoted
      obtain rfl : s = mid := hmid.symm
      cases h
      exact ⟨rfl, fun _ => le_max_left _ _, fun id heq => ⟨promo, Option.some.inj heq, hopen⟩⟩

/-- Quoting an order changes nothing, the price is not negative unless slots are taken
back, and a promo code that it applies has room for one more activation by this user. -/
theorem direct_quoteOrder_ok (h : direct world (quoteOrder data plan) s = (.ok quote, s')) :
    s' = s ∧ NonnegQuote data plan quote.amountRub ∧
      ∀ id, quote.promoCodeId = some id → ∃ promo, promo.id = id ∧
        PromoOpen s.db promo data.userId := by
  unfold quoteOrder at h
  split at h
  · cases h
  obtain ⟨⟨⟩, guarded, hguarded, h⟩ := direct_bind_ok.mp h
  rw [direct_guardNoDowngrade] at hguarded
  split at hguarded
  · cases hguarded
  cases hguarded
  obtain ⟨proration, mid, hmid, h⟩ := direct_bind_ok.mp h
  rw [direct_switchProration] at hmid
  cases hmid
  obtain ⟨hstay, hnonneg, hpromo⟩ := direct_applyPromo_ok h
  refine ⟨hstay, fun hqty hprice => hnonneg ?_, hpromo⟩
  exact nonnegQuote_planAmount hqty hprice

section

variable (hplanId : data.planId = some plan.id) (hplan : s.db.plans.find? plan.id = some plan)
    (huser : s.db.users.find? data.userId = some user)

include hplanId hplan huser

theorem placing_of_trial (hprice : plan.priceRub ≤ 0)
    (h : direct world (createTrial user plan data) s = (.ok value, s')) :
    ∃ order, Placing cfg world data s order s' ∧ ReadBack order value s' := by
  unfold createTrial at h
  obtain ⟨hfree, h⟩ := direct_guard.mp h
  rw [direct_select_bind] at h
  obtain ⟨-, h⟩ := direct_guard.mp h
  rw [direct_datetimeNow_bind, direct_select_bind] at h
  obtain ⟨-, h⟩ := direct_guard.mp h
  rw [direct_select_bind] at h
  obtain ⟨-, h⟩ := direct_guard.mp h
  unfold createFreeOrder at h
  rw [direct_datetimeNow_bind, direct_uuid4_bind] at h
  obtain ⟨order, placed, hplaced, h⟩ := direct_bind_ok.mp h
  obtain ⟨-, horder, rfl⟩ := direct_createOrderRow.mp hplaced
  rw [← horder] at h
  obtain ⟨⟨⟩, delivered, hdelivered, h⟩ := direct_bind_ok.mp h
  obtain ⟨⟨⟩, done, hdone, h⟩ := direct_bind_ok.mp h
  cases hdone
  obtain ⟨rfl, hread⟩ := readBack_of_refreshedOrder h
  exact ⟨order, .trial plan user order delivered _ (not_not.mp hfree) hplanId hplan hprice
    huser horder hdelivered rfl, hread⟩

theorem placing_of_paidPlan (htype : data.orderType ∈ [.planPurchase, .subscriptionRenewal])
    (h : direct world (createPaidPlanOrder cfg user plan data) s = (.ok value, s')) :
    ∃ order, Placing cfg world data s order s' ∧ ReadBack order value s' := by
  unfold createPaidPlanOrder at h
  obtain ⟨-, h⟩ := direct_guard.mp h
  obtain ⟨quote, quoted, hquote, h⟩ := direct_bind_ok.mp h
  obtain rfl : s = quoted := (direct_quoteOrder_ok hquote).1.symm
  obtain ⟨expiresAt, first, hfirst, h⟩ := direct_bind_ok.mp h
  obtain ⟨-, rfl⟩ : _ ∧ s = first := by simpa [orderExpiry, direct_map] using hfirst
  split at h
  · rename_i hbalance
    unfold createBalancePlanOrder at h
    rw [direct_datetimeNow_bind, direct_uuid4_bind] at h
    obtain ⟨order, placed, hplaced, h⟩ := direct_bind_ok.mp h
    obtain ⟨⟨hfits, -⟩, horder, rfl⟩ := direct_createOrderRow.mp hplaced
    rw [← horder] at h
    obtain ⟨⟨⟩, bought, hbought, h⟩ := direct_bind_ok.mp h
    obtain ⟨⟨⟩, done, hdone, h⟩ := direct_bind_ok.mp h
    cases hdone
    obtain ⟨⟨⟩, recorded, hrecorded, h⟩ := direct_bind_ok.mp h
    obtain ⟨rfl, hread⟩ := readBack_of_refreshedOrder h
    exact ⟨order, .plan plan quote user order bought _ htype hbalance hplanId hplan hquote hfits
      huser horder hbought hrecorded, hread⟩
  · obtain ⟨externalId, opened, hopened, h⟩ := direct_bind_ok.mp h
    obtain ⟨hdb, hnext, hgateway⟩ := direct_openPayment_ok hopened
    obtain ⟨⟨hfits, -⟩, rfl, rfl⟩ := direct_createOrderRow.mp h
    refine ⟨_, .planWaiting plan quote externalId expiresAt opened.nextUuid _ _ htype hgateway
      hplanId hplan hquote hfits hnext rfl ?_, Or.inl rfl⟩
    rw [hdb]

end

theorem placing_of_plan (htype : data.orderType ∈ [.planPurchase, .subscriptionRenewal])
    (huser : s.db.users.find? data.userId = some user)
    (h : direct world (createPlanOrder cfg user data) s = (.ok value, s')) :
    ∃ order, Placing cfg world data s order s' ∧ ReadBack order value s' := by
  unfold createPlanOrder at h
  split at h
  · cases h
  rename_i planId hplanId
  obtain ⟨plan, hplan, h⟩ := direct_some rfl rfl h
  obtain rfl : plan.id = planId := key_of_find? hplan
  obtain ⟨renewal, mid, hrenewal, h⟩ := direct_bind_ok.mp h
  obtain rfl : s = mid := (direct_renewalSubscription_ok hrenewal).symm
  obtain ⟨-, h⟩ := direct_guard.mp h
  split at h
  · rename_i hprice
    exact placing_of_trial hplanId hplan huser hprice h
  · exact placing_of_paidPlan hplanId hplan huser htype h

/-- **How `create_order` places an order.** -/
theorem placing_of_createOrder (h : direct world (createOrder cfg data) s = (.ok value, s')) :
    ∃ order, Placing cfg world data s order s' ∧ ReadBack order value s' := by
  obtain ⟨user, huser, h⟩ := direct_some rfl rfl h
  cases htype : data.orderType with
  | deviceSlots =>
    simp only [htype] at h
    exact placing_of_deviceSlots htype h
  | topUp =>
    simp only [htype] at h
    exact ⟨value, placing_of_topUp htype h, Or.inl rfl⟩
  | planPurchase =>
    simp only [htype] at h
    exact placing_of_plan (by simp [htype]) huser h
  | subscriptionRenewal =>
    simp only [htype] at h
    exact placing_of_plan (by simp [htype]) huser h

/-! ## The placed order -/

section

variable {order row : PaymentOrder}

/-- A placed order takes an identifier that was not drawn before. -/
theorem Placing.le_id (h : Placing cfg world data s order s') : s.nextUuid ≤ order.id := by
  cases h with
  | topUp | slotsWaiting | planWaiting =>
    subst_vars
    assumption
  | slots | plan | trial =>
    subst_vars
    exact Nat.le_succ _

theorem Placing.find? (h : Placing cfg world data s order s')
    (hfree : s.db.orders.find? order.id = none) :
    ∃ row, s'.db.orders.find? order.id = some row ∧ row.terms = order.terms := by
  obtain ⟨ws, hws, -⟩ := h.writes
  exact ⟨_, hws ▸ find?_order_foldl (find?_insert_self hfree) ws, order.terms_patched _⟩

/-- What `create_order` returns has the terms of the order that it placed. -/
theorem Placing.terms (h : Placing cfg world data s order s')
    (hfree : s.db.orders.find? order.id = none) (hread : ReadBack order value s') :
    value.terms = order.terms := by
  rcases hread with rfl | hfound
  · rfl
  · obtain ⟨row, hrow, hterms⟩ := h.find? hfree
    obtain rfl : row = value := Option.mem_unique hrow hfound
    exact hterms

end

end VpnControl.Billing
