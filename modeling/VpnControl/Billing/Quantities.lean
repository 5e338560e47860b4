/-
# Orders for a negative quantity

`OrderCreateIn` does not bound `device_slots_qty`, and no check of `create_order` asks
for its sign. An order with a negative quantity has a negative price and takes slots
back. The requests for which ordering can pay the customer are characterised: they are
those that ask for a negative quantity and can be placed at all.
-/

import VpnControl.Billing.Purchases
import VpnControl.Billing.Scenario

namespace VpnControl.Billing

open Txn Option Write
open Table

section

variable {cfg : Settings} {world : World} {s s' : Store} {c c' later : Committed engine}
  {data : OrderCreateIn} {order value : PaymentOrder} {sub sub' : Subscription} {now : Time}
  {db db' : Database} {id : Uuid}

/-! ## The claim -/

/-- No price is negative. -/
def NonnegPrices (db : Database) : Prop :=
  ∀ plan ∈ db.plans.rows, 0 ≤ plan.priceRub ∧ 0 ≤ plan.devicePriceRub ∧
    ∀ period ∈ plan.periods, 0 ≤ period.priceRub

instance (db : Database) : Decidable (NonnegPrices db) :=
  inferInstanceAs (Decidable (∀ plan ∈ db.plans.rows, _))

/-- No subscription has lost paid device slots. -/
def SlotsKept (db db' : Database) : Prop :=
  ∀ id sub sub', db.subscriptions.find? id = some sub →
    db'.subscriptions.find? id = some sub' → sub.paidDeviceSlots ≤ sub'.paidDeviceSlots

/-- A created order does not pay the customer: not by its price, not by the balance it was
paid from, and not by its fulfilment, at once or whenever its payment arrives. -/
structure NeverPays (cfg : Settings) (data : OrderCreateIn) (c : Committed engine)
    (value : PaymentOrder) (c' : Committed engine) : Prop where
  amount : 0 ≤ value.amountRub
  balance : data.provider = .balance → ∀ user user',
    c.state.users.find? data.userId = some user → c'.state.users.find? data.userId = some user' →
      user'.balance ≤ user.balance
  slots : SlotsKept c.state c'.state
  fulfilment : ∀ later op world order providerName, History cfg (fun _ => True) c' later →
    Pays cfg later.state op order providerName → order.id = value.id →
      SlotsKept later.state (op.run cfg world later).2.state

/-- The request asks for a negative quantity, and for an order that has one. -/
structure OrderCreateIn.TakesBack (data : OrderCreateIn) : Prop where
  negative : data.deviceSlotsQty < 0
  fits : -2147483648 ≤ data.deviceSlotsQty
  notFree : data.provider ≠ .free
  target : data.orderType = .deviceSlots ∧ data.subscriptionId.isSome ∨
    data.orderType ∈ [.planPurchase, .subscriptionRenewal] ∧ data.planId.isSome

/-! ## Quantities that are not negative -/

/-- A placed order has a negative quantity only if its request takes slots back. -/
theorem Placing.qty_nonneg (h : Placing cfg world data s order s') (hdata : ¬ data.TakesBack) :
    0 ≤ order.deviceSlotsQty := by
  cases h with
  | topUp | trial =>
    subst_vars
    exact le_refl _
  | slotsWaiting _ _ _ _ _ _ _ htype hgateway hsub _ _ _ hfits =>
    subst_vars
    exact not_lt.mp fun hneg => hdata ⟨hneg, hfits.1, hgateway.2, .inl ⟨htype, by simp [hsub]⟩⟩
  | planWaiting _ _ _ _ _ _ _ htype hgateway hplanId _ _ hfits =>
    subst_vars
    exact not_lt.mp fun hneg => hdata ⟨hneg, hfits.1, hgateway.2, .inr ⟨htype, by simp [hplanId]⟩⟩
  | slots _ _ _ _ _ _ htype hbalance hsub _ _ _ _ hfits =>
    subst_vars
    exact not_lt.mp fun hneg =>
      hdata ⟨hneg, hfits.1, by simp [hbalance], .inl ⟨htype, by simp [hsub]⟩⟩
  | plan _ _ _ _ _ _ htype hbalance hplanId _ _ hfits =>
    subst_vars
    exact not_lt.mp fun hneg =>
      hdata ⟨hneg, hfits.1, by simp [hbalance], .inr ⟨htype, by simp [hplanId]⟩⟩

/-- An order for a quantity that is not negative has a price that is not negative. -/
theorem Placing.amount_nonneg (h : Placing cfg world data s order s')
    (hprices : NonnegPrices s.db) (hqty : 0 ≤ order.deviceSlotsQty) : 0 ≤ order.amountRub := by
  have hslots : ∀ price : Money, 0 < price → 0 ≤ data.deviceSlotsQty →
      0 ≤ (data.deviceSlotsQty : Money) * price :=
    fun price hprice hqty => mul_nonneg (Int.cast_nonneg hqty) hprice.le
  have hquoted : ∀ plan quote, s.db.plans.find? plan.id = some plan →
      direct world (quoteOrder data plan) s = (.ok quote, s) → 0 ≤ data.deviceSlotsQty →
      0 ≤ quote.amountRub := by
    intro plan quote hplan hquote hqty
    have hprice := (hprices plan (mem_of_find? hplan)).2.1
    exact (direct_quoteOrder_ok hquote).2.1 hqty hprice
  cases h with
  | topUp _ _ _ _ _ _ _ _ hamount =>
    subst_vars
    exact hamount.le
  | slotsWaiting _ _ _ _ _ _ _ _ _ _ _ _ hprice | slots _ _ _ _ _ _ _ _ _ _ _ _ hprice =>
    subst_vars
    exact hslots _ hprice hqty
  | planWaiting plan quote _ _ _ _ _ _ _ _ hplan hquote | plan plan quote _ _ _ _ _ _ _ hplan hquote =>
    subst_vars
    exact hquoted plan quote hplan hquote hqty
  | trial =>
    subst_vars
    exact le_refl _

/-- A fulfilment adds the quantity of its order, or leaves the slots. -/
theorem SubChange.slots_le (h : SubChange db order now sub sub')
    (hqty : 0 ≤ order.deviceSlotsQty) : sub.paidDeviceSlots ≤ sub'.paidDeviceSlots := by
  cases h with
  | same => exact le_refl _
  | slots => exact le_add_of_nonneg_right hqty
  | extended =>
    simp only [extensionPatch]
    split
    · exact le_add_of_nonneg_right hqty
    · split
      · exact le_add_of_nonneg_right hqty
      · exact le_refl _

theorem Placing.slotsKept (h : Placing cfg world data s order s')
    (hqty : 0 ≤ order.deviceSlotsQty) : SlotsKept s.db s'.db := by
  intro id sub sub' hsub hsub'
  obtain ⟨after, hafter, hchange⟩ := subChange_of_placing h hsub
  obtain rfl : after = sub' := mem_unique hafter hsub'
  rcases hchange with rfl | ⟨-, hchange⟩ | ⟨-, expiresAt, rfl⟩
  · exact le_refl _
  · exact hchange.slots_le hqty
  · exact le_refl _

/-! ## The balance -/

/-- A write that leaves the balances alone. -/
def Write.SparesBalances : Write → Prop
  | .setBalance _ _ => False
  | _ => True

theorem direct_sparesBalances {p : Service α} (hp : Writes SparesBalances p)
    (h : direct world p s = (result, s')) :
    s'.db.users = s.db.users :=
  direct_unchanged Database.users (fun w db hw => by cases w <;> first | rfl | cases hw) hp h

/-- The balance after a purchase is what the price left of it. -/
theorem balance_of_payFromBalance (hdeliver : ∀ user, Writes SparesBalances (deliver user))
    (h : direct world (payFromBalance user order type description true deliver) s = (.ok (), s')) :
    ∃ holder, s.db.users.find? user = some holder ∧
      s'.db.users.find? user = some { holder with balance := holder.balance - order.amountRub } := by
  rcases posted_of_payFromBalance h with
    ⟨holder, row, hholder, -, hposts, hafter, hdelivered⟩ | ⟨hstrict, -⟩
  · refine ⟨holder, hholder, ?_⟩
    rw [direct_sparesBalances (hdeliver user) hdelivered]
    obtain rfl : row.userId = user := hposts.userId
    have hset : (posted row s).db.users.find? row.userId =
        (s.db.users.find? row.userId).map ({ · with balance := row.balanceAfter }) :=
      Table.find?_modify_self (R := User) ({ · with balance := row.balanceAfter }) fun _ => rfl
    rw [hset, hholder, hafter]
    rfl
  · cases hstrict

/-- An order from the balance with a price that is not negative does not raise it. -/
theorem Placing.balance_le (h : Placing cfg world data s order s')
    (hbalance : data.provider = .balance) (hamount : 0 ≤ order.amountRub)
    (huser : s.db.users.find? data.userId = some user)
    (huser' : s'.db.users.find? data.userId = some user') : user'.balance ≤ user.balance := by
  have hpaid : ∀ paid : User, s.db.users.find? data.userId = some paid →
      s'.db.users.find? data.userId = some { paid with balance := paid.balance - order.amountRub } →
      user'.balance ≤ user.balance := by
    intro paid hbefore hafter
    obtain rfl : paid = user := mem_unique hbefore huser
    rw [← mem_unique hafter huser']
    exact sub_le_self _ hamount
  cases h with
  | topUp _ _ _ _ _ _ _ hgateway | slotsWaiting _ _ _ _ _ _ _ _ hgateway
  | planWaiting _ _ _ _ _ _ _ _ hgateway => exact absurd hbalance hgateway.1
  | trial _ _ _ _ _ hfree => simp [hbalance] at hfree
  | slots _ _ account order _ _ _ _ _ _ _ _ _ _ haccount _ hbought hdone =>
    have hdeliver : Writes SparesBalances (addDeviceSlots order) :=
      .addDeviceSlots fun _ _ => trivial
    obtain ⟨holder, hholder, hset⟩ := balance_of_payFromBalance (fun _ => hdeliver) hbought
    have hid : account.id = data.userId := key_of_find? haccount
    rw [hid] at hholder hset
    subst hdone
    exact hpaid holder hholder hset
  | plan plan _ account order bought _ _ _ _ _ _ _ haccount _ hbought hrecorded =>
    have hdeliver : ∀ user, Writes SparesBalances
        (deliverPlan user plan order world.now) := fun _ =>
      .deliverPlan (fun _ => trivial) (fun _ _ => trivial) fun _ => trivial
    obtain ⟨holder, hholder, hset⟩ := balance_of_payFromBalance hdeliver hbought
    have hid : account.id = data.userId := key_of_find? haccount
    rw [hid] at hholder hset
    have hsame := direct_sparesBalances
      (.recordPromoActivation (fun _ _ => trivial) fun _ => trivial) hrecorded
    refine hpaid holder hholder ?_
    rw [hsame]
    exact hset

/-! ## Payments -/

/-- An operation pays at most one order. -/
theorem Pays.unique (h : Pays cfg db op order providerName) (h' : Pays cfg db op other otherName) :
    order = other := by
  cases h with
  | webhook _ _ webhook _ hverified _ _ hfound =>
    cases h' with
    | webhook _ _ webhook' _ hverified' _ _ hfound' =>
      obtain rfl : webhook = webhook' := mem_unique hverified hverified'
      exact mem_unique hfound hfound'
  | stars _ _ hfound =>
    generalize hop : Operation.confirmStarsPayment order.id = op at h'
    cases h' with
    | webhook => cases hop
    | stars _ _ hfound' =>
      have hid : order.id = other.id := Operation.confirmStarsPayment.inj hop
      rw [hid] at hfound
      exact mem_unique hfound hfound'

theorem Pays.isPayment (h : Pays cfg db op order providerName) : op.IsPayment := by
  cases h <;> trivial

/-- The payment of an order for a quantity that is not negative takes no slots. -/
theorem slotsKept_of_pays
    (h : Pays cfg c.state op order providerName) (hqty : 0 ≤ order.deviceSlotsQty) :
    SlotsKept c.state (op.run cfg world c).2.state := by
  intro id sub sub' hsub hsub'
  obtain ⟨after, hafter, hchange⟩ := Operation.opChange (Or.inl h.isPayment) cfg world c hsub
  obtain rfl : after = sub' := mem_unique hafter hsub'
  cases hchange with
  | same => exact le_refl _
  | trial => exact le_refl _
  | fulfilled _ _ hfulfils hchange =>
    cases hfulfils with
    | paid _ _ _ hpays =>
      obtain rfl := h.unique hpays
      exact hchange.slots_le hqty
    | boughtPlan => cases h.isPayment
    | boughtSlots => cases h.isPayment

theorem Operation.terms (cfg : Settings) (op : Operation) (world : World)
    (h : c.state.orders.find? id = some order) :
    ∃ row, (op.run cfg world c).2.state.orders.find? id = some row ∧ row.terms = order.terms := by
  rcases op.run_cases cfg world c with ⟨s', hdirect, hstate⟩ | hstate
  · obtain ⟨row, hrow, hterms⟩ := direct_terms h hdirect
    exact ⟨row, by rw [hstate, hrow], hterms⟩
  · exact ⟨order, by rw [hstate, h], rfl⟩

theorem History.terms
    (h : History cfg allowed c later) (hrow : c.state.orders.find? id = some order) :
    ∃ row, later.state.orders.find? id = some row ∧ row.terms = order.terms := by
  induction h with
  | refl => exact ⟨order, hrow, rfl⟩
  | tail op world _ _ ih =>
    obtain ⟨row, hfound, hterms⟩ := ih
    obtain ⟨last, hlast, hterms'⟩ := Operation.terms cfg op world hfound
    exact ⟨last, hlast, hterms'.trans hterms⟩

/-- A request that takes nothing back does not pay the customer. -/
theorem neverPays_of_createOrder (hdata : ¬ data.TakesBack) (hprices : NonnegPrices c.state)
    (h : request (createOrder cfg data) (world.session c.state) c = (.ok value, c')) :
    NeverPays cfg data c value c' := by
  obtain ⟨s', hdirect, hstate⟩ := direct_of_request h
  obtain ⟨order, hplacing, hread⟩ := placing_of_createOrder hdirect
  have hfree : c.state.orders.find? order.id = none := find?_order_of_fresh hplacing.le_id
  have hterms : value.terms = order.terms := hplacing.terms hfree hread
  have hqty : 0 ≤ order.deviceSlotsQty := hplacing.qty_nonneg hdata
  have hamount : 0 ≤ order.amountRub := hplacing.amount_nonneg hprices hqty
  have same := PaymentOrder.sameTerms hterms
  refine ⟨?_, ?_, ?_, ?_⟩
  · rw [same.amountRub]
    exact hamount
  · intro hbalance user user' huser huser'
    rw [hstate] at huser'
    exact hplacing.balance_le hbalance hamount huser huser'
  · rw [hstate]
    exact hplacing.slotsKept hqty
  · intro later op world paid providerName hhistory hpays hid
    obtain ⟨row, hrow, hrowTerms⟩ := hplacing.find? hfree
    rw [← hstate] at hrow
    have hsameId : paid.id = order.id := hid.trans same.id
    obtain ⟨last, hlast, hlastTerms⟩ := hhistory.terms hrow
    rw [← hsameId, hpays.find?] at hlast
    obtain rfl : paid = last := some.inj hlast
    have hpaid := PaymentOrder.sameTerms (hlastTerms.trans hrowTerms)
    exact slotsKept_of_pays hpays (hpaid.deviceSlotsQty ▸ hqty)

/-! ## Negative quantities -/

/-- Slots that are taken back have a negative price. -/
theorem Placing.amount_neg (h : Placing cfg world data s order s')
    (htype : data.orderType = .deviceSlots) (hfree : data.provider ≠ .free)
    (hneg : data.deviceSlotsQty < 0) : order.amountRub < 0 := by
  have hslots : ∀ price : Money, 0 < price → (data.deviceSlotsQty : Money) * price < 0 :=
    fun price hprice => mul_neg_of_neg_of_pos (Int.cast_lt_zero.mpr hneg) hprice
  cases h with
  | topUp _ _ _ _ _ _ hother | planWaiting _ _ _ _ _ _ _ hother | plan _ _ _ _ _ _ hother =>
    simp [htype] at hother
  | trial _ _ _ _ _ htrial => exact absurd htrial hfree
  | slotsWaiting _ _ _ _ _ _ _ _ _ _ _ _ hprice | slots _ _ _ _ _ _ _ _ _ _ _ _ hprice =>
    subst_vars
    exact hslots _ hprice

/-- Nothing is switched if every subscription is one of the bought plan. -/
theorem switchedPlan_eq_none (h : ∀ sub ∈ db.subscriptions.rows, sub.planId = some newPlan) :
    db.switchedPlan user newPlan now = none := by
  unfold Database.switchedPlan
  cases hcurrent : db.currentActiveSubscription user now with
  | none => rfl
  | some current =>
    have hmem : current ∈ db.subscriptions.rows :=
      List.mem_of_mem_filter (List.mem_of_mem_filter (List.argmax_mem hcurrent))
    simp [h current hmem]

end

/-! ### A shop where the request succeeds -/

namespace Scenario

/-- Every gateway is configured. -/
def openSettings : Settings :=
  { settings with
    billing :=
      { cryptoApiKey := "key"
        cryptoShopId := "shop"
        cryptoWebhookSecret := "secret"
        freekassaShopId := "shop"
        freekassaSecretWord1 := "first"
        freekassaSecretWord2 := "second"
        plategaShopId := "shop"
        plategaApiKey := "key" } }

variable (data : OrderCreateIn)

/-- The plan of the request, for sale in the requested period. -/
def askedPlan : Plan where
  id := data.planId.getD 0
  name := "Basic"
  isActive := true
  priceRub := 1
  devicePriceRub := 2
  periods := [⟨data.periodMonths, 1, none⟩]
  includedDevices := 1 - data.deviceSlotsQty
  maxDevices := 1 - data.deviceSlotsQty
  durationDays := 30

/-- The subscription that the request names. -/
def askedSubscription (id : Uuid) : Subscription where
  id := id
  userId := data.userId
  planId := some (askedPlan data).id
  isActive := true
  expiresAt := some 1
  maxDevices := none
  paidDeviceSlots := 0
  periodMonths := 1
  autoRenew := false

/-- The user of the request without a balance, and what the request names. -/
def askedShop : Database :=
  { Database.empty with
    users := Table.empty.insert { id := data.userId, balance := 0 }
    plans := Table.empty.insert (askedPlan data)
    subscriptions := match data.subscriptionId with
      | none => Table.empty
      | some id => Table.empty.insert (askedSubscription data id) }

end Scenario

section

open Scenario

variable {data : OrderCreateIn} {s : Store}

theorem nonnegPrices_askedShop : NonnegPrices (askedShop data) := by
  intro plan hplan
  obtain rfl : plan = askedPlan data := by simpa [askedShop, Table.insert, Table.empty] using hplan
  exact ⟨by simp [askedPlan], by simp [askedPlan], by simp [askedPlan]⟩

theorem find?_askedShop_user :
    (askedShop data).users.find? data.userId = some { id := data.userId, balance := 0 } := by
  simp [askedShop, Table.insert, Table.empty, Table.find?, Row.key]

theorem find?_askedShop_plan :
    (askedShop data).plans.find? (askedPlan data).id = some (askedPlan data) := by
  simp [askedShop, Table.insert, Table.empty, Table.find?, Row.key]

theorem find?_askedShop_subscription {id : Uuid} (h : data.subscriptionId = some id) :
    (askedShop data).subscriptions.find? id = some (askedSubscription data id) := by
  simp [askedShop, h, Table.insert, Table.empty, Table.find?, Row.key, askedSubscription]

theorem planId_of_mem_askedShop
    (h : sub ∈ (askedShop data).subscriptions.rows) : sub.planId = some (askedPlan data).id := by
  cases hsub : data.subscriptionId with
  | none => simp [askedShop, hsub, Table.empty] at h
  | some id =>
    obtain rfl : sub = askedSubscription data id := by
      simpa [askedShop, hsub, Table.insert, Table.empty] using h
    rfl

theorem direct_openPayment_openSettings (hbalance : data.provider ≠ .balance)
    (hfree : data.provider ≠ .free) (description : String) (s : Store) :
    ∃ externalId opened, direct world (openPayment openSettings data amountRub description) s =
      (.ok externalId, opened) ∧ opened.db = s.db := by
  unfold openPayment
  cases hprovider : data.provider with
  | stars => exact ⟨_, _, rfl, rfl⟩
  | crypto => exact ⟨_, _, rfl, rfl⟩
  | freekassa => exact ⟨_, _, rfl, rfl⟩
  | platega => exact ⟨_, _, rfl, rfl⟩
  | balance => exact absurd hprovider hbalance
  | free => exact absurd hprovider hfree

/-- Slots that the balance covers are bought. -/
theorem direct_fulfillDeviceSlots_ok
    (hholder : s.db.users.find? user = some holder) (hcovers : order.amountRub ≤ holder.balance) :
    ∃ s', direct world (fulfillDeviceSlots user order true) s = (.ok (), s') := by
  obtain ⟨row, hrun⟩ : ∃ row, direct world (fulfillDeviceSlots user order true) s =
      direct world (addDeviceSlots order)
        { db := (s.db.apply (.setBalance holder.id (holder.balance - order.amountRub))).apply
            (.insertTransaction row)
          nextUuid := s.nextUuid + 1 } := direct_payFromBalance world hholder hcovers
  rw [hrun]
  unfold addDeviceSlots getSubscription
  split
  · exact ⟨_, rfl⟩
  · rw [direct_select_bind]
    split <;> exact ⟨_, rfl⟩

/-- Slots are sold from a balance that covers them. -/
theorem direct_createBalanceDeviceSlotOrder_ok (huser : s.db.users.find? data.userId = some user)
    (hfits : fitsInteger qty) (hnone : s.db.orders.rows = []) (hcovers : amountRub ≤ user.balance) :
    ∃ value s', direct world (createBalanceDeviceSlotOrder data.userId sub qty amountRub) s =
      (.ok value, s') := by
  have hid : user.id = data.userId := key_of_find? huser
  let row : PaymentOrder := OrderInternalCreate.row
    { userId := data.userId, amountRub := amountRub, provider := .balance, status := .paid
      externalId := s!"balance_{s.nextUuid}", subscriptionId := some sub, orderType := .deviceSlots
      deviceSlotsQty := qty } (s.nextUuid + 1) world.now
  have hcreated : direct world (createOrderRow
      { userId := data.userId, amountRub := amountRub, provider := .balance, status := .paid
        externalId := s!"balance_{s.nextUuid}", subscriptionId := some sub
        orderType := .deviceSlots
        deviceSlotsQty := qty }) (drawn s) = (.ok row, inserted row (drawn s)) :=
    direct_createOrderRow.mpr ⟨⟨hfits, by simp [drawn, hnone]⟩, rfl, rfl⟩
  have huser' : (inserted row (drawn s)).db.users.find? user.id = some user := by
    rw [hid]
    exact huser
  have hcovers' : row.amountRub ≤ user.balance := hcovers
  obtain ⟨bought, hbought⟩ := direct_fulfillDeviceSlots_ok huser' hcovers'
  have hplaced : (inserted row (drawn s)).db.orders.find? row.id = some row :=
    Table.find?_insert_self (by simp [Table.find?, drawn, hnone])
  obtain ⟨first, hfirst, -⟩ := direct_terms hplaced hbought
  obtain ⟨second, hsecond, -⟩ := terms_of_apply hfirst
  refine ⟨second, boughtAtOnce world row bought, ?_⟩
  refine direct_bind_ok.mpr ⟨world.now, s, rfl, direct_bind_ok.mpr ⟨s.nextUuid, drawn s, rfl, ?_⟩⟩
  refine direct_bind_ok.mpr ⟨row, _, hcreated, ?_⟩
  rw [direct_getUser_bind, ← hid, huser']
  exact direct_bind_ok.mpr ⟨(), bought, hbought, direct_bind_ok.mpr ⟨(), _, rfl,
    direct_refreshedOrder hsecond⟩⟩

/-- The shop sells the slots of the request. -/
theorem direct_createOrder_askedShop_slots (htype : data.orderType = .deviceSlots)
    (hsub : data.subscriptionId = some sub) (hneg : data.deviceSlotsQty < 0)
    (hfits : fitsInteger data.deviceSlotsQty) (hfree : data.provider ≠ .free) :
    ∃ value s', direct world (createOrder openSettings data) ⟨askedShop data, uuid⟩ =
      (.ok value, s') := by
  have hplace : direct world (createOrder openSettings data) ⟨askedShop data, uuid⟩ =
      direct world (placeDeviceSlotOrder openSettings data sub (askedPlan data))
        ⟨askedShop data, uuid⟩ := by
    have hlimit : ¬ (askedPlan data).maxDevices - (askedPlan data).includedDevices -
        (askedSubscription data sub).paidDeviceSlots < data.deviceSlotsQty := by
      simp only [askedPlan, askedSubscription]
      omega
    have hprice : ¬ (askedPlan data).devicePriceRub ≤ 0 := by simp [askedPlan]
    have hplanId : (askedSubscription data sub).planId = some (askedPlan data).id := rfl
    have hactive : (askedSubscription data sub).isActive = true := rfl
    simp only [createOrder, direct_bind, direct_getUser, find?_askedShop_user, htype,
      createDeviceSlotOrder, hsub, getSubscription, direct_select, find?_askedShop_subscription hsub,
      hactive, planOfSubscription, hplanId, getPlan, find?_askedShop_plan, hlimit, hprice,
      not_true_eq_false, if_false]
  rw [hplace]
  unfold placeDeviceSlotOrder
  have hamount : (data.deviceSlotsQty : Money) * (askedPlan data).devicePriceRub ≤ 0 :=
    mul_nonpos_of_nonpos_of_nonneg (Int.cast_nonpos.mpr hneg.le) (by simp [askedPlan])
  by_cases hbalance : data.provider = .balance
  · simp only [orderExpiry, direct_bind, direct_datetimeNow, direct_pure, hbalance, if_true]
    exact direct_createBalanceDeviceSlotOrder_ok find?_askedShop_user hfits rfl hamount
  · simp only [hbalance, if_false]
    obtain ⟨externalId, opened, hopened, hdb⟩ := direct_openPayment_openSettings hbalance hfree
      s!"{data.deviceSlotsQty} device slot(s) for {(askedPlan data).name}" ⟨askedShop data, uuid⟩
    have hnone : opened.db.orders.rows = [] := by rw [hdb]; rfl
    let row : PaymentOrder := (slotOrder data
      (data.deviceSlotsQty * (askedPlan data).devicePriceRub) .pending externalId
      (some (world.now + minutes openSettings.billing.orderTtlMinutes)) none).row opened.nextUuid
      world.now
    have hcreated : direct world (createOrderRow (slotOrder data
        (data.deviceSlotsQty * (askedPlan data).devicePriceRub) .pending externalId
        (some (world.now + minutes openSettings.billing.orderTtlMinutes)) none)) opened =
          (.ok row, inserted row opened) :=
      direct_createOrderRow.mpr ⟨⟨hfits, by simp [hnone]⟩, rfl, rfl⟩
    have hplaced : (inserted row opened).db.orders.find? row.id = some row :=
      Table.find?_insert_self (by simp [Table.find?, hnone])
    obtain ⟨value, hvalue, -⟩ := terms_of_apply hplaced
    let named : Store :=
      { inserted row opened with
        db := (inserted row opened).db.apply (.updateOrder row.id { subscriptionId := some sub }) }
    refine ⟨value, named, direct_bind_ok.mpr ⟨_, _, rfl, direct_bind_ok.mpr ⟨_, _, hopened, ?_⟩⟩⟩
    exact direct_bind_ok.mpr ⟨row, _, hcreated, direct_bind_ok.mpr ⟨(), named, rfl,
      direct_refreshedOrder hvalue⟩⟩

/-- The price of a plan in the shop, when slots are taken back. -/
theorem planAmount_askedShop_neg (hneg : data.deviceSlotsQty < 0) (now : Time) :
    (askedShop data).planAmount data (askedPlan data) 1 now < 0 := by
  have hproration : (askedShop data).switchProration data.userId (askedPlan data).id now = 0 := by
    unfold Database.switchProration
    rw [switchedPlan_eq_none fun sub => planId_of_mem_askedShop]
  have hqty : (data.deviceSlotsQty : Money) ≤ -1 := by exact_mod_cast Int.le_sub_one_of_lt hneg
  have hslots : (data.deviceSlotsQty : Money) * 2 ≤ -2 := by linarith
  have hprice : (askedPlan data).devicePriceRub = 2 := rfl
  simp only [Database.planAmount, planAmount, hproration, ite_self, hprice]
  norm_num
  linarith

theorem direct_quoteOrder_askedShop (hneg : data.deviceSlotsQty < 0) :
    direct world (quoteOrder data (askedPlan data)) ⟨askedShop data, uuid⟩ =
      (.ok { amountRub := (askedShop data).planAmount data (askedPlan data) 1 world.now },
        ⟨askedShop data, uuid⟩) := by
  have hprice : resolvePeriodPrice (askedPlan data) data.periodMonths = some 1 := by
    simp [resolvePeriodPrice, askedPlan]
  have hguard : (askedShop data).downgrades data.userId (askedPlan data) world.now = false := by
    unfold Database.downgrades
    rw [switchedPlan_eq_none fun sub => planId_of_mem_askedShop]
    rfl
  let shop : Store := ⟨askedShop data, uuid⟩
  have hnothing : shop.db.planAmount data (askedPlan data) 1 world.now ≤ 0 :=
    (planAmount_askedShop_neg hneg world.now).le
  have hquote := direct_quoteOrder world hprice (.inr hnothing)
  rw [if_neg (by simp [shop, hguard])] at hquote
  exact hquote

/-- The shop sells the plan of the request, for that price. -/
theorem direct_createOrder_askedShop_plan
    (htype : data.orderType ∈ [.planPurchase, .subscriptionRenewal]) (hplanId : data.planId.isSome)
    (hneg : data.deviceSlotsQty < 0) (hfits : fitsInteger data.deviceSlotsQty)
    (hfree : data.provider ≠ .free) :
    ∃ value s', direct world (createOrder openSettings data) ⟨askedShop data, uuid⟩ =
      (.ok value, s') ∧ value.amountRub < 0 := by
  have hid : data.planId = some (askedPlan data).id := by
    obtain ⟨id, hid⟩ := isSome_iff_exists.mp hplanId
    simp [askedPlan, hid]
  have hnamed : ∀ id, data.subscriptionId = some id → ∃ sub,
      (askedShop data).subscriptions.find? id = some sub ∧ sub.userId = data.userId ∧
        sub.planId = data.planId := fun id hsub =>
    ⟨askedSubscription data id, find?_askedShop_subscription hsub, rfl, hid.symm⟩
  have hamount := planAmount_askedShop_neg hneg world.now
  rw [direct_createOrder_plan openSettings htype find?_askedShop_user hid
    find?_askedShop_plan hnamed (.inl rfl) (by simp [askedPlan])]
  by_cases hbalance : data.provider = .balance
  · rw [direct_createPaidPlanOrder_balance openSettings hbalance, direct_bind,
      direct_quoteOrder_askedShop hneg]
    have hbuyable : Buyable world ⟨askedShop data, uuid⟩ { id := data.userId, balance := 0 }
        (askedPlan data) data
        { amountRub := (askedShop data).planAmount data (askedPlan data) 1 world.now }
        { id := data.userId, balance := 0 } := by
      refine ⟨hfits, by simp [askedShop, Database.empty, Table.empty], hamount.le, ?_⟩
      unfold Deliverable
      split
      · rfl
      · simp [askedPlan, balancePlanRow, planOrder, OrderInternalCreate.row]
    obtain ⟨value, s', hdirect, hvalue⟩ := hbuyable.direct find?_askedShop_user
    refine ⟨value, s', hdirect, ?_⟩
    rw [hvalue rfl]
    exact hamount
  · obtain ⟨externalId, opened, hopened, hdb⟩ := direct_openPayment_openSettings hbalance hfree
      (planDescription data (askedPlan data)) ⟨askedShop data, uuid⟩
    have hnone : opened.db.orders.rows = [] := by rw [hdb]; rfl
    unfold createPaidPlanOrder
    simp only [hfree, hbalance, if_false]
    refine ⟨_, _, direct_bind_ok.mpr ⟨_, _, direct_quoteOrder_askedShop hneg,
      direct_bind_ok.mpr ⟨_, _, rfl, direct_bind_ok.mpr ⟨_, _, hopened,
        direct_createOrderRow.mpr ⟨⟨hfits, by simp [hnone]⟩, rfl, rfl⟩⟩⟩⟩, ?_⟩
    exact hamount

theorem exists_not_neverPays (hdata : data.TakesBack) :
    ∃ cfg world c value c', NonnegPrices c.state ∧
      request (createOrder cfg data) (World.session world c.state) c = (.ok value, c') ∧
      ¬ NeverPays cfg data c value c' := by
  have hfits : fitsInteger data.deviceSlotsQty := ⟨hdata.fits, by have := hdata.negative; omega⟩
  let c : Committed engine := { state := askedShop data, log := [] }
  have hsold : ∃ value s', direct world (createOrder openSettings data) (storeOf c) =
      (.ok value, s') ∧ value.amountRub < 0 := by
    rcases hdata.target with ⟨htype, hsub⟩ | ⟨htype, hplanId⟩
    · obtain ⟨sub, hsub⟩ := isSome_iff_exists.mp hsub
      obtain ⟨value, s', hdirect⟩ := direct_createOrder_askedShop_slots htype hsub hdata.negative
        hfits hdata.notFree
      refine ⟨value, s', hdirect, ?_⟩
      obtain ⟨order, hplacing, hread⟩ := placing_of_createOrder hdirect
      have hterms : value.terms = order.terms := hplacing.terms rfl hread
      rw [(PaymentOrder.sameTerms hterms).amountRub]
      exact hplacing.amount_neg htype hdata.notFree hdata.negative
    · exact direct_createOrder_askedShop_plan htype hplanId hdata.negative hfits hdata.notFree
  obtain ⟨value, s', hdirect, hamount⟩ := hsold
  obtain ⟨later, hrequest, -⟩ := request_of_direct hdirect
  exact ⟨openSettings, world, c, value, later, nonnegPrices_askedShop, hrequest,
    fun hnever => absurd hnever.amount (not_le.mpr hamount)⟩

/-- **Orders never pay the customer.** A request is safe in every database without negative
prices exactly if it does not take slots back. -/
theorem neverPays_iff (data : OrderCreateIn) : (∀ cfg world c value c', NonnegPrices c.state →
      request (createOrder cfg data) (World.session world c.state) c = (.ok value, c') →
        NeverPays cfg data c value c') ↔ ¬ data.TakesBack := by
  constructor
  · intro hall hdata
    obtain ⟨cfg, world, c, value, c', hprices, hrequest, hpays⟩ := exists_not_neverPays hdata
    exact hpays (hall cfg world c value c' hprices hrequest)
  · intro hdata cfg world c value c' hprices hrequest
    exact neverPays_of_createOrder hdata hprices hrequest

end

namespace Scenario

/-- Three device slots fewer, from the balance. -/
def slotsBack : OrderCreateIn where
  userId := 1
  provider := .balance
  orderType := .deviceSlots
  deviceSlotsQty := -3
  subscriptionId := some 3

/-- User 1 without a balance runs the plan with three paid slots. -/
def slotHolder : Committed engine where
  state :=
    { database 0 with
      subscriptions := Table.empty.insert { running with paidDeviceSlots := 3 } }
  log := []

end Scenario

open Scenario in
/-- Three slots fewer cost -150: the balance rises by 150 and the slots are gone. -/
theorem slotsBack_pays : NonnegPrices slotHolder.state ∧ ∃ value c',
      request (createOrder settings slotsBack) (world.session slotHolder.state) slotHolder =
        (.ok value, c') ∧ value.amountRub = -150 ∧
      (c'.state.users.find? 1).map User.balance = some 150 ∧
      (c'.state.subscriptions.find? 3).map Subscription.paidDeviceSlots = some 0 ∧
      ¬ NeverPays settings slotsBack slotHolder value c' := by
  let run := request (createOrder settings slotsBack) (world.session slotHolder.state) slotHolder
  have hok : run.1.toOption.map PaymentOrder.amountRub = some (-150) := by decide +kernel
  obtain ⟨value, hvalue, hamount⟩ := Option.map_eq_some_iff.mp hok
  have hrun : run.1 = .ok value := by
    cases hresult : run.1 with
    | error => simp [hresult, Except.toOption] at hvalue
    | ok => simpa [hresult, Except.toOption] using hvalue
  refine ⟨by decide +kernel, value, run.2, Prod.ext hrun rfl, hamount, by decide +kernel,
    by decide +kernel, fun hnever => ?_⟩
  have hle := hnever.amount
  rw [hamount] at hle
  exact absurd hle (by norm_num)

end VpnControl.Billing
